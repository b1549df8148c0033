import ContainerTasks.Proofs.Run.ImagePool
import ContainerTasks.Proofs.Run.Trace

/-! # What the turns of a pool leave in the trace

Whatever turns a pool takes, the next image in line is begun only while there is room for one
more, and what is under way ends in some order, until a failure is to be reported or the program
breaks down (`Turns`). A preparation fails because its call does, or because output of it cannot
be written; only a build has output (`Preparation.QuietPull`).
-/

namespace ContainerTasks.Run

variable {σ : Type}

/-- An image that a container needs. -/
structure Need where
  container : String
  method : Method

namespace Need

/-- What a container of a project needs. -/
def ofContainer (project : String) (container : Project.Container) : Need :=
  ⟨container.name, .ofContainer project container⟩

/-- The call that prepares it. -/
def call (need : Need) : Call :=
  need.method.call

/-- The container with the image to start it with. -/
def entry (need : Need) : String × String :=
  (need.container, need.method.image)

/-- How the preparation of an image fails, given what its call is answered: the program breaks
down in it; it fails, which cancels the run if it was a build that was cancelled; or output of a
build could not be written. -/
inductive Fails (need : Need) : Option Engine.Fault → Error → Prop
  | brokenDown {cause : Breakdown} : need.Fails (some (.brokenDown cause)) (.brokenDown cause)
  | cancelled {request : Engine.BuildRequest} (builds : need.method = .build request) :
      need.Fails (some .cancelled) .cancelled
  | refused {fault : Engine.Fault} (whole : ∀ cause, fault ≠ .brokenDown cause)
      (other : ∀ request, need.method = .build request → fault ≠ .cancelled) :
      need.Fails (some fault) (.imagePreparation need.container fault)
  | unwritten {request : Engine.BuildRequest} {answer : Option Engine.Fault} {reason : String}
      (whole : ∀ cause, answer ≠ some (.brokenDown cause))
      (builds : need.method = .build request) : need.Fails answer (.output reason)

/-- What comes of the preparation of an image, given what its call is answered. -/
inductive Comes (need : Need) : Option Engine.Fault → Except Error String → Prop
  | prepared : need.Comes none (.ok need.method.image)
  | failed {fault : Option Engine.Fault} {error : Error} (fails : need.Fails fault error) :
      need.Comes fault (.error error)

end Need

/-- What is under way. -/
def Preparation.need (preparation : Preparation σ) : Need :=
  ⟨preparation.container, preparation.method⟩

/-- How the turns of a pool go, given those in line, those under way and what has come of the
others. -/
inductive Turns (limit : Nat) : (waiting working : List Need) → Results →
    Except Error (List (String × String)) → List Mark → Prop
  | due {waiting working : List Need} {results : Results} {error : Error}
      (due : results.due? = some error) : Turns limit waiting working results (.error error) []
  | done {results : Results} (going : results.due? = none) :
      Turns limit [] [] results results.total []
  | begun {need : Need} {waiting working : List Need} {results : Results} {cancelled : Bool}
      {result : Except Error (List (String × String))} {marks : List Mark}
      (going : results.due? = none) (room : working.length < limit)
      (later : Turns limit waiting (working ++ [need]) results result marks) :
      Turns limit (need :: waiting) working results result (.began need.call cancelled :: marks)
  | ended {need : Need} {waiting before after : List Need} {results : Results}
      {fault : Option Engine.Fault} {outcome : Except Error String}
      {result : Except Error (List (String × String))} {marks : List Mark}
      (going : results.due? = none) (comes : need.Comes fault outcome)
      (later : Turns limit waiting (before ++ after)
        (results.add before.length need.container outcome) result marks) :
      Turns limit waiting (before ++ need :: after) results result
        (.ended need.call fault :: marks)
  | broken {need : Need} {waiting before after : List Need} {results : Results}
      {cause : Breakdown} (going : results.due? = none) :
      Turns limit waiting (before ++ need :: after) results (.error (.brokenDown cause))
        [.ended need.call (some (.brokenDown cause))]

/-- What happens up to a pause and after it is part of the whole. -/
theorem mem_of_stretch {ρ : Type} {course now : List (Engine.Moment ρ)}
    {later : Option (List (Engine.Moment ρ))} (split : stretch course = (now, later)) :
    (∀ moment ∈ now, moment ∈ course) ∧
      ∀ rest, later = some rest → ∀ moment ∈ rest, moment ∈ course := by
  induction course generalizing now with
  | nil =>
      obtain ⟨rfl, rfl⟩ := Prod.mk.inj split
      exact ⟨by simp, by simp⟩
  | cons first course ih =>
      cases first with
      | pause =>
          obtain ⟨rfl, rfl⟩ := Prod.mk.inj split
          refine ⟨by simp, fun rest same moment member => ?_⟩
          exact List.mem_cons_of_mem _ (Option.some.inj same ▸ member)
      | cancel | news =>
          obtain ⟨rfl, rfl⟩ := Prod.mk.inj split
          obtain ⟨front, back⟩ := ih rfl
          refine ⟨fun moment member => ?_, fun rest same moment member => ?_⟩
          · rcases List.mem_cons.mp member with rfl | member
            · exact List.mem_cons_self
            · exact List.mem_cons_of_mem _ (front moment member)
          · exact List.mem_cons_of_mem _ (back rest same moment member)

/-- Where there is no output among the moments there is none in the answer. -/
theorem happen_trace (container : String) (moments : List (Engine.Moment Engine.BuildNews)) :
    trace.Records (happen container moments : Action σ Bytes) fun output marks =>
      marks = [] ∧ ((∀ moment ∈ moments, isOutput moment = false) → output = []) := by
  induction moments with
  | nil => exact .pure ⟨rfl, fun _ => rfl⟩
  | cons moment rest ih =>
      have later : trace.Records (happen container rest : Action σ Bytes) fun output marks =>
          marks = [] ∧ ((∀ other ∈ moment :: rest, isOutput other = false) → output = []) :=
        ih.mono fun output marks ⟨nothing, quiet⟩ =>
          ⟨nothing, fun silent => quiet fun other member => silent other (.tail _ member)⟩
      cases moment with
      | pause => exact later
      | cancel => exact cancel_silent.bind_records fun _ => later
      | news news =>
          cases news with
          | progress steps => exact (note_silent _ _ _).bind_records fun _ => later
          | output text =>
              refine (happen_silent _ _).bind_records fun _ => .pure ⟨rfl, fun silent => ?_⟩
              cases silent _ List.mem_cons_self

namespace Preparation

/-- A preparation has no output, now or later, and none is left of what it had. -/
structure Quiet (preparation : Preparation σ) : Prop where
  course : ∀ moment ∈ preparation.course, isOutput moment = false
  line : preparation.line = []
  copyFault : preparation.copyFault = none

/-- A preparation is quiet unless it builds. -/
def QuietPull (preparation : Preparation σ) : Prop :=
  (∃ request, preparation.method = .build request) ∨ preparation.Quiet

variable {preparation : Preparation σ} {now later : List (Engine.Moment Engine.BuildNews)}

/-- To copy no output of a quiet preparation is to do nothing. -/
theorem Quiet.copy_eq (quiet : preparation.Quiet) (writeFault : Nat → Option String)
    (closing : Bool) : preparation.copy writeFault [] closing = pure preparation := by
  unfold copy
  simp only [quiet.copyFault, quiet.line, BuildOutput.lines, List.append_nil, List.isEmpty_nil,
    Option.isSome_none, Bool.false_eq_true, ↓reduceIte, Bool.not_true, Bool.and_false, copyLines,
    pure_bind]
  rw [← quiet.copyFault, ← quiet.line]

/-- What is still to happen of a preparation that was quiet is quiet as well. -/
theorem QuietPull.remaining (quiet : preparation.QuietPull)
    (part : ∀ moment ∈ later, moment ∈ preparation.course) :
    { preparation with course := preparation.remaining later }.QuietPull := by
  refine quiet.imp id fun quiet => ⟨fun moment member => ?_, quiet.line, quiet.copyFault⟩
  refine quiet.course moment (part moment ?_)
  simpa only [Preparation.remaining, quiet.copyFault, Option.isSome_none, Bool.false_eq_true,
    ↓reduceIte] using member

theorem start_trace (engine : Engine σ) (project : String) (container : Project.Container) :
    trace.Records (Preparation.start engine project container) fun preparation marks =>
      preparation.need = .ofContainer project container ∧ preparation.QuietPull ∧
        ∃ cancelled, marks = [.began preparation.need.call cancelled] := by
  unfold Preparation.start Need.ofContainer
  cases Method.ofContainer project container with
  | pull image =>
      refine (beginCall_trace _ _).bind ?_
      rintro work _ ⟨cancelled, rfl⟩
      refine .pure ⟨rfl, Or.inr ⟨fun moment member => ?_, rfl, rfl⟩, cancelled, rfl⟩
      obtain ⟨source, -, rfl⟩ := List.mem_map.mp member
      cases source with
      | pause | cancel => rfl
      | news none => exact none.elim
  | build request =>
      refine Silent.get.bind_records fun state => ?_
      refine (beginCall_trace _ _).bind ?_
      rintro work _ ⟨cancelled, rfl⟩
      exact .pure ⟨rfl, Or.inl ⟨request, rfl⟩, cancelled, rfl⟩

/-- Up to a pause a preparation stays the same but for its output, and if it is quiet in every
way. -/
theorem advance_trace (writeFault : Nat → Option String) (quiet : preparation.QuietPull)
    (part : ∀ moment ∈ now, moment ∈ preparation.course)
    (rest : ∀ moment ∈ later, moment ∈ preparation.course) :
    trace.Records (preparation.advance writeFault now false) fun advanced marks =>
      marks = [] ∧ advanced.need = preparation.need ∧
        { advanced with course := advanced.remaining later }.QuietPull := by
  rcases quiet with ⟨request, builds⟩ | quiet
  · refine (advance_records writeFault preparation now false).mono ?_
    rintro advanced marks ⟨rfl, container, method, -⟩
    exact ⟨rfl, by rw [need, need, container, method], Or.inl ⟨request, method.trans builds⟩⟩
  · refine (happen_trace _ _).bind ?_
    rintro output _ ⟨rfl, silent⟩
    rw [silent fun moment member => quiet.course moment (part moment member), quiet.copy_eq]
    exact .pure ⟨rfl, rfl, QuietPull.remaining (Or.inr quiet) rest⟩

/-- The result of a preparation is what comes of it. -/
theorem result_trace {answer : Except Engine.Fault String}
    (whole : ∀ cause, answer ≠ .error (.brokenDown cause))
    (either : (∃ request, preparation.method = .build request) ∨ preparation.copyFault = none) :
    trace.Records (preparation.result answer).run fun outcome marks =>
      marks = [] ∧ preparation.need.Comes (faultOf answer) outcome := by
  have unbroken (cause : Breakdown) : faultOf answer ≠ some (.brokenDown cause) := by
    intro broken
    cases answer with
    | ok image => cases broken
    | error fault => exact whole cause (congrArg Except.error (Option.some.inj broken))
  unfold result
  cases stopped : preparation.copyFault with
  | some reason =>
      obtain ⟨request, builds⟩ := either.resolve_right (by rw [stopped]; exact nofun)
      exact .throw ⟨rfl, .failed (.unwritten unbroken builds)⟩
  | none =>
      dsimp only
      split
      · rename_i request _ builds
        exact .throw ⟨rfl, .failed (.cancelled builds)⟩
      · rename_i fault other
        refine .throw ⟨rfl, .failed (.refused (fun cause same => whole cause (same ▸ rfl)) other)⟩
      · rename_i image _ pulls
        have same : preparation.need.method.image = image := congrArg Method.image pulls
        refine (note_silent _ _ _).lift_records fun _ => .pure ⟨rfl, ?_⟩
        rw [← same]
        exact .prepared
      · rename_i request _ builds
        have same : preparation.need.method.image = request.tag := congrArg Method.image builds
        refine (note_silent _ _ _).lift_records fun _ => .pure ⟨rfl, ?_⟩
        rw [← same]
        exact .prepared

/-- The end of a preparation is the end of its call, and the answer is what comes of it, unless
the program breaks down. -/
theorem conclude_trace (writeFault : Nat → Option String) (quiet : preparation.QuietPull)
    (part : ∀ moment ∈ now, moment ∈ preparation.course) :
    trace.Records (preparation.conclude writeFault now).run fun result marks =>
      ∃ fault, marks = [.ended preparation.need.call fault] ∧
        match result with
        | .ok outcome => preparation.need.Comes fault outcome
        | .error error => ∃ cause, fault = some (.brokenDown cause) ∧ error = .brokenDown cause := by
  unfold conclude
  refine (happen_trace _ _).lift ?_
  rintro output _ ⟨rfl, silent⟩
  refine (endCall_trace _ _).lift ?_
  rintro answer _ rfl
  have copies : trace.Records (preparation.copy writeFault output true) fun copied marks =>
      marks = [] ∧ copied.need = preparation.need ∧
        ((∃ request, copied.method = .build request) ∨ copied.copyFault = none) := by
    rcases quiet with ⟨request, builds⟩ | quiet
    · refine (copy_records writeFault preparation output true).mono ?_
      rintro copied marks ⟨rfl, container, method, -⟩
      exact ⟨rfl, by rw [need, need, container, method], Or.inl ⟨request, method.trans builds⟩⟩
    · rw [silent fun moment member => quiet.course moment (part moment member), quiet.copy_eq]
      exact .pure ⟨rfl, rfl, Or.inr quiet.copyFault⟩
  split
  · rename_i cause
    exact .throw ⟨_, rfl, cause, rfl, rfl⟩
  · rename_i whole
    refine copies.lift ?_
    rintro copied _ ⟨rfl, same, either⟩
    refine .lifted ((result_trace (fun cause same => whole cause same) either).mono ?_)
    rintro outcome _ ⟨rfl, comes⟩
    exact ⟨_, rfl, same ▸ comes⟩

/-- What goes on from the end of a preparation goes on from the end of its call, unless the
program breaks down. -/
theorem conclude_bind {limit : Nat} (writeFault : Nat → Option String)
    (quiet : preparation.QuietPull) (part : ∀ moment ∈ now, moment ∈ preparation.course)
    {rest : Except Error String → Attempt σ (List (String × String))}
    {waiting before after : List Need} {results : Results} (going : results.due? = none)
    (next : ∀ outcome, trace.Records (rest outcome).run
      (Turns limit waiting (before ++ after)
        (results.add before.length preparation.container outcome))) :
    trace.Records (preparation.conclude writeFault now >>= rest).run
      (Turns limit waiting (before ++ preparation.need :: after) results) := by
  refine (conclude_trace writeFault quiet part).attempt ?_ ?_
  · rintro outcome _ ⟨fault, rfl, comes⟩
    exact (next outcome).mono fun result marks later => .ended going comes later
  · rintro error _ ⟨_, rfl, cause, rfl, rfl⟩
    exact .broken going

end Preparation

namespace ImagePool

theorem map_need_set {working : List (Preparation σ)} {place : Nat}
    (inside : place < working.length) {next : Preparation σ}
    (same : next.need = working[place].need) :
    (working.set place next).map Preparation.need = working.map Preparation.need := by
  have mapped : place < (working.map Preparation.need).length := by rwa [List.length_map]
  have present : (working.map Preparation.need)[place] = next.need := by
    rw [List.getElem_map, same]
  rw [List.map_set, ← present]
  exact List.set_getElem_self mapped

theorem map_need_split {working : List (Preparation σ)} {place : Nat}
    (inside : place < working.length) :
    working.map Preparation.need =
      (working.take place).map Preparation.need ++ working[place].need ::
        (working.drop (place + 1)).map Preparation.need := by
  rw [← List.map_cons, ← List.map_append, List.getElem_cons_drop, List.take_append_drop]

/-- A pool leaves in the trace what its turns do, for the images in line and those under
way. -/
theorem run_turns (pool : ImagePool σ) (waiting : List Project.Container)
    (working : List (Preparation σ)) (results : Results) (turns : List Turn)
    (quiet : ∀ preparation ∈ working, preparation.QuietPull) :
    trace.Records (pool.run waiting working results turns).run
      (Turns pool.limit.count (waiting.map (.ofContainer pool.project))
        (working.map Preparation.need) results) := by
  induction waiting, working, results, turns using ImagePool.run.induct pool with
  | case1 waiting working results turns error due =>
      rw [run_due due]
      exact .throw (.due due)
  | case2 waiting working results turns going place inside preparation now later paused ih =>
      obtain ⟨part, rest⟩ := mem_of_stretch paused
      rw [run_paused going rfl inside paused]
      refine (Preparation.advance_trace _ (quiet _ (List.getElem_mem inside)) part
        (rest later rfl)).lift ?_
      rintro advanced _ ⟨rfl, same, quietNext⟩
      have kept := ih advanced fun other member => by
        rcases List.mem_or_eq_of_mem_set member with old | rfl
        · exact quiet other old
        · exact quietNext
      rwa [map_need_set inside (by exact same)] at kept
  | case3 waiting working results turns going place inside preparation now ended ih =>
      have before : ((working.take place).map Preparation.need).length = place := by
        rw [List.length_map, List.length_take_of_le (Nat.le_of_lt inside)]
      rw [run_ended going rfl inside ended, map_need_split inside]
      refine Preparation.conclude_bind _ (quiet _ (List.getElem_mem inside))
        (mem_of_stretch ended).1 going fun outcome => ?_
      rw [before, ← List.map_append, ← List.eraseIdx_eq_take_drop_succ]
      exact ih outcome fun other member => quiet other (List.mem_of_mem_eraseIdx member)
  | case4 working results turns going place outside =>
      rw [run_over going rfl outside]
      obtain rfl := working_eq_nil rfl outside
      exact .pure (.done going)
  | case5 working results turns going container waiting place outside paused ended =>
      rw [run_begun going rfl outside]
      refine (Preparation.start_trace _ _ _).lift ?_
      rintro preparation _ ⟨same, quietNext, cancelled, rfl⟩
      suffices begun : trace.Records _
          (Turns pool.limit.count (waiting.map (.ofContainer pool.project))
            (working.map Preparation.need ++ [preparation.need]) results) by
        refine begun.mono fun result marks turns => ?_
        rw [List.map_cons, ← same]
        refine .begun going ?_ turns
        rw [List.length_map]
        exact lt_of_begun rfl outside
      split
      · rename_i now later split
        obtain ⟨part, rest⟩ := mem_of_stretch split
        refine (Preparation.advance_trace _ quietNext part (rest later rfl)).lift ?_
        rintro advanced _ ⟨rfl, kept, quietLater⟩
        have goesOn := paused later advanced
          (List.forall_mem_append.mpr ⟨quiet, List.forall_mem_singleton.mpr quietLater⟩)
        rw [List.map_append] at goesOn
        rwa [← kept]
      · rename_i now split
        refine Preparation.conclude_bind _ quietNext (mem_of_stretch split).1 going fun outcome => ?_
        rw [List.append_nil, List.length_map]
        exact ended preparation outcome quiet

theorem prepare_turns (pool : ImagePool σ) (containers : List Project.Container) :
    trace.Records (pool.prepare containers).run fun result marks =>
      ∃ named, result = named.map (fun images => .ofList images) ∧
        Turns pool.limit.count (containers.map (.ofContainer pool.project)) []
          { inLine := few < containers.length } named marks := by
  refine (pool.run_turns containers [] _ [] (by simp)).attempt ?_ ?_
  · intro named marks turns
    refine .pure ⟨.ok named, rfl, ?_⟩
    rwa [List.append_nil]
  · exact fun error marks turns => ⟨.error error, rfl, turns⟩

end ImagePool

/-- How the images of containers are prepared, given what this ends with: in turns, unless more
permits are asked for than there may be. -/
inductive Setup.Prepares (setup : Setup σ) (containers : List Project.Container) :
    Except Error TextMap → List Mark → Prop
  | beyond (beyond : ¬ setup.Permitted) :
      setup.Prepares containers (.error (.brokenDown .permits)) []
  | pooled {named : Except Error (List (String × String))} {marks : List Mark}
      (permitted : setup.Permitted)
      (turns : Turns setup.limit (containers.map (.ofContainer setup.project.name)) []
        { inLine := ImagePool.few < containers.length } named marks) :
      setup.Prepares containers (named.map fun images => .ofList images) marks

/-- Images that are prepared are so in turns. -/
theorem Setup.Prepares.of_ok {setup : Setup σ} {containers : List Project.Container}
    {images : TextMap} {marks : List Mark} (prepares : setup.Prepares containers (.ok images) marks) :
    ∃ named : List (String × String), images = .ofList named ∧
      Turns setup.limit (containers.map (.ofContainer setup.project.name)) []
        { inLine := ImagePool.few < containers.length } (.ok named) marks := by
  generalize same : Except.ok images = result at prepares
  cases prepares with
  | beyond _ => cases same
  | @pooled named _ permitted turns =>
      cases named with
      | error _ => cases same
      | ok named =>
          cases same
          exact ⟨named, rfl, turns⟩

theorem Setup.prepare_trace (setup : Setup σ) (containers : List Project.Container) :
    trace.Records (setup.prepare containers).run (setup.Prepares containers) := by
  refine setup.prepare_records containers .beyond fun permitted => ?_
  refine ((setup.poolOf permitted).prepare_turns containers).mono ?_
  rintro _ marks ⟨named, rfl, turns⟩
  exact .pooled permitted turns

end ContainerTasks.Run
