import ContainerTasks.Proofs.Run.Output
import ContainerTasks.Proofs.Run.TaskTrace

/-! # Images prepared side by side

Whatever the schedule, the calls that were made and not answered are at any time those of the
images under way, and the limit bounds these (`Turns.exists_underWay`). The images come out
the same in whichever order the calls end. If some cannot be prepared, the error is that of the
first of them: of the first that ends, where they are few (`Turns.exists_first`), and else of the
first in line (`Turns.blames`). A task whose images cannot all be prepared starts no container
(`SideBySide`), and one for which more permits are asked than there may be does not even begin.
-/

namespace ContainerTasks.Run

variable {σ : Type}

/-- What has ended was one of those under way, wherever it stood among them. -/
theorem Need.perm_calls (need : Need) (before after : List Need) (calls : List Call) :
    (need.call :: ((before ++ after).map Need.call ++ calls)).Perm
      ((before ++ need :: after).map Need.call ++ calls) :=
  ((List.perm_middle.map Need.call).append_right calls).symm

namespace Turns

variable {limit : Nat} {waiting working line front : List Need} {results : Results}
  {result : Except Error (List (String × String))} {error : Error} {held : Option Error}
  {marks earlier : List Mark}

/-- At any time the calls that were made and not answered are those of what is under way, and
there is no more of it than the limit allows. -/
theorem exists_underWay (turns : Turns limit waiting working results result marks)
    (full : working.length ≤ limit) (part : earlier <+: marks) :
    ∃ underWay : List Need, underWay.length ≤ limit ∧
      (answered earlier ++ underWay.map Need.call).Perm
        (working.map Need.call ++ made earlier) := by
  -- Before anything happens what is under way is what was so from the start.
  have start : ∀ working : List Need, working.length ≤ limit →
      ∃ underWay : List Need, underWay.length ≤ limit ∧
        (answered [] ++ underWay.map Need.call).Perm (working.map Need.call ++ made []) := by
    intro working full
    refine ⟨working, full, ?_⟩
    change (working.map Need.call).Perm (working.map Need.call ++ [])
    rw [List.append_nil]
  induction turns generalizing earlier with
  | due _ | done _ =>
      obtain rfl := List.prefix_nil.mp part
      exact start _ full
  | begun _ room _ ih =>
      rcases List.prefix_cons_iff.mp part with rfl | ⟨rest, rfl, inside⟩
      · exact start _ full
      · obtain ⟨underWay, few, same⟩ := ih (by rw [List.length_append]; exact room) inside
        rw [List.map_append, List.append_assoc] at same
        exact ⟨underWay, few, same⟩
  | @ended need _ before after _ _ _ _ _ _ _ _ ih =>
      rcases List.prefix_cons_iff.mp part with rfl | ⟨rest, rfl, inside⟩
      · exact start _ full
      · have fewer : (before ++ after).length ≤ limit :=
          ((List.sublist_cons_self need after).append_left before).length_le.trans full
        obtain ⟨underWay, few, same⟩ := ih fewer inside
        exact ⟨underWay, few, (same.cons need.call).trans (need.perm_calls before after _)⟩
  | @broken need _ before after _ _ _ =>
      rcases List.prefix_cons_iff.mp part with rfl | ⟨rest, rfl, inside⟩
      · exact start _ full
      · obtain rfl := List.prefix_nil.mp inside
        have fewer : (before ++ after).length ≤ limit :=
          ((List.sublist_cons_self need after).append_left before).length_le.trans full
        have others := need.perm_calls before after []
        rw [List.append_nil] at others
        exact ⟨before ++ after, fewer, others⟩

/-- Where failures are reported at once, the first that fails is the last that ends. -/
theorem exists_first (turns : Turns limit waiting working results (.error error) marks)
    (prompt : results.inLine = false) (sound : results.failure = none) :
    ∃ need ∈ working ++ waiting, ∃ earlier fault,
      marks = earlier ++ [.ended need.call fault] ∧ need.Fails fault error ∧
        answered earlier = succeeded earlier := by
  generalize same : Except.error error = result at turns
  induction turns with
  | due due => cases sound.symm.trans (Results.failure_of_due due)
  | done _ =>
      obtain ⟨earlier, failure⟩ := Results.exists_failure_of_total same.symm
      cases sound.symm.trans failure
  | begun _ _ _ ih =>
      obtain ⟨need, member, earlier, fault, rfl, fails, answers⟩ := ih prompt sound same
      rw [List.append_assoc, List.singleton_append] at member
      exact ⟨need, member, _ :: earlier, fault, rfl, fails, answers⟩
  | @ended need _ before after results fault outcome _ marks _ comes later ih =>
      have member : need ∈ before ++ need :: after :=
        List.mem_append_right _ List.mem_cons_self
      cases comes with
      | prepared =>
          have still : (results.add before.length need.container (.ok need.method.image)).failure =
              none := by
            rw [Results.add, sound]
            rfl
          obtain ⟨failing, member, earlier, fault, rfl, fails, answers⟩ := ih prompt still same
          refine ⟨failing, ?_, _ :: earlier, fault, rfl, fails,
            congrArg (need.call :: ·) answers⟩
          rw [List.append_assoc, List.cons_append]
          rw [List.append_assoc] at member
          exact List.perm_middle.mem_iff.mpr (List.mem_cons_of_mem _ member)
      | @failed _ other fails =>
          have due : (results.add before.length need.container (.error other)).due? =
              some other := by
            simp [Results.add, Results.due?, sound, prompt]
          obtain ⟨reported, rfl⟩ := later.eq_of_due due
          cases same.trans reported
          exact ⟨need, List.mem_append_left _ member, [], fault, rfl, fails, rfl⟩
  | @broken need _ before after _ _ _ =>
      cases same
      refine ⟨need, ?_, [], _, rfl, .brokenDown, rfl⟩
      exact List.mem_append_left _ (List.mem_append_right _ List.mem_cons_self)

end Turns

/-! ## The first in line -/

/-- Those whose end is still waited for before a failure is reported, in line: those before the
one whose failure is held back, and all if none is. -/
inductive Ahead (results : Results) (waiting working : List Need) :
    List Need → Option Error → Prop
  | held {front rest : List Need} {error : Error} (split : working = front ++ rest)
      (failure : results.failure = some (front.length, error)) :
      Ahead results waiting working front (some error)
  | free (sound : results.failure = none) : Ahead results waiting working (working ++ waiting) none

/-- What the error comes from, given those ahead and the failure that is held back: the failure of
one ahead, or what is held back, where those before have ended well; or a breakdown. -/
inductive Blames (line front : List Need) (held : Option Error) (marks : List Mark) : Error → Prop
  | held {error : Error} (same : held = some error)
      (ended : (front.map Need.call).Subperm (succeeded marks)) : Blames line front held marks error
  | failed {before after : List Need} {need : Need} {fault : Option Engine.Fault} {error : Error}
      (split : front = before ++ need :: after) (fails : need.Fails fault error)
      (last : .ended need.call fault ∈ marks)
      (ended : (before.map Need.call).Subperm (succeeded marks)) :
      Blames line front held marks error
  | broken {need : Need} {cause : Breakdown} (member : need ∈ line)
      (last : .ended need.call (some (.brokenDown cause)) ∈ marks) :
      Blames line front held marks (.brokenDown cause)

theorem succeeded_subperm_cons (mark : Mark) (marks : List Mark) :
    (succeeded marks).Subperm (succeeded (mark :: marks)) := by
  rw [← List.singleton_append, succeeded_append]
  exact (List.sublist_append_right _ _).subperm

namespace Blames

variable {line front before rest : List Need} {need : Need} {held : Option Error}
  {fault : Option Engine.Fault} {marks : List Mark} {error other : Error}

theorem later (blames : Blames line front held marks error) (mark : Mark) :
    Blames line front held (mark :: marks) error := by
  cases blames with
  | held same ended => exact .held same (ended.trans (succeeded_subperm_cons mark marks))
  | failed split fails last ended =>
      exact .failed split fails (List.mem_cons_of_mem _ last)
        (ended.trans (succeeded_subperm_cons mark marks))
  | broken member last => exact .broken member (List.mem_cons_of_mem _ last)

/-- One ahead has ended well. -/
theorem succeed (blames : Blames line (before ++ rest) held marks error) :
    Blames line (before ++ need :: rest) held (.ended need.call none :: marks) error := by
  have more : ∀ {first second : List Need},
      ((first ++ second).map Need.call).Subperm (succeeded marks) →
        ((first ++ need :: second).map Need.call).Subperm
          (succeeded (.ended need.call none :: marks)) := by
    intro first second ended
    refine .trans (List.Perm.subperm ?_) ((List.subperm_cons need.call).mpr ended)
    exact List.perm_middle.map Need.call
  cases blames with
  | held same ended => exact .held same (more ended)
  | broken member last => exact .broken member (List.mem_cons_of_mem _ last)
  | @failed front back failing fault _ split fails last ended =>
      have last := List.mem_cons_of_mem (.ended need.call none) last
      rcases exists_of_append_eq split with ⟨middle, rfl, rfl⟩ | ⟨middle, rfl, rfl⟩
      · have behind : before ++ need :: (middle ++ failing :: back) =
            (before ++ need :: middle) ++ failing :: back := by simp
        exact .failed behind fails last (more ended)
      · have ahead : (front ++ failing :: middle) ++ need :: rest =
            front ++ failing :: (middle ++ need :: rest) := by simp
        exact .failed ahead fails last (ended.trans (succeeded_subperm_cons _ marks))

/-- One ahead has failed, and this is held back now. -/
theorem fail (blames : Blames line before (some other) marks error)
    (fails : need.Fails fault other) :
    Blames line (before ++ need :: rest) held (.ended need.call fault :: marks) error := by
  cases blames with
  | held same ended =>
      obtain rfl := Option.some.inj same
      exact .failed rfl fails List.mem_cons_self (ended.trans (succeeded_subperm_cons _ marks))
  | @failed front back failing _ _ split otherFails last ended =>
      have ahead : before ++ need :: rest = front ++ failing :: (back ++ need :: rest) := by
        rw [split, List.append_assoc, List.cons_append]
      exact .failed ahead otherFails (List.mem_cons_of_mem _ last)
        (ended.trans (succeeded_subperm_cons _ marks))
  | broken member last => exact .broken member (List.mem_cons_of_mem _ last)

end Blames

namespace Ahead

variable {results : Results} {waiting before after front : List Need} {need : Need}
  {held : Option Error}

/-- What becomes of those ahead when one under way ends: if it is one of them it is no more, and if
it fails then its failure is held back; otherwise nothing changes. -/
theorem step (ahead : Ahead results waiting (before ++ need :: after) front held)
    (inLine : results.inLine = true) (container : String) :
    (∃ rest, front = before ++ need :: rest ∧
      (∀ image, Ahead (results.add before.length container (.ok image)) waiting (before ++ after)
        (before ++ rest) held) ∧
      ∀ error, Ahead (results.add before.length container (.error error)) waiting
        (before ++ after) before (some error)) ∨
    ∀ outcome, Ahead (results.add before.length container outcome) waiting (before ++ after)
      front held := by
  generalize ended : before ++ need :: after = working at ahead
  cases ahead with
  | @held _ others error split failure =>
      rcases exists_of_append_eq (split.symm.trans ended.symm) with
        ⟨middle, rfl, -⟩ | ⟨middle, rfl, rfl⟩
      · refine Or.inr fun outcome => .held (List.append_assoc front middle after) ?_
        cases outcome with
        | ok image => simp [Results.add, failure]
        | error other => simp [Results.add, failure]
      · have split : before ++ (middle ++ others) = before ++ middle ++ others :=
          (List.append_assoc _ _ _).symm
        refine Or.inl ⟨middle, rfl, fun image => .held split ?_, fun other => .held rfl ?_⟩
        · simp [Results.add, failure]
        · have ahead : ¬ before.length + (middle.length + 1) ≤ before.length := by omega
          simp [Results.add, failure, inLine, ahead]
  | free sound =>
      subst ended
      refine Or.inl ⟨after ++ waiting, by simp, fun image => ?_, fun other => .held rfl ?_⟩
      · have still : (results.add before.length container (.ok image)).failure = none := by
          simp [Results.add, sound]
        rw [← List.append_assoc]
        exact .free still
      · simp [Results.add, sound, inLine]

/-- One that is begun does not come before any of those ahead. -/
theorem begin {working : List Need} (ahead : Ahead results (need :: waiting) working front held) :
    Ahead results waiting (working ++ [need]) front held := by
  cases ahead with
  | @held _ rest _ split failure =>
      exact .held (by rw [split, List.append_assoc]) failure
  | free sound =>
      have line : working ++ need :: waiting = working ++ [need] ++ waiting := by simp
      rw [line]
      exact .free sound

end Ahead

namespace Results

variable {results : Results} {place : Nat} {container : String} {outcome : Except Error String}

@[simp] theorem add_inLine : (results.add place container outcome).inLine = results.inLine := by
  cases outcome with
  | ok image => rfl
  | error error =>
      rw [add]
      split
      · rfl
      · rfl

end Results

/-- Where failures are reported in line, the error is that of the first in line which cannot be
prepared, unless the program breaks down. -/
theorem Turns.blames {limit : Nat} {waiting working line front : List Need} {results : Results}
    {error : Error} {held : Option Error} {marks : List Mark}
    (turns : Turns limit waiting working results (.error error) marks)
    (inLine : results.inLine = true) (ahead : Ahead results waiting working front held)
    (within : working ++ waiting ⊆ line) : Blames line front held marks error := by
  generalize same : Except.error error = result at turns
  induction turns generalizing front held with
  | due due =>
      cases same
      have failure := Results.failure_of_due due
      cases ahead with
      | held _ other =>
          obtain ⟨nothing, rfl⟩ := Prod.mk.inj (Option.some.inj (other.symm.trans failure))
          obtain rfl := List.length_eq_zero_iff.mp nothing
          exact .held rfl (List.nil_subperm)
      | free sound => cases sound.symm.trans failure
  | done going =>
      obtain ⟨earlier, failure⟩ := Results.exists_failure_of_total same.symm
      cases ahead with
      | held split other =>
          obtain ⟨rfl, -⟩ := List.append_eq_nil_iff.mp split.symm
          rw [Results.due?, other] at going
          cases going
      | free sound => cases sound.symm.trans failure
  | begun _ _ _ ih =>
      rw [← List.singleton_append, ← List.append_assoc] at within
      exact (ih inLine ahead.begin within same).later _
  | @ended need waiting before after results fault outcome _ marks _ comes later ih =>
      have inside : before ++ after ++ waiting ⊆ line := by
        refine List.Subset.trans ?_ within
        have fewer := (List.sublist_cons_self need after).append_left before
        exact (fewer.append_right waiting).subset
      have still : (results.add before.length need.container outcome).inLine = true := by
        rwa [Results.add_inLine]
      rcases ahead.step inLine need.container with ⟨rest, rfl, prepared, failed⟩ | unchanged
      · cases comes with
        | prepared => exact (ih still (prepared _) inside same).succeed
        | failed fails => exact (ih still (failed _) inside same).fail fails
      · exact (ih still (unchanged _) inside same).later _
  | @broken need _ before after _ cause _ =>
      cases same
      refine .broken (within ?_) (List.mem_singleton_self _)
      exact List.mem_append_left _ (List.mem_append_right _ List.mem_cons_self)

namespace Setup

/-- The call that prepares the image of a container. -/
def preparation (setup : Setup σ) (container : Project.Container) : Call :=
  (Method.ofContainer setup.project.name container).call

/-- Images cannot all be prepared, and the error is that of one of them. Where there are few, no call
failed before and none ends after; where there are many, all images before it in line have been
prepared, unless the program broke down. -/
inductive Unprepared (setup : Setup σ) (containers : List Project.Container) (error : Error)
    (marks : List Mark) : Prop
  | intro {before after : List Project.Container} {container : Project.Container}
      {fault : Option Engine.Fault} (line : containers = before ++ container :: after)
      (ended : .ended (setup.preparation container) fault ∈ marks)
      (fails : (Need.ofContainer setup.project.name container).Fails fault error)
      (refused : ∀ reason, error = .output reason → Refused setup.writeFault reason)
      (first : containers.length ≤ ImagePool.few → ∃ earlier,
        marks = earlier ++ [.ended (setup.preparation container) fault] ∧
          answered earlier = succeeded earlier)
      (foremost : ImagePool.few < containers.length →
        (before.map setup.preparation).Subperm (succeeded marks) ∨
          ∃ cause, fault = some (.brokenDown cause))

/-- How the images of containers are prepared side by side, given what this ends with. -/
structure SideBySide (setup : Setup σ) (containers : List Project.Container)
    (result : Except Error TextMap) (marks : List Mark) : Prop where
  /-- At any time no more calls are under way than the limit allows, which is at least one. -/
  limited : ∀ earlier, earlier <+: marks →
    (answered earlier).Subperm (made earlier) ∧
      (made earlier).length ≤ (answered earlier).length + max 1 setup.options.maxParallelism.toNat
  /-- No image is prepared more than once. -/
  attempted : made marks <+: containers.map setup.preparation
  /-- If all goes well each image is prepared, and no call fails; then each container has the
  image that its own call prepares, and no other name has one. -/
  prepared : ∀ images, result = .ok images →
    made marks = containers.map setup.preparation ∧
      (succeeded marks).Perm (containers.map setup.preparation) ∧
      answered marks = succeeded marks ∧
      (∀ name, name ∈ images ↔ name ∈ containers.map (·.name)) ∧
      ∀ container ∈ containers, images[container.name]? =
        some (Method.ofContainer setup.project.name container).image
  failed : ∀ error, result = .error error → Unprepared setup containers error marks

namespace Unprepared

variable {setup : Setup σ} {containers : List Project.Container} {error : Error}
  {marks : List Mark}

/-- Where there are few images, the error is that of the first that fails. -/
theorem of_few (few : ¬ ImagePool.few < containers.length)
    (turns : Turns setup.limit (containers.map (.ofContainer setup.project.name)) []
      { inLine := false } (.error error) marks)
    (refused : ∀ reason, error = .output reason → Refused setup.writeFault reason) :
    Unprepared setup containers error marks := by
  obtain ⟨need, member, earlier, fault, rfl, fails, answers⟩ := turns.exists_first rfl rfl
  rw [List.nil_append] at member
  obtain ⟨container, listed, rfl⟩ := List.mem_map.mp member
  obtain ⟨before, after, line⟩ := List.append_of_mem listed
  exact .intro line (List.mem_append_right _ List.mem_cons_self) fails refused
    (fun _ => ⟨earlier, rfl, answers⟩) fun many => absurd many few

/-- Where there are many images, the error is that of the first in line that cannot be prepared,
unless the program breaks down. -/
theorem of_many (many : ImagePool.few < containers.length)
    (turns : Turns setup.limit (containers.map (.ofContainer setup.project.name)) []
      { inLine := true } (.error error) marks)
    (refused : ∀ reason, error = .output reason → Refused setup.writeFault reason) :
    Unprepared setup containers error marks := by
  cases turns.blames rfl (.free rfl) (List.Subset.refl _) with
  | held same _ => cases same
  | failed split fails last ended =>
      obtain ⟨before, rest, rfl, rfl, line⟩ := List.map_eq_append_iff.mp split
      obtain ⟨container, after, rfl, rfl, rfl⟩ := List.map_eq_cons_iff.mp line
      rw [List.map_map] at ended
      exact .intro rfl last fails refused (fun few => absurd many (Nat.not_lt.mpr few))
        fun _ => Or.inl ended
  | @broken need cause member last =>
      rw [List.nil_append] at member
      obtain ⟨container, listed, rfl⟩ := List.mem_map.mp member
      obtain ⟨before, after, line⟩ := List.append_of_mem listed
      exact .intro line last .brokenDown refused (fun few => absurd many (Nat.not_lt.mpr few))
        fun _ => Or.inr ⟨cause, rfl⟩

theorem of_turns
    (turns : Turns setup.limit (containers.map (.ofContainer setup.project.name)) []
      { inLine := ImagePool.few < containers.length } (.error error) marks)
    (refused : ∀ reason, error = .output reason → Refused setup.writeFault reason) :
    Unprepared setup containers error marks := by
  by_cases many : ImagePool.few < containers.length
  · rw [decide_eq_true many] at turns
    exact of_many many turns refused
  · rw [decide_eq_false many] at turns
    exact of_few many turns refused

end Unprepared

/-- What the turns of a pool leave in the trace is images prepared side by side. -/
theorem SideBySide.of_turns {setup : Setup σ} {containers : List Project.Container}
    {named : Except Error (List (String × String))} {marks : List Mark}
    (distinct : (containers.map (·.name)).Nodup)
    (turns : Turns setup.limit (containers.map (.ofContainer setup.project.name)) []
      { inLine := ImagePool.few < containers.length } named marks)
    (refused : ∀ reason, named = .error (.output reason) → Refused setup.writeFault reason) :
    SideBySide setup containers (named.map fun images => .ofList images) marks where
  limited earlier part := by
    obtain ⟨underWay, few, same⟩ := turns.exists_underWay (Nat.zero_le _) part
    have lengths := same.length_eq
    rw [List.length_append, List.length_map] at lengths
    change _ = (made earlier).length at lengths
    have room : (made earlier).length ≤ (answered earlier).length + setup.limit := by omega
    exact ⟨(List.sublist_append_left _ _).subperm.trans same.subperm, room⟩
  attempted := by
    have line := turns.made_isPrefix
    rwa [List.map_map] at line
  prepared images same := by
    cases named with
    | error error => cases same
    | ok entries =>
        cases same
        obtain ⟨begun, order, all, -, success, answers⟩ := turns.all
        refine ⟨?_, ?_, answers.trans success.symm, turns.mem_ofList,
          fun container => turns.getElem?_ofList distinct⟩
        · rwa [List.map_map] at begun
        · have calls := all.map Need.call
          rw [List.nil_append, List.map_map, ← success] at calls
          exact calls
  failed error same := by
    cases named with
    | ok entries => cases same
    | error other =>
        cases same
        exact .of_turns turns fun reason same => refused reason (congrArg Except.error same)

/-- Images are prepared in turns, and only a write that is refused is reported as such. -/
theorem prepare_refused (setup : Setup σ) (containers : List Project.Container) :
    trace.Records (setup.prepare containers).run fun result marks =>
      setup.Prepares containers result marks ∧
        ∀ reason, result = .error (.output reason) → Refused setup.writeFault reason := by
  intro before
  obtain ⟨marks, grown, prepares⟩ := setup.prepare_trace containers before
  obtain ⟨-, -, refused⟩ := setup.prepare_written containers before
  exact ⟨marks, grown, prepares, refused⟩

/-- Images are prepared side by side, whatever the schedule. -/
theorem prepare_sideBySide (setup : Setup σ) (permitted : setup.Permitted)
    {containers : List Project.Container} (distinct : (containers.map (·.name)).Nodup) :
    trace.Records (setup.prepare containers).run (setup.SideBySide containers) := by
  refine (setup.prepare_refused containers).mono ?_
  rintro result marks ⟨prepares, refused⟩
  cases prepares with
  | beyond beyond => exact absurd permitted beyond
  | pooled _ turns =>
      refine .of_turns distinct turns fun reason failed => refused reason ?_
      rw [failed]
      rfl

/-- Where images cannot be prepared a task ends there. -/
theorem runTask_of_unprepared (setup : Setup σ) {task : Project.Task} {run : Project.TaskRun}
    {graph : ContainerGraph} (created : ContainerGraph.ofTask setup.project task = .ok graph)
    {before last : State σ} {error : Error}
    (stops : outcome (setup.prepare (setup.containers graph.startOrder)).run
      { before with journal := before.journal ++ [graph.journalEntry] } = (.error error, last)) :
    outcome (setup.runTask task run).run before = (.error error, last) := by
  rw [runTask_of_ok setup created, outcome_bind]
  change outcome (setup.prepare (setup.containers graph.startOrder) >>= _).run
    { before with journal := before.journal ++ [graph.journalEntry] } = _
  rw [outcome_bind, stops]

/-- **Images prepared side by side.** However the preparations of images take turns, no more
than the limit are under way at any time; each container has its image prepared once at most,
and once if all goes well, when it has the image of its own call; and a failure is that of one
of them. If more permits are asked for than there may be, the program breaks down before any is
begun. A task of which images cannot be prepared ends with this failure and starts no container. -/
theorem prepares_sideBySide (setup : Setup σ) (keyed : setup.project.Keyed) :
    (∀ order : List String, order.Nodup →
      (∀ name ∈ order, (setup.project.container? name).isSome) → ∀ before : State σ,
        let ended := outcome (setup.prepare (setup.containers order)).run before
        (setup.containers order).map (·.name) = order ∧
          if setup.Permitted then
            ∃ marks, ended.2.trace = before.trace ++ marks ∧
              SideBySide setup (setup.containers order) ended.1 marks
          else ended = (.error (.brokenDown .permits), before)) ∧
      ∀ (task : Project.Task) (run : Project.TaskRun) (graph : ContainerGraph),
        task.run = some run → ContainerGraph.ofTask setup.project task = .ok graph →
          graph.startOrder.Nodup ∧
            (∀ name ∈ graph.startOrder, (setup.project.container? name).isSome) ∧
            ∀ (before last : State σ) (error : Error),
              outcome (setup.prepare (setup.containers graph.startOrder)).run
                  { before with journal := before.journal ++ [graph.journalEntry] } =
                (.error error, last) →
              outcome (setup.runTask task run).run before = (.error error, last) ∧
                ∃ marks, last.trace = before.trace ++ marks ∧
                  ∀ mark ∈ marks, ¬ mark.call.Starts := by
  refine ⟨fun order nodup known before => ?_, fun task run graph runs created => ?_⟩
  · have names := setup.names_containers keyed known
    refine ⟨names, ?_⟩
    split
    · rename_i permitted
      exact setup.prepare_sideBySide permitted (by rwa [names]) before
    · rename_i beyond
      rw [setup.prepare_of_not_permitted beyond]
      rfl
  · refine ⟨(ContainerGraph.startOrder_leaves created).1,
      fun name => setup.isSome_of_mem_startOrder keyed runs created, ?_⟩
    intro before last error stops
    refine ⟨setup.runTask_of_unprepared created stops, ?_⟩
    obtain ⟨marks, grown, prepares⟩ :=
      setup.tracePhases_describe.prepare (setup.containers graph.startOrder)
        { before with journal := before.journal ++ [graph.journalEntry] }
    rw [stops] at grown
    exact ⟨marks, grown, fun mark member => (prepares mark member).not_starts⟩

end Setup

/-- An engine that finds no image. -/
def bare : Engine Unit :=
  { ready with
    pull := fun image state =>
      { value := { finish := fun state => { value := .error (.noSuchImage image), state } }, state } }

theorem prepares_sideBySide_diamond :
    let setup : Setup Unit :=
      { engine := bare, project := ContainerGraph.diamond, options := { maxParallelism := 0 } }
    let order := ["store", "api", "jobs", "mail", "web"]
    let error := Error.imagePreparation "store" (.noSuchImage "alpine")
    setup.project.Keyed ∧ ∃ marks,
      setup.SideBySide (setup.containers order) (.error error) marks ∧
        (outcome (setup.runTask ContainerGraph.serve { container := "web" }).run
          { engine := () }).1 = .error error ∧
        ∀ mark ∈ marks, ¬ mark.call.Starts := by
  intro setup order error
  have keyed : setup.project.Keyed := by decide +kernel
  have listed : (ContainerGraph.ofTask setup.project ContainerGraph.serve).map (·.startOrder) =
      .ok order := by decide +kernel
  have permitted : setup.Permitted := by decide +kernel
  obtain ⟨side, stops⟩ := setup.prepares_sideBySide keyed
  cases created : ContainerGraph.ofTask setup.project ContainerGraph.serve with
  | error error =>
      rw [created] at listed
      cases listed
  | ok graph =>
      rw [created] at listed
      have same : graph.startOrder = order := Except.ok.inj listed
      obtain ⟨nodup, known, stops⟩ := stops _ { container := "web" } graph rfl created
      rw [same] at nodup known stops
      have first : setup.containers order =
        (ContainerGraph.box "store" []).2 :: setup.containers order.tail := rfl
      have fails : ∀ before : State Unit,
          (outcome (setup.prepare (setup.containers order)).run before).1 = .error error := by
        intro before
        let failed : Results := { inLine := false, failure := some (0, error) }
        rw [setup.prepare_of_permitted permitted, first, ImagePool.prepare,
          ImagePool.run_begun rfl rfl (Nat.not_lt_zero _)]
        -- The call fails as soon as it is begun, and there is nothing more to do.
        change (outcome (ImagePool.run _ _ _ failed _ >>= fun images =>
          (pure (.ofList images) : Attempt Unit TextMap)).run _).1 = _
        rw [outcome_bind, ImagePool.run_due rfl]
        rfl
      obtain ⟨-, beside⟩ := side order nodup known { engine := (), journal := [graph.journalEntry] }
      rw [if_pos permitted] at beside
      obtain ⟨marks, grown, beside⟩ := beside
      obtain ⟨ended, others, regrown, unstarted⟩ :=
        stops { engine := () } _ error (Prod.ext (fails _) rfl)
      rw [fails] at beside
      obtain rfl : marks = others := List.append_cancel_left (grown.symm.trans regrown)
      exact ⟨keyed, marks, beside, by rw [ended], unstarted⟩

/-- With one permit more than there may be, no image is prepared, and the error is that of none
of them. -/
theorem prepares_beyond_permits :
    let setup : Setup Unit :=
      { engine := ready, project := ContainerGraph.diamond
        options := { maxParallelism := 2305843009213693952 } }
    let containers := setup.containers ["store", "api", "jobs", "mail", "web"]
    let ended := outcome (setup.prepare containers).run { engine := () }
    ended.1 = .error (.brokenDown .permits) ∧ ended.2.trace = [] ∧
      ¬ ∃ marks, ended.2.trace = marks ∧ setup.SideBySide containers ended.1 marks := by
  intro setup containers ended
  have beyond : ¬ setup.Permitted := by decide +kernel
  have same : ended = (.error (.brokenDown .permits), { engine := () }) := by
    change outcome (setup.prepare containers).run _ = _
    rw [setup.prepare_of_not_permitted beyond]
    rfl
  rw [same]
  refine ⟨rfl, rfl, ?_⟩
  rintro ⟨_, rfl, beside⟩
  obtain ⟨-, ended⟩ := beside.failed _ rfl
  cases ended

end ContainerTasks.Run
