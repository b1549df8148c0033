import ContainerTasks.Proofs.Run.BuildLines
import ContainerTasks.Proofs.Run.Misconfiguration
import ContainerTasks.Proofs.Run.Output
import ContainerTasks.Proofs.Run.PoolSteps

/-! # The output of builds side by side

What builds write is cut into lines and shown line by line, while others do the same. For one
preparation this is kept from pause to pause: what it has written is the lines that are shown
and the one it has begun (`Preparation.Forwards`). For all of them together it is kept by every
step of a pool, since a step adds lines of one container only (`Standing.Forwards.grows`). So
the output holds all lines of every container whose preparation has ended
(`ImagePool.prepare_forwards`).
-/

namespace ContainerTasks.Run

open Engine (BuildNews Moment)
open BuildOutput (Cut contents shown)

variable {σ : Type}

/-! ## What a course writes -/

theorem spoken_append (first second : List (Moment BuildNews)) :
    spoken (first ++ second) = spoken first ++ spoken second :=
  List.flatMap_append

theorem spoken_silent (course : List (Moment Empty)) : spoken (course.map silent) = [] := by
  induction course with
  | nil => rfl
  | cons moment rest ih =>
      cases moment with
      | pause | cancel => exact ih
      | news nothing => exact nothing.elim

/-- What is written up to a pause and after it is all that is written. -/
theorem spoken_of_stretch {course now : List (Moment BuildNews)}
    {later : Option (List (Moment BuildNews))} (split : stretch course = (now, later)) :
    spoken course = spoken now ++ spoken (later.getD []) := by
  induction course generalizing now with
  | nil =>
      obtain ⟨rfl, rfl⟩ := Prod.mk.inj split
      rfl
  | cons moment rest ih =>
      cases moment with
      | pause =>
          obtain ⟨rfl, rfl⟩ := Prod.mk.inj split
          rfl
      | cancel | news =>
          obtain ⟨rfl, rfl⟩ := Prod.mk.inj split
          change _ ++ spoken rest = _ ++ spoken _ ++ _
          rw [List.append_assoc, ← ih rfl]

namespace BuildOutput

theorem flatten_portions (room : Nat) (output : Bytes) :
    (portions room output).flatten = output := by
  induction output generalizing room with
  | nil => cases room <;> rfl
  | cons byte rest ih =>
      cases room with
      | zero =>
          refine Eq.trans ?_ (congrArg (byte :: ·) (ih (capacity - 1)))
          rw [portions]
          cases portions (capacity - 1) rest <;> rfl
      | succ room =>
          refine Eq.trans ?_ (congrArg (byte :: ·) (ih room))
          rw [portions]
          cases portions room rest <;> rfl

/-- Pauses between the parts of an output take nothing from it. -/
theorem spoken_intersperse (parts : List Bytes) :
    spoken ((parts.map fun part => .news (.output part)).intersperse .pause) = parts.flatten := by
  induction parts with
  | nil => rfl
  | cons part rest ih =>
      cases rest with
      | nil => rfl
      | cons next more =>
          rw [List.flatten_cons, ← ih]
          rfl

theorem spoken_paced (room : Nat) (course : List (Moment BuildNews)) :
    spoken (paced room course) = spoken course := by
  induction course generalizing room with
  | nil => rfl
  | cons moment rest ih =>
      cases moment with
      | pause => exact ih capacity
      | cancel => exact ih room
      | news news =>
          cases news with
          | progress steps => exact ih room
          | output text =>
              rw [paced, spoken_append, spoken_intersperse, flatten_portions, ih]
              rfl

end BuildOutput

/-! ## What a preparation shows -/

theorem happen_written (container : String) (moments : List (Moment BuildNews)) :
    written.Records (happen container moments : Action σ Bytes) fun output items =>
      items = [] ∧ output = spoken moments := by
  induction moments with
  | nil => exact .pure ⟨rfl, rfl⟩
  | cons moment rest ih =>
      cases moment with
      | pause => exact ih
      | cancel =>
          refine cancel_mute.records.bind ?_
          rintro _ _ rfl
          exact ih
      | news news =>
          cases news with
          | progress steps =>
              refine (note_mute _ _ _).records.bind ?_
              rintro _ _ rfl
              exact ih
          | output text =>
              refine ih.bind ?_
              rintro _ _ ⟨rfl, rfl⟩
              exact .pure ⟨rfl, rfl⟩

/-- A line that is shown is written as it is, unless it is refused. -/
theorem write_shown (writeFault : Nat → Option String) (container : String) {content : Bytes}
    (unbroken : 10 ∉ content) :
    written.Records (write writeFault (shown container content) : Action σ _) fun refusal items =>
      match refusal with
      | none => items = [shown container content]
      | some reason => items = [] ∧ Refused writeFault reason := by
  intro before
  obtain ⟨line, same, -⟩ := BuildOutput.exists_shown container unbroken
  have visible : (shown container content).isEmpty = false := by simp [same]
  rcases outcome_write writeFault (shown container content) before with
    ⟨reason, refused, result⟩ | result
  · rw [result]
    exact ⟨[], written.refl before, rfl, refused⟩
  · rw [result, visible]
    exact ⟨_, ⟨rfl, id⟩, rfl⟩

/-- Lines are copied as those that they are shown as, until one is refused. -/
theorem copyLines_shows (writeFault : Nat → Option String) (container : String)
    {lines due : List Bytes} (same : lines.map (BuildOutput.copied container) =
      due.map (shown container)) (unbroken : ∀ content ∈ due, 10 ∉ content) :
    written.Records (copyLines writeFault container lines : Action σ _) fun refusal items =>
      ∃ done, done <+: due ∧ items = done.map (shown container) ∧
        match refusal with
        | none => done = due
        | some reason => Refused writeFault reason := by
  induction lines generalizing due with
  | nil =>
      obtain rfl := List.map_eq_nil_iff.mp same.symm
      exact .pure ⟨[], List.prefix_rfl, rfl, rfl⟩
  | cons line rest ih =>
      cases due with
      | nil => cases same
      | cons content due =>
          obtain ⟨here, later⟩ := List.cons.inj same
          obtain ⟨plain, unbroken⟩ := List.forall_mem_cons.mp unbroken
          rw [copyLines, here]
          refine (write_shown _ _ plain).bind fun refusal items wrote => ?_
          cases refusal with
          | some reason =>
              obtain ⟨rfl, refused⟩ := wrote
              exact .pure ⟨[], List.nil_prefix, rfl, refused⟩
          | none =>
              obtain rfl := wrote
              refine (ih later unbroken).mono ?_
              rintro refusal _ ⟨done, part, rfl, stops⟩
              refine ⟨content :: done, (List.prefix_cons_inj _).mpr part, rfl, ?_⟩
              cases refusal with
              | none => exact congrArg (content :: ·) stops
              | some reason => exact stops

namespace Preparation

/-- How far the output of a preparation has been shown, given all that it writes and the lines
that are shown. -/
inductive Forwards (writeFault : Nat → Option String) (said : Bytes) (lines : List Bytes)
    (preparation : Preparation σ) : Prop
  /-- What has been written so far is shown as far as it is whole lines. -/
  | goesOn {heard : Bytes} (clean : preparation.copyFault = none)
      (rest : said = heard ++ spoken preparation.course)
      (cut : Cut heard lines preparation.line)
  /-- A line was refused, and no other is shown. -/
  | stopped {reason : String} (faulty : preparation.copyFault = some reason)
      (refused : Refused writeFault reason) (part : lines <+: contents said)

variable {writeFault : Nat → Option String} {preparation : Preparation σ} {said : Bytes}
  {lines : List Bytes} {now later : List (Moment BuildNews)}

theorem Forwards.isPrefix (forwards : preparation.Forwards writeFault said lines) :
    lines <+: contents said := by
  cases forwards with
  | goesOn clean rest cut =>
      rw [rest]
      exact cut.isPrefix _
  | stopped faulty refused part => exact part

theorem start_forwards (writeFault : Nat → Option String) (pool : ImagePool σ)
    (container : Project.Container) (state : State σ) :
    let begins := outcome (Preparation.start pool.engine pool.project container) state
    begins.1.container = container.name ∧ begins.2.output = state.output ∧
      begins.1.Forwards writeFault (pool.speech container state) [] := by
  unfold Preparation.start ImagePool.speech
  cases Method.ofContainer pool.project container with
  | pull image =>
      exact ⟨rfl, rfl, .goesOn rfl (spoken_silent _).symm .nil⟩
  | build request =>
      exact ⟨rfl, rfl, .goesOn rfl (BuildOutput.spoken_paced _ _).symm .nil⟩

theorem copy_eq_of_stopped {reason : String} (faulty : preparation.copyFault = some reason)
    (output : Bytes) (closing : Bool) :
    preparation.copy writeFault output closing = pure preparation := by
  rw [copy, faulty]
  rfl

/-- At a pause the whole lines of what was written before it are shown. -/
theorem copy_pauses {output : Bytes} (forwards : preparation.Forwards writeFault said lines)
    (split : spoken preparation.course = output ++ spoken later) :
    written.Records (preparation.copy writeFault output false) fun copied items =>
      copied.container = preparation.container ∧
        ∃ done, items = done.map (shown preparation.container) ∧
          { copied with course := copied.remaining later }.Forwards writeFault said
            (lines ++ done) := by
  cases forwards with
  | stopped faulty refused part =>
      rw [copy_eq_of_stopped faulty]
      refine .pure ⟨rfl, [], rfl, .stopped faulty refused ?_⟩
      rwa [List.append_nil]
  | @goesOn heard clean rest cut =>
      obtain ⟨whole, next, same⟩ := Cut.exists_copied (preparation.line ++ output)
      have cut := cut.append next
      rw [copy, clean]
      refine (copyLines_shows writeFault preparation.container
        ((List.append_nil _).symm ▸ same preparation.container) next.unbroken).bind ?_
      rintro refusal _ ⟨done, part, rfl, stops⟩
      refine .pure ⟨rfl, done, List.append_nil _, ?_⟩
      rw [rest, split, ← List.append_assoc]
      cases refusal with
      | none =>
          subst stops
          exact .goesOn rfl rfl cut
      | some reason =>
          refine .stopped rfl stops ?_
          exact ((List.prefix_append_right_inj _).mpr part).trans (cut.isPrefix _)

/-- At the end all that was written has been shown unless a line was refused. -/
theorem copy_closes (forwards : preparation.Forwards writeFault said lines) :
    written.Records (preparation.copy writeFault (spoken preparation.course) true)
      fun copied items => ∃ done, items = done.map (shown preparation.container) ∧
        lines ++ done <+: contents said ∧
          match copied.copyFault with
          | none => lines ++ done = contents said
          | some reason => Refused writeFault reason := by
  cases forwards with
  | stopped faulty refused part =>
      rw [copy_eq_of_stopped faulty]
      refine .pure ⟨[], rfl, ?_⟩
      rw [List.append_nil, faulty]
      exact ⟨part, refused⟩
  | @goesOn heard clean rest cut =>
      rw [copy, clean]
      refine (copyLines_shows writeFault preparation.container
        (BuildOutput.map_copied _ (preparation.line ++ spoken preparation.course))
        fun content => BuildOutput.not_mem_contents).bind ?_
      rintro refusal _ ⟨done, part, rfl, stops⟩
      refine .pure ⟨done, List.append_nil _, ?_⟩
      rw [rest, cut.contents_append]
      refine ⟨(List.prefix_append_right_inj _).mpr part, ?_⟩
      cases refusal with
      | none => exact congrArg (lines ++ ·) stops
      | some reason => exact stops

theorem advance_forwards (forwards : preparation.Forwards writeFault said lines)
    (split : stretch preparation.course = (now, some later)) :
    written.Records (preparation.advance writeFault now false) fun advanced items =>
      advanced.container = preparation.container ∧
        ∃ done, items = done.map (shown preparation.container) ∧
          { advanced with course := advanced.remaining later }.Forwards writeFault said
            (lines ++ done) := by
  refine (happen_written _ _).bind ?_
  rintro output _ ⟨rfl, rfl⟩
  exact copy_pauses forwards (spoken_of_stretch split)

/-- To work out the result writes nothing, and a line that was refused is reported. -/
theorem result_mute (preparation : Preparation σ) (answer : Except Engine.Fault String) :
    written.Records (preparation.result answer).run fun result items =>
      items = [] ∧
        ∀ reason, preparation.copyFault = some reason → result = .error (.output reason) := by
  unfold result
  cases preparation.copyFault with
  | some reason =>
      refine .throw ⟨rfl, ?_⟩
      rintro _ ⟨⟩
      rfl
  | none =>
      dsimp only
      split
      · exact .throw ⟨rfl, nofun⟩
      · exact .throw ⟨rfl, nofun⟩
      · refine (note_mute _ _ _).records.lift ?_
        rintro _ _ rfl
        exact .pure ⟨rfl, nofun⟩
      · refine (note_mute _ _ _).records.lift ?_
        rintro _ _ rfl
        exact .pure ⟨rfl, nofun⟩

theorem conclude_forwards (forwards : preparation.Forwards writeFault said lines)
    (split : stretch preparation.course = (now, none)) :
    written.Records (preparation.conclude writeFault now).run fun ended items =>
      match ended with
      | .error _ => items = []
      | .ok result =>
        ∃ done, items = done.map (shown preparation.container) ∧ lines ++ done <+: contents said ∧
          (lines ++ done = contents said ∨
            ∃ reason, result = .error (.output reason) ∧ Refused writeFault reason) := by
  have all : spoken preparation.course = spoken now :=
    (spoken_of_stretch split).trans (List.append_nil _)
  unfold conclude
  refine (happen_written _ _).lift ?_
  rintro output _ ⟨rfl, rfl⟩
  refine (endCall_mute _ _).records.lift ?_
  rintro answer _ rfl
  split
  · exact .throw rfl
  · rw [← all]
    refine (copy_closes forwards).lift ?_
    rintro copied _ ⟨done, rfl, part, stops⟩
    refine .lifted ((result_mute copied answer).mono ?_)
    rintro result _ ⟨rfl, refuses⟩
    refine ⟨done, List.append_nil _, part, ?_⟩
    cases faulty : copied.copyFault with
    | none =>
        rw [faulty] at stops
        exact Or.inl stops
    | some reason =>
        rw [faulty] at stops
        exact Or.inr ⟨reason, refuses reason faulty, stops⟩

end Preparation

/-! ## The output of a pool -/

/-- The contents of the lines that are shown for one container. -/
def linesOf (container : String) (lines : List (String × Bytes)) : List Bytes :=
  (lines.filter (·.1 == container)).map Prod.snd

theorem linesOf_append (container : String) (lines more : List (String × Bytes)) :
    linesOf container (lines ++ more) = linesOf container lines ++ linesOf container more := by
  rw [linesOf, List.filter_append, List.map_append]
  rfl

theorem linesOf_eq_nil {container : String} {lines : List (String × Bytes)}
    (other : ∀ line ∈ lines, line.1 ≠ container) : linesOf container lines = [] := by
  rw [linesOf, List.map_eq_nil_iff, List.filter_eq_nil_iff]
  exact fun line member => by simpa using other line member

/-- Lines of one container come behind the others of this container. -/
theorem linesOf_append_own (container : String) (lines : List (String × Bytes))
    (done : List Bytes) :
    linesOf container (lines ++ done.map (container, ·)) = linesOf container lines ++ done := by
  have own : linesOf container (done.map (container, ·)) = done := by
    rw [linesOf, List.filter_eq_self.mpr (by simp), List.map_map]
    exact List.map_id _
  rw [linesOf_append, own]

theorem linesOf_append_other {container other : String} (differs : container ≠ other)
    (lines : List (String × Bytes)) (done : List Bytes) :
    linesOf other (lines ++ done.map (container, ·)) = linesOf other lines := by
  have none : linesOf other (done.map (container, ·)) = [] := linesOf_eq_nil (by simp [differs])
  rw [linesOf_append, none, List.append_nil]

namespace Standing

/-- What is shown of all that one container writes. -/
structure Shows (writeFault : Nat → Option String) (standing : Standing σ)
    (build : String × Bytes) (lines : List Bytes) : Prop where
  /-- Only lines that the container writes are shown, in their order and none twice. -/
  isPrefix : lines <+: contents build.2
  /-- While its preparation is under way the whole lines before its last pause are shown. -/
  underWay : ∀ preparation ∈ standing.working, preparation.container = build.1 →
    preparation.Forwards writeFault build.2 lines
  /-- When it has ended, well or not, all lines are shown, unless the output could not be
  written. -/
  complete : ∀ result, (build.1, result) ∈ standing.ended →
    lines = contents build.2 ∨
      ∃ reason, result = .error (.output reason) ∧ Refused writeFault reason

/-- What is shown stays what it is where nothing else is under way for the container, and
nothing else has ended. -/
theorem Shows.of_subset {writeFault : Nat → Option String} {standing next : Standing σ}
    {build : String × Bytes} {lines : List Bytes} (shows : standing.Shows writeFault build lines)
    (working : ∀ preparation ∈ next.working, preparation.container = build.1 →
      preparation ∈ standing.working)
    (ended : ∀ result, (build.1, result) ∈ next.ended → (build.1, result) ∈ standing.ended) :
    next.Shows writeFault build lines where
  isPrefix := shows.isPrefix
  underWay preparation member same := shows.underWay preparation (working _ member same) same
  complete result member := shows.complete result (ended result member)

/-- The output is that of the preparations that have begun, line by line. -/
structure Forwards (writeFault : Nat → Option String) (containers : List Project.Container)
    (earlier : List Bytes) (standing : Standing σ) (lines : List (String × Bytes)) : Prop where
  /-- What has begun has done so in line. -/
  inLine : standing.begun.map Prod.fst ++ standing.waiting.map (·.name) =
    containers.map (·.name)
  /-- What has begun has ended or is under way. -/
  accounted : (standing.ended.map Prod.fst ++ standing.working.map (·.container)).Perm
    (standing.begun.map Prod.fst)
  /-- Each write is one line of what has begun. -/
  output : standing.state.output = earlier ++ lines.map fun line => shown line.1 line.2
  known : ∀ line ∈ lines, line.1 ∈ standing.begun.map Prod.fst
  shows : ∀ build ∈ standing.begun, standing.Shows writeFault build (linesOf build.1 lines)

namespace Forwards

variable {writeFault : Nat → Option String} {containers waiting : List Project.Container}
  {before after : List (Preparation σ)} {begun : List (String × Bytes)}
  {ended : List (String × Except Error String)} {preparation : Preparation σ}
  {earlier : List Bytes} {lines : List (String × Bytes)} {state next : State σ}

theorem nodup {standing : Standing σ} (distinct : (containers.map (·.name)).Nodup)
    (forwards : standing.Forwards writeFault containers earlier lines) :
    (standing.begun.map Prod.fst).Nodup := by
  rw [← forwards.inLine] at distinct
  exact distinct.of_append_left

theorem perm_parted (preparation : Preparation σ) :
    (ended.map Prod.fst ++ (before ++ preparation :: after).map (·.container)).Perm
      (preparation.container ::
        (ended.map Prod.fst ++ (before ++ after).map (·.container))) := by
  rw [List.map_append, List.map_append, List.map_cons, ← List.append_assoc, ← List.append_assoc]
  exact List.perm_middle

/-- One that is under way has begun, and it is the only one of its name that has not ended. -/
theorem exists_begun (distinct : (containers.map (·.name)).Nodup)
    (forwards : Forwards writeFault containers earlier
      ⟨waiting, before ++ preparation :: after, begun, ended, state⟩ lines) :
    ∃ build ∈ begun, build.1 = preparation.container ∧
      preparation.Forwards writeFault build.2 (linesOf build.1 lines) ∧
      build.1 ∉ ended.map Prod.fst ∧ ∀ other ∈ before ++ after, other.container ≠ build.1 := by
  have accounted := (perm_parted preparation).symm.trans forwards.accounted
  obtain ⟨build, member, named⟩ := List.mem_map.mp (accounted.subset List.mem_cons_self)
  obtain ⟨fresh, -⟩ := List.nodup_cons.mp (accounted.nodup_iff.mpr (forwards.nodup distinct))
  rw [← named, List.mem_append, not_or] at fresh
  refine ⟨build, member, named, ?_, fresh.1, fun other inside same => fresh.2 ?_⟩
  · exact (forwards.shows build member).underWay preparation (by simp) named.symm
  · exact same ▸ List.mem_map_of_mem inside

/-- A preparation that begins has nothing to show. -/
theorem begins {pool : ImagePool σ} {container : Project.Container}
    {working : List (Preparation σ)} (distinct : (containers.map (·.name)).Nodup)
    (forwards : Forwards writeFault containers earlier
      ⟨container :: waiting, working, begun, ended, state⟩ lines)
    (starts : outcome (Preparation.start pool.engine pool.project container) state =
      (preparation, next)) :
    Forwards writeFault containers earlier
      ⟨waiting, working ++ [preparation], begun ++ [(container.name, pool.speech container state)],
        ended, next⟩ lines := by
  obtain ⟨named, silent, first⟩ := Preparation.start_forwards writeFault pool container state
  rw [starts] at named silent first
  have fresh : container.name ∉ begun.map Prod.fst := by
    rw [← forwards.inLine] at distinct
    exact fun member => (List.nodup_append.mp distinct).2.2 _ member _ List.mem_cons_self rfl
  have unseen : linesOf container.name lines = [] :=
    linesOf_eq_nil fun line member same => fresh (same ▸ forwards.known line member)
  have foreign : ∀ name ∈ ended.map Prod.fst ++ working.map (·.container),
      name ≠ container.name :=
    fun name member same => fresh (same ▸ forwards.accounted.subset member)
  obtain ⟨finished, others⟩ := List.forall_mem_append.mp foreign
  refine ⟨?_, ?_, silent.trans forwards.output, fun line member => ?_, fun build member => ?_⟩
  · rw [List.map_append, List.append_assoc]
    exact forwards.inLine
  · rw [List.map_append, List.map_append, ← List.append_assoc]
    exact forwards.accounted.append (.of_eq (congrArg ([·]) named))
  · rw [List.map_append]
    exact List.mem_append_left _ (forwards.known line member)
  · rcases List.mem_append.mp member with old | new
    · refine (forwards.shows build old).of_subset (fun other member same => ?_) fun _ => id
      refine (List.mem_append.mp member).resolve_right fun last => ?_
      obtain rfl := List.mem_singleton.mp last
      exact fresh (named ▸ same ▸ List.mem_map_of_mem old)
    · obtain rfl := List.mem_singleton.mp new
      rw [unseen]
      refine ⟨List.nil_prefix, fun other member same => ?_, fun result member => ?_⟩
      · rcases List.mem_append.mp member with old | last
        · exact absurd same (others _ (List.mem_map_of_mem old))
        · obtain rfl := List.mem_singleton.mp last
          exact first
      · exact absurd rfl (finished _ (List.mem_map_of_mem member))

/-- Lines of one container are added to the output; nothing changes for the others. -/
theorem grows {working rest : List (Preparation σ)} {finished : List (String × Except Error String)}
    {build : String × Bytes} {done : List Bytes} (distinct : (containers.map (·.name)).Nodup)
    (forwards : Forwards writeFault containers earlier ⟨waiting, working, begun, ended, state⟩
      lines) (member : build ∈ begun)
    (accounted : (finished.map Prod.fst ++ rest.map (·.container)).Perm
      (ended.map Prod.fst ++ working.map (·.container)))
    (output : next.output = state.output ++ done.map (shown build.1))
    (others : ∀ other ∈ rest, other.container ≠ build.1 → other ∈ working)
    (ends : ∀ last ∈ finished, last.1 ≠ build.1 → last ∈ ended)
    (shows : Shows writeFault ⟨waiting, rest, begun, finished, next⟩ build
      (linesOf build.1 lines ++ done)) :
    Forwards writeFault containers earlier ⟨waiting, rest, begun, finished, next⟩
      (lines ++ done.map (build.1, ·)) where
  inLine := forwards.inLine
  accounted := accounted.trans forwards.accounted
  output := by
    rw [output, forwards.output, List.append_assoc, List.map_append, List.map_map]
    rfl
  known := by
    refine List.forall_mem_append.mpr ⟨forwards.known, fun line inside => ?_⟩
    obtain ⟨content, -, rfl⟩ := List.mem_map.mp inside
    exact List.mem_map.mpr ⟨build, member, rfl⟩
  shows other inside := by
    by_cases same : build.1 = other.1
    · obtain rfl := List.inj_on_of_nodup_map (forwards.nodup distinct) member inside same
      rwa [linesOf_append_own]
    · rw [linesOf_append_other same]
      exact (forwards.shows other inside).of_subset
        (fun preparation member named => others preparation member (named ▸ Ne.symm same))
        fun result member => ends _ member (Ne.symm same)

/-- At its next pause a preparation has shown the lines that have become whole. -/
theorem pauses {advanced : Preparation σ} {now later : List (Moment BuildNews)}
    (distinct : (containers.map (·.name)).Nodup)
    (forwards : Forwards writeFault containers earlier
      ⟨waiting, before ++ preparation :: after, begun, ended, state⟩ lines)
    (split : stretch preparation.course = (now, some later))
    (advances : outcome (preparation.advance writeFault now false) state = (advanced, next)) :
    ∃ more, Forwards writeFault containers earlier
      ⟨waiting, before ++ { advanced with course := advanced.remaining later } :: after, begun,
        ended, next⟩ (lines ++ more) := by
  obtain ⟨build, member, named, shows, fresh, alone⟩ := forwards.exists_begun distinct
  obtain ⟨_, ⟨adds, -⟩, kept, done, rfl, goesOn⟩ :=
    Preparation.advance_forwards shows split state
  rw [advances] at adds kept goesOn
  rw [← named] at adds kept
  refine ⟨_, forwards.grows distinct member ?_ adds ?_ (fun _ member _ => member) ?_⟩
  · rw [List.map_append, List.map_append, List.map_cons, List.map_cons, kept, named]
  · intro other inside differs
    rcases List.mem_append.mp inside with first | inside
    · exact List.mem_append_left _ first
    · rcases List.mem_cons.mp inside with rfl | last
      · exact absurd kept differs
      · exact List.mem_append_right _ (List.mem_cons_of_mem _ last)
  · refine ⟨goesOn.isPrefix, fun other inside same => ?_, fun result finished => ?_⟩
    · rcases List.mem_cons.mp (List.perm_middle.subset inside) with rfl | inside
      · exact goesOn
      · exact absurd same (alone other inside)
    · exact absurd (List.mem_map_of_mem finished) fresh

/-- When a preparation ends all its lines have been shown, unless one was refused. -/
theorem ends {now : List (Moment BuildNews)} {result : Except Error String}
    (distinct : (containers.map (·.name)).Nodup)
    (forwards : Forwards writeFault containers earlier
      ⟨waiting, before ++ preparation :: after, begun, ended, state⟩ lines)
    (split : stretch preparation.course = (now, none))
    (concludes : outcome (preparation.conclude writeFault now).run state = (.ok result, next)) :
    ∃ more, Forwards writeFault containers earlier
      ⟨waiting, before ++ after, begun, ended ++ [(preparation.container, result)], next⟩
      (lines ++ more) := by
  obtain ⟨build, member, named, shows, fresh, alone⟩ := forwards.exists_begun distinct
  obtain ⟨_, ⟨adds, -⟩, answers⟩ := Preparation.conclude_forwards shows split state
  rw [concludes] at adds answers
  obtain ⟨done, rfl, part, finished⟩ := answers
  rw [← named] at adds
  refine ⟨_, forwards.grows distinct member ?_ adds ?_ ?_ ?_⟩
  · refine List.Perm.trans ?_ (perm_parted preparation).symm
    rw [List.map_append, List.append_assoc]
    exact List.perm_middle
  · exact fun other inside _ => ((List.sublist_cons_self _ _).append_left _).subset inside
  · intro last inside differs
    refine (List.mem_append.mp inside).resolve_right fun last => differs ?_
    rw [List.mem_singleton.mp last, named]
  · refine ⟨part, fun other inside same => absurd same (alone other inside), fun again inside => ?_⟩
    rcases List.mem_append.mp inside with old | last
    · exact absurd (List.mem_map_of_mem old) fresh
    · obtain rfl : again = result := congrArg Prod.snd (List.mem_singleton.mp last)
      exact finished

/-- Where the program breaks down nothing more is shown. -/
theorem breaks {now : List (Moment BuildNews)} {working : List (Preparation σ)} {error : Error}
    (distinct : (containers.map (·.name)).Nodup)
    (forwards : Forwards writeFault containers earlier ⟨waiting, working, begun, ended, state⟩
      lines)
    (member : preparation ∈ working) (split : stretch preparation.course = (now, none))
    (breaks : outcome (preparation.conclude writeFault now).run state = (.error error, next)) :
    Forwards writeFault containers earlier ⟨waiting, working, begun, ended, next⟩ lines := by
  obtain ⟨before, after, rfl⟩ := List.append_of_mem member
  obtain ⟨build, -, -, shows, -⟩ := forwards.exists_begun distinct
  obtain ⟨_, ⟨adds, -⟩, nothing⟩ := Preparation.conclude_forwards shows split state
  rw [breaks] at adds nothing
  obtain rfl := nothing
  have silent : next.output = state.output := adds.trans (List.append_nil _)
  exact ⟨forwards.inLine, forwards.accounted, silent.trans forwards.output, forwards.known,
    fun build member => (forwards.shows build member).of_subset (fun _ member _ => member)
      fun _ => id⟩

/-- Every step adds lines to the output and keeps it that of what has begun. -/
theorem step {pool : ImagePool σ} {standing later : Standing σ}
    (distinct : (containers.map (·.name)).Nodup)
    (forwards : standing.Forwards pool.writeFault containers earlier lines)
    (step : pool.Step standing later) :
    ∃ more, later.Forwards pool.writeFault containers earlier (lines ++ more) := by
  cases step with
  | begun starts =>
      refine ⟨[], ?_⟩
      rw [List.append_nil]
      exact forwards.begins distinct starts
  | paused split advances => exact forwards.pauses distinct split advances
  | ended split concludes => exact forwards.ends distinct split concludes
  | broken member split breaks =>
      refine ⟨[], ?_⟩
      rw [List.append_nil]
      exact forwards.breaks distinct member split breaks

theorem reached {pool : ImagePool σ} {standing : Standing σ} {before : State σ}
    (distinct : (containers.map (·.name)).Nodup)
    (reaches : pool.Reaches { waiting := containers, state := before } standing) :
    ∃ lines, standing.Forwards pool.writeFault containers before.output lines := by
  induction reaches with
  | refl =>
      exact ⟨[], rfl, .nil, (List.append_nil _).symm, by simp, by simp⟩
  | tail _ step ih =>
      obtain ⟨lines, forwards⟩ := ih
      obtain ⟨more, forwards⟩ := forwards.step distinct step
      exact ⟨lines ++ more, forwards⟩

variable {standing : Standing σ}

/-- What is written is a line, and no more unless the name of its container has a newline. -/
theorem exists_line (forwards : standing.Forwards writeFault containers earlier lines)
    {line : String × Bytes} (member : line ∈ lines) :
    ∃ text, shown line.1 line.2 = text ++ [10] ∧ (10 ∈ text ↔ '\n' ∈ line.1.toList) := by
  obtain ⟨build, begun, named⟩ := List.mem_map.mp (forwards.known line member)
  have own : line.2 ∈ linesOf build.1 lines :=
    List.mem_map_of_mem (List.mem_filter.mpr ⟨member, by simp [named]⟩)
  exact BuildOutput.exists_shown _
    (BuildOutput.not_mem_contents ((forwards.shows build begun).isPrefix.subset own))

/-- Once nothing is under way all lines of what has begun are shown, if the output can be
written. -/
theorem complete (forwards : standing.Forwards writeFault containers earlier lines)
    (finished : standing.working = []) (sound : ∀ count, writeFault count = none)
    {build : String × Bytes} (member : build ∈ standing.begun) :
    linesOf build.1 lines = contents build.2 := by
  have accounted := forwards.accounted
  rw [finished, List.map_nil, List.append_nil] at accounted
  obtain ⟨⟨name, result⟩, ended, rfl⟩ :=
    List.mem_map.mp (accounted.symm.subset (List.mem_map_of_mem member))
  rcases (forwards.shows build member).complete result ended with all | ⟨_, _, count, refused⟩
  · exact all
  · cases (sound count).symm.trans refused

end Forwards

end Standing

/-- **Build output is forwarded whole and complete.** In whichever order preparations begin and
go on, the output is at any time a sequence of whole lines, and those of each container are the
first of the lines that it writes, in order. While it is under way these are the lines that are
whole so far, and when it has ended, well or not, they are all of them, unless the output cannot
be written. The run of a pool takes such steps, also where the program breaks down. -/
theorem ImagePool.prepare_forwards (pool : ImagePool σ) (containers : List Project.Container)
    (before : State σ) (distinct : (containers.map (·.name)).Nodup) :
    (∀ standing, pool.Reaches { waiting := containers, state := before } standing →
      ∃ lines, standing.Forwards pool.writeFault containers before.output lines ∧
        (∀ line ∈ lines, ∃ text, shown line.1 line.2 = text ++ [10] ∧
          (10 ∈ text ↔ '\n' ∈ line.1.toList)) ∧
        (standing.working = [] → (∀ count, pool.writeFault count = none) →
          ∀ build ∈ standing.begun, linesOf build.1 lines = contents build.2)) ∧
      pool.Takes { waiting := containers, state := before } (pool.prepare containers) := by
  refine ⟨fun standing reaches => ?_, pool.prepare_takes containers before⟩
  obtain ⟨lines, forwards⟩ := Standing.Forwards.reached distinct reaches
  exact ⟨lines, forwards, fun line => forwards.exists_line,
    fun finished sound build => forwards.complete finished sound⟩

/-- An engine whose builds write two lines, the second of them without its end, and fail. -/
def chatty : Engine Unit :=
  { ready with
    build := fun request _ state =>
      let directory := Text.Utf8.ofString request.directory
      { value :=
          { course := [.news (.output (directory ++ [13, 10])), .pause, .news (.output [98])]
            finish := fun state => { value := .error (.buildFailed request.directory), state } }
        state } }

/-- A container whose image is built from the directory of its name. -/
def homemade (name : String) : Project.Container where
  name := name
  source := .build name "Dockerfile" ∅

theorem prepare_forwards_chatty :
    let pool : ImagePool Unit := { engine := chatty, project := "shop", limit := ⟨2, by decide, by decide⟩ }
    let containers := [homemade "api", homemade "web"]
    let last := [2, 2, 1, 0, 1, 0].foldl pool.turn
      { waiting := containers, state := { engine := () } }
    (containers.map (·.name)).Nodup ∧
      (last.state.output = [shown "web" [119, 101, 98], shown "api" [97, 112, 105],
        shown "web" [98], shown "api" [98]]) ∧
      ∃ lines, last.Forwards pool.writeFault containers [] lines ∧
        linesOf "api" lines = [[97, 112, 105, 13], [98]] ∧
        linesOf "web" lines = [[119, 101, 98, 13], [98]] := by
  intro pool containers last
  have distinct : (containers.map (·.name)).Nodup := by decide
  have output : last.state.output = [shown "web" [119, 101, 98], shown "api" [97, 112, 105],
      shown "web" [98], shown "api" [98]] := by decide +kernel
  have finished : last.working.length = 0 := by decide +kernel
  have begun : last.begun =
      [("api", [97, 112, 105, 13, 10, 98]), ("web", [119, 101, 98, 13, 10, 98])] := by
    decide +kernel
  obtain ⟨lines, forwards, -, all⟩ := (pool.prepare_forwards containers { engine := () } distinct).1
    last (pool.reaches_turns _ _)
  have complete := all (List.eq_nil_of_length_eq_zero finished) fun _ => rfl
  rw [begun, List.forall_mem_cons, List.forall_mem_singleton] at complete
  obtain ⟨api, web⟩ := complete
  exact ⟨distinct, output, lines, forwards, api.trans (by decide), web.trans (by decide)⟩

end ContainerTasks.Run
