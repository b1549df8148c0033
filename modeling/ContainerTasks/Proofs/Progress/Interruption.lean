import ContainerTasks.Proofs.Progress.Plan

/-! # Readings that are cut short

Reading a response may be cancelled, and reading or writing may fail. Each of these cuts
the reading short and does nothing else: up to there it is the undisturbed reading, and
if none of them is reached it is all of it (`read_cut`). A cancellation while an event is
raised is noticed behind the line of this event, so the text of this line is the last to
be written.
-/

namespace ContainerTasks.Progress.Response

/-- What may cut a reading short. -/
structure Failures where
  ending : Ending := .closed
  /-- The reading is cancelled while it raises the event with this number, counted from
  one, and before it starts if the number is zero. -/
  cancelledIn : Option Nat := none
  /-- How many writes are accepted, and why all further ones fail. -/
  writeLimit : Option (Nat × String) := none

namespace Failures

/-- The conditions of a reading with these failures. -/
def conditions (failures : Failures) : Conditions where
  ending := failures.ending
  isCancelled := fun trail =>
    match failures.cancelledIn with
    | none => false
    | some number => number ≤ (events trail).length
  writeFault := fun count =>
    match failures.writeLimit with
    | none => none
    | some (limit, reason) => if limit ≤ count then some reason else none

/-- One of the failures lies on the way of the undisturbed reading: it raises the event
that it is cancelled in, or makes more writes than are accepted, or comes to the end of
what can be read. -/
inductive Reached (failures : Failures) (passthrough : Bool) (input : Bytes) : Prop
  | event {number : Nat} (planned : failures.cancelledIn = some number)
    (raised : number ≤ (events (read {} passthrough input).trail).length)
  | write {limit : Nat} {reason : String} (planned : failures.writeLimit = some (limit, reason))
    (written : limit < writeCount (read {} passthrough input).trail)
  | ending (planned : failures.ending ≠ .closed)
    (taken : ∃ after, Takes passthrough {} (linesOf failures.ending input) after)

/-- One of the failures lies on the way of a plan. -/
def Meets (failures : Failures) (trail : List Effect) (outcome : Except ResponseError String) :
    Prop :=
  (∃ number, failures.cancelledIn = some number ∧ number ≤ (events trail).length) ∨
    (∃ limit reason, failures.writeLimit = some (limit, reason) ∧ limit < writeCount trail) ∨
    failures.ending ≠ .closed ∧ ∃ rest, outcome = .ok rest

variable {failures : Failures} {trail : List Effect} {count : Nat} {reason : String}

theorem isCancelled_iff : failures.conditions.isCancelled trail = true ↔
    ∃ number, failures.cancelledIn = some number ∧ number ≤ (events trail).length := by
  unfold conditions
  cases failures.cancelledIn <;> simp

theorem writeFault_eq_some : failures.conditions.writeFault count = some reason ↔
    ∃ limit, failures.writeLimit = some (limit, reason) ∧ limit ≤ count := by
  unfold conditions
  rcases failures.writeLimit with _ | ⟨limit, cause⟩
  · simp
  · simp only [Option.ite_none_right_eq_some, Option.some.injEq, Prod.mk.injEq]
    constructor
    · rintro ⟨reached, rfl⟩
      exact ⟨limit, ⟨rfl, rfl⟩, reached⟩
    · rintro ⟨other, ⟨rfl, rfl⟩, reached⟩
      exact ⟨reached, rfl⟩

end Failures

/-- A reading has been stopped from outside. -/
def Stopped (result : Except ResponseError Unit) : Prop :=
  result = .error .cancelled ∨ ∃ reason, result = .error (.io reason)

theorem play_of_isCancelled {conditions : Conditions} {trail : List Effect}
    (cancelled : conditions.isCancelled trail = true) (outcome : Except ResponseError String)
    (turns : List Turn) : play conditions outcome trail turns = (trail, .error .cancelled) := by
  cases turns <;> simp only [play, cancelled, ↓reduceIte]

variable {failures : Failures} {outcome : Except ResponseError String} {trail : List Effect}

/-- The writes so far have been accepted. -/
def Room (failures : Failures) (trail : List Effect) : Prop :=
  ∀ limit reason, failures.writeLimit = some (limit, reason) → writeCount trail ≤ limit

theorem Room.written {text : String} (room : Room failures trail)
    (accepted : text.isEmpty = false → failures.conditions.writeFault (writeCount trail) = none) :
    Room failures (trail ++ written text) := by
  intro limit reason planned
  have still := room limit reason planned
  rw [writeCount_append, writeCount_written]
  split
  · exact still
  · rename_i full
    have below : ¬ limit ≤ writeCount trail := by
      intro reached
      have fault := Failures.writeFault_eq_some.mpr ⟨limit, planned, reached⟩
      rw [accepted (by simpa using full)] at fault
      cases fault
    omega

/-- A plan that has been played meets none of the failures. -/
theorem Room.not_meets (room : Room failures trail)
    (ongoing : ¬ failures.conditions.isCancelled trail = true)
    (ended : failures.ending = .closed ∨ ∃ error, outcome = .error error) :
    ¬ failures.Meets trail outcome := by
  rintro (raised | ⟨limit, reason, planned, beyond⟩ | ⟨unclosed, rest, rfl⟩)
  · exact ongoing (Failures.isCancelled_iff.mpr raised)
  · exact Nat.not_lt_of_le (room limit reason planned) beyond
  · rcases ended with closed | ⟨error, same⟩
    · exact unclosed closed
    · cases same

/-- A reading that has been cancelled is stopped where it is. -/
theorem meets_of_isCancelled (cancelled : failures.conditions.isCancelled trail = true)
    (turns : List Turn) (more : List Effect) :
    failures.Meets (trail ++ more) outcome ∧
      Stopped (play failures.conditions outcome trail turns).2 := by
  obtain ⟨number, planned, raised⟩ := Failures.isCancelled_iff.mp cancelled
  rw [play_of_isCancelled cancelled]
  refine ⟨Or.inl ⟨number, planned, ?_⟩, Or.inl rfl⟩
  exact raised.trans (events_isPrefix (List.prefix_append _ _))

/-- A text that cannot be written lies beyond the writes that are accepted. -/
theorem meets_of_refused {whole : List Effect} {text : String} {error : ResponseError}
    (refused : writeText failures.conditions trail text = .error error)
    (inside : trail ++ written text <+: whole) :
    failures.Meets whole outcome ∧ Stopped (.error error) := by
  obtain ⟨full, reason, fault, rfl⟩ := writeText_eq_error refused
  obtain ⟨limit, planned, reached⟩ := Failures.writeFault_eq_some.mp fault
  refine ⟨Or.inr (Or.inl ⟨limit, reason, planned, ?_⟩), Or.inr ⟨reason, rfl⟩⟩
  refine Nat.lt_of_lt_of_le ?_ (writeCount_isPrefix inside)
  rw [writeCount_append, writeCount_written, full]
  exact Nat.lt_succ_of_le reached

/-- The end of a plan is stopped by a failure that it meets, and is the whole end if it
meets none. -/
theorem conclude_settles (room : Room failures trail)
    (ongoing : ¬ failures.conditions.isCancelled trail = true) :
    let played := conclude failures.conditions trail outcome
    let whole := trail ++ closing failures.ending outcome
    failures.Meets whole outcome ∧ Stopped played.2 ∨
      ¬ failures.Meets whole outcome ∧ played = (whole, outcome.map fun _ => ()) := by
  have same : failures.conditions.ending = failures.ending := rfl
  cases outcome with
  | error error =>
      have nothing : closing failures.ending (.error error) = [] := by
        cases failures.ending <;> rfl
      simp only [conclude, nothing, List.append_nil]
      exact Or.inr ⟨room.not_meets ongoing (Or.inr ⟨error, rfl⟩), rfl⟩
  | ok rest =>
      simp only [conclude, same]
      cases ended : failures.ending with
      | stalled => exact Or.inl ⟨Or.inr (Or.inr ⟨by simp [ended], rest, rfl⟩), Or.inl rfl⟩
      | broken reason =>
          exact Or.inl ⟨Or.inr (Or.inr ⟨by simp [ended], rest, rfl⟩), Or.inr ⟨reason, rfl⟩⟩
      | closed =>
          cases accepted : writeText failures.conditions trail rest with
          | error error => exact Or.inl (meets_of_refused accepted List.prefix_rfl)
          | ok after =>
              obtain ⟨rfl, unfailing⟩ := writeText_eq_ok accepted
              refine Or.inr ⟨(room.written unfailing).not_meets ?_ (Or.inl ended), rfl⟩
              rw [Failures.isCancelled_iff, events_append, events_written, List.append_nil,
                ← Failures.isCancelled_iff]
              exact ongoing

/-- **Playing a plan with failures.** It is stopped if it meets one of them, and it is the
whole plan if it meets none. -/
theorem play_settles (outcome : Except ResponseError String) (turns : List Turn)
    (room : Room failures trail) :
    let played := play failures.conditions outcome trail turns
    let whole := trail ++ turns.flatMap Turn.effects ++ closing failures.ending outcome
    failures.Meets whole outcome ∧ Stopped played.2 ∨
      ¬ failures.Meets whole outcome ∧ played = (whole, outcome.map fun _ => ()) := by
  induction turns generalizing trail with
  | nil =>
      rw [List.flatMap_nil, List.append_nil]
      cases cancelled : failures.conditions.isCancelled trail with
      | true => exact Or.inl (meets_of_isCancelled cancelled [] _)
      | false =>
          simp only [play, cancelled, Bool.false_eq_true, ↓reduceIte]
          exact conclude_settles room (by simp [cancelled])
  | cons turn more ih =>
      cases cancelled : failures.conditions.isCancelled trail with
      | true =>
          rw [List.append_assoc]
          exact Or.inl (meets_of_isCancelled cancelled _ _)
      | false =>
          have still : Room failures (trail ++ turn.told) := by
            intro limit reason planned
            rw [writeCount_append, writeCount_told, Nat.add_zero]
            exact room limit reason planned
          have whole : trail ++ (turn :: more).flatMap Turn.effects ++
                closing failures.ending outcome =
              trail ++ turn.told ++ written turn.text ++ more.flatMap Turn.effects ++
                closing failures.ending outcome := by
            simp only [List.flatMap_cons, Turn.effects, List.append_assoc]
          simp only [play, cancelled, Bool.false_eq_true, ↓reduceIte, whole]
          cases accepted : writeText failures.conditions (trail ++ turn.told) turn.text with
          | error error =>
              refine Or.inl (meets_of_refused accepted ?_)
              rw [List.append_assoc _ _ (closing _ _)]
              exact List.prefix_append _ _
          | ok after =>
              obtain ⟨rfl, unfailing⟩ := writeText_eq_ok accepted
              exact ih (still.written unfailing)

/-- What has been played of turns when they were cancelled while one of them raised the
event with a number, behind what was done before. Only the text of this turn follows the
event, unless it cannot be written. -/
def EndsInside (conditions : Conditions) (start : List Effect) (turns : List Turn) (number : Nat)
    (played : List Effect × Except ResponseError Unit) : Prop :=
  ∃ done turn more event, turns = done ++ turn :: more ∧ turn.events = [event] ∧
    let before := start ++ done.flatMap Turn.effects
    (events before).length + 1 = number ∧
      (played = (before ++ .event event :: written turn.text, .error .cancelled) ∨
        turn.text.isEmpty = false ∧ ∃ reason,
          conditions.writeFault (writeCount before) = some reason ∧
            played = (before ++ [.event event], .error (.io reason)))

/-- A plan that is cancelled while a turn raises its event ends with this turn. -/
theorem play_cancelled {number : Nat} (planned : failures.cancelledIn = some number)
    (outcome : Except ResponseError String) {turns : List Turn}
    (single : ∀ turn ∈ turns, turn.events.length ≤ 1) (before : (events trail).length < number)
    (raised : number ≤ (events (play failures.conditions outcome trail turns).1).length) :
    EndsInside failures.conditions trail turns number
      (play failures.conditions outcome trail turns) := by
  induction turns generalizing trail with
  | nil =>
      have short := events_isPrefix (play_isPrefix failures.conditions outcome trail [])
      rw [List.flatMap_nil, List.append_nil, events_append, events_closing, List.append_nil] at short
      omega
  | cons turn more ih =>
      have ongoing : failures.conditions.isCancelled trail = false := by
        rw [← Bool.not_eq_true, Failures.isCancelled_iff]
        rintro ⟨other, planned', reached⟩
        obtain rfl := Option.some.inj (planned.symm.trans planned')
        exact Nat.not_le_of_lt before reached
      have one := single turn List.mem_cons_self
      have told : (events (trail ++ turn.told)).length =
          (events trail).length + turn.events.length := by
        rw [events_append, events_told, List.length_append]
      -- If the turn brings the number, it raises one event, and this is the event.
      have raises (reached : number ≤ (events (trail ++ turn.told)).length) :
          (∃ event, turn.events = [event]) ∧ (events trail).length + 1 = number :=
        ⟨List.length_eq_one_iff.mp (by omega), by omega⟩
      simp only [play, ongoing, Bool.false_eq_true, ↓reduceIte] at raised ⊢
      cases accepted : writeText failures.conditions (trail ++ turn.told) turn.text with
      | error error =>
          rw [accepted] at raised
          obtain ⟨full, reason, fault, rfl⟩ := writeText_eq_error accepted
          obtain ⟨⟨event, lone⟩, counted⟩ := raises raised
          rw [writeCount_append, writeCount_told, Nat.add_zero] at fault
          refine ⟨[], turn, more, event, rfl, lone, ?_⟩
          rw [List.flatMap_nil, List.append_nil]
          exact ⟨counted, Or.inr ⟨full, reason, fault, by simp [Turn.told, lone]⟩⟩
      | ok after =>
          rw [accepted] at raised
          obtain ⟨rfl, -⟩ := writeText_eq_ok accepted
          have quiet : events (trail ++ turn.told ++ written turn.text) =
              events (trail ++ turn.told) := by
            rw [events_append, events_written, List.append_nil]
          rcases Nat.lt_or_ge (events (trail ++ turn.told)).length number with early | reached
          · obtain ⟨done, last, later, event, rfl, lone, course⟩ :=
              ih (List.forall_mem_cons.mp single).2 (quiet ▸ early) raised
            have behind : trail ++ (turn :: done).flatMap Turn.effects =
                trail ++ turn.told ++ written turn.text ++ done.flatMap Turn.effects := by
              simp only [List.flatMap_cons, Turn.effects, List.append_assoc]
            refine ⟨turn :: done, last, later, event, rfl, lone, ?_⟩
            rw [behind]
            exact course
          · obtain ⟨⟨event, lone⟩, counted⟩ := raises reached
            have cancelled := Failures.isCancelled_iff.mpr ⟨number, planned, quiet ▸ reached⟩
            refine ⟨[], turn, more, event, rfl, lone, ?_⟩
            rw [List.flatMap_nil, List.append_nil]
            refine ⟨counted, Or.inl ?_⟩
            dsimp only
            rw [play_of_isCancelled cancelled]
            simp [Turn.told, lone]

theorem EndsInside.length_events {conditions : Conditions} {turns : List Turn} {number : Nat}
    {played : List Effect × Except ResponseError Unit}
    (ends : EndsInside conditions trail turns number played) :
    (events played.1).length = number := by
  obtain ⟨done, turn, more, event, -, -, counted, rfl | ⟨-, reason, -, rfl⟩⟩ := ends
  · rw [← counted, events_append, List.length_append]
    exact congrArg (_ + ·) (congrArg (List.length ∘ (event :: ·)) (events_written turn.text))
  · rw [← counted, events_append, List.length_append]
    rfl

section Readings

variable (failures : Failures) (passthrough : Bool) (input : Bytes)

/-- The part of the undisturbed reading that comes before the end of what can be read. -/
def share : List Effect :=
  (plan failures.ending passthrough input).effects failures.ending

theorem share_isPrefix : share failures passthrough input <+: (read {} passthrough input).trail := by
  rw [(read_free passthrough input).1, share, Plan.effects, Plan.effects]
  cases ended : failures.ending with
  | closed => exact List.prefix_rfl
  | stalled | broken _ =>
      have unclosed : failures.ending ≠ .closed := by simp [ended]
      have nothing : closing failures.ending (plan failures.ending passthrough input).outcome = [] := by
        simp [closing, ended]
      obtain ⟨more, turns⟩ := plan_turns_isPrefix unclosed passthrough input
      rw [← ended, nothing, List.append_nil, ← turns, List.flatMap_append, List.append_assoc]
      exact List.prefix_append _ _

/-- Without an end that fails, all of the undisturbed reading can be read. -/
theorem share_eq (ended : failures.ending = .closed ∨
      ∃ error, (plan failures.ending passthrough input).outcome = .error error) :
    share failures passthrough input = (read {} passthrough input).trail ∧
      (plan failures.ending passthrough input).outcome.map (fun _ => ()) =
        (read {} passthrough input).result := by
  obtain ⟨trail, result⟩ := read_free passthrough input
  rw [trail, result, share]
  rcases ended with closed | ⟨error, fails⟩
  · rw [closed]
    exact ⟨rfl, rfl⟩
  · by_cases closed : failures.ending = .closed
    · rw [closed]
      exact ⟨rfl, rfl⟩
    · rw [plan_eq_of_error closed fails]
      refine ⟨?_, rfl⟩
      rw [Plan.effects, Plan.effects, fails, closing_error, closing_error]

theorem reached_iff_meets : failures.Reached passthrough input ↔
    failures.Meets (share failures passthrough input)
      (plan failures.ending passthrough input).outcome := by
  constructor
  · intro reached
    cases outcome : (plan failures.ending passthrough input).outcome with
    | error error =>
        have whole := (share_eq failures passthrough input (Or.inr ⟨error, outcome⟩)).1
        cases reached with
        | event planned raised => exact Or.inl ⟨_, planned, whole ▸ raised⟩
        | write planned written => exact Or.inr (Or.inl ⟨_, _, planned, whole ▸ written⟩)
        | ending planned taken =>
            obtain ⟨rest, fine⟩ := outcome_eq_ok_iff.mpr taken
            cases outcome.symm.trans fine
    | ok rest =>
        by_cases closed : failures.ending = .closed
        · have whole := (share_eq failures passthrough input (Or.inl closed)).1
          cases reached with
          | event planned raised => exact Or.inl ⟨_, planned, whole ▸ raised⟩
          | write planned written => exact Or.inr (Or.inl ⟨_, _, planned, whole ▸ written⟩)
          | ending planned _ => exact (planned closed).elim
        · exact Or.inr (Or.inr ⟨closed, rest, rfl⟩)
  · have inside := share_isPrefix failures passthrough input
    rintro (⟨number, planned, raised⟩ | ⟨limit, reason, planned, written⟩ | ⟨unclosed, fine⟩)
    · exact .event planned (raised.trans (events_isPrefix inside))
    · exact .write planned (written.trans_le (writeCount_isPrefix inside))
    · exact .ending unclosed (outcome_eq_ok_iff.mp fine)

theorem play_plan :
    play failures.conditions (plan failures.ending passthrough input).outcome []
        (plan failures.ending passthrough input).turns =
      ((read failures.conditions passthrough input).trail,
        (read failures.conditions passthrough input).result) :=
  (read_eq_play failures.conditions passthrough input).symm

theorem read_isPrefix :
    (read failures.conditions passthrough input).trail <+: share failures passthrough input := by
  have inside := play_isPrefix failures.conditions
    (plan failures.ending passthrough input).outcome []
    (plan failures.ending passthrough input).turns
  rw [play_plan, List.nil_append] at inside
  exact inside

/-- A reading that reaches a failure is stopped, and one that reaches none is undisturbed. -/
theorem read_settles :
    failures.Reached passthrough input ∧
        Stopped (read failures.conditions passthrough input).result ∨
      ¬ failures.Reached passthrough input ∧
        (read failures.conditions passthrough input).trail = (read {} passthrough input).trail ∧
        (read failures.conditions passthrough input).result =
          (read {} passthrough input).result := by
  have room : Room failures [] := fun _ _ _ => Nat.zero_le _
  have settled := play_settles (plan failures.ending passthrough input).outcome
    (plan failures.ending passthrough input).turns room
  dsimp only at settled
  rw [play_plan, List.nil_append] at settled
  rw [reached_iff_meets]
  refine settled.imp id fun ⟨unmet, whole⟩ => ⟨unmet, ?_⟩
  obtain ⟨trail, result⟩ := Prod.mk.inj whole
  have ended : failures.ending = .closed ∨
      ∃ error, (plan failures.ending passthrough input).outcome = .error error := by
    by_contra fails
    obtain ⟨unclosed, unfaulted⟩ := not_or.mp fails
    cases outcome : (plan failures.ending passthrough input).outcome with
    | error error => exact unfaulted ⟨error, outcome⟩
    | ok rest => exact unmet (Or.inr (Or.inr ⟨unclosed, rest, outcome⟩))
  obtain ⟨same, alike⟩ := share_eq failures passthrough input ended
  exact ⟨trail.trans same, result.trans alike⟩

/-- A reading that is cancelled while it raises an event ends with the line of this event. -/
theorem read_endsInside {number : Nat} (planned : failures.cancelledIn = some number)
    (positive : 0 < number)
    (raised : number ≤ (events (read failures.conditions passthrough input).trail).length) :
    EndsInside failures.conditions [] (plan failures.ending passthrough input).turns number
      ((read failures.conditions passthrough input).trail,
        (read failures.conditions passthrough input).result) := by
  rw [← play_plan]
  refine play_cancelled planned _ length_events_turn positive ?_
  rw [play_plan]
  exact raised

/-- **Readings that are cut short.** Whatever fails, a reading does what the undisturbed one
does, from its beginning. If one of the failures is reached, it ends as cancelled or with
the failure of reading or writing; if none is, it is the undisturbed reading with its
result. If it is cancelled while an event is raised, this is its last event, and only the
text of the line that raised it is still written, unless this fails. -/
theorem read_cut :
    (read failures.conditions passthrough input).trail <+: (read {} passthrough input).trail ∧
      (failures.Reached passthrough input →
        Stopped (read failures.conditions passthrough input).result) ∧
      (¬ failures.Reached passthrough input →
        (read failures.conditions passthrough input).trail = (read {} passthrough input).trail ∧
        (read failures.conditions passthrough input).result =
          (read {} passthrough input).result) ∧
      ∀ number, failures.cancelledIn = some number → 0 < number →
        number ≤ (events (read failures.conditions passthrough input).trail).length →
          (events (read failures.conditions passthrough input).trail).length = number ∧
          EndsInside failures.conditions [] (plan failures.ending passthrough input).turns number
            ((read failures.conditions passthrough input).trail,
              (read failures.conditions passthrough input).result) := by
  have settled := read_settles failures passthrough input
  refine ⟨(read_isPrefix failures passthrough input).trans
    (share_isPrefix failures passthrough input), ?_, ?_, ?_⟩
  · exact fun reached => settled.elim And.right fun undisturbed => (undisturbed.1 reached).elim
  · exact fun unreached => settled.elim (fun stopped => (unreached stopped.1).elim) And.right
  · intro number planned positive raised
    have ends := read_endsInside failures passthrough input planned positive raised
    exact ⟨ends.length_events, ends⟩

end Readings

end ContainerTasks.Progress.Response
