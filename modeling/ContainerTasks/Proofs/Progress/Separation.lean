import ContainerTasks.Proofs.Progress.Plan

/-! # What is written and what is told

A reading raises events and writes texts from one state, but neither has a say in the other.
A line that ends the build changes nothing that texts are made of, so the writes and the
result stay the same if such lines are left out (`Shortened`). Whether text from the daemon
is passed through is not kept in the state, so the events and the result do not depend on
it, and the writes lose just those of the lines with such text (`hushed`).
-/

namespace ContainerTasks.Progress.Response

/-- The writes of a trail. -/
def writes (trail : List Effect) : List String :=
  trail.filterMap fun effect => match effect with
    | .write text => some text
    | .event _ => none

theorem writes_append (trail more : List Effect) :
    writes (trail ++ more) = writes trail ++ writes more :=
  List.filterMap_append

theorem writes_flatMap (turns : List Turn) :
    writes (turns.flatMap Turn.effects) = turns.flatMap fun turn => writes turn.effects :=
  List.filterMap_flatMap

/-- A turn writes its text. -/
theorem writes_effects (turn : Turn) : writes turn.effects = writes (written turn.text) := by
  have silent : writes turn.told = [] := by simp [writes, Turn.told]
  rw [Turn.effects, writes_append, silent, List.nil_append]

theorem events_effects (turn : Turn) : events turn.effects = turn.events := by
  rw [Turn.effects, events_append, events_told, events_written, List.append_nil]

namespace Message

/-- What a line says ends the build. -/
def endsBuild : Message → Bool
  | failure _ | image _ => true
  | update _ | output _ | nothing => false

/-- A line holds text from the daemon. -/
def isOutput : Message → Bool
  | output _ => true
  | failure _ | image _ | update _ | nothing => false

end Message

/-- What a line says is of a kind. -/
def carries (kind : Message → Bool) (line : Bytes) : Bool :=
  match readLine line with
  | .ok message => kind message
  | .error _ => false

/-! ## Lines that end the build -/

/-- The states write the same from here on, if the same lines follow. -/
structure State.Alike (state other : State) : Prop where
  tracker : state.tracker = other.tracker
  cursor : state.cursor = other.cursor

/-- Two states have taken in a line alike: from both the same is written, and they stay alike. -/
inductive TakenAlike : Except Breakdown (State × List Event × String) →
    Except Breakdown (State × List Event × String) → Prop
  | broken (cause : Breakdown) : TakenAlike (.error cause) (.error cause)
  | taken {after again : State} (alike : after.Alike again) (told more : List Event)
      (text : String) : TakenAlike (.ok (after, told, text)) (.ok (again, more, text))

namespace State.Alike

variable {state other : State}

/-- An event is of no account for what is written. -/
theorem emit (alike : state.Alike other) (event : Event) : (state.emit event).1.Alike other := by
  unfold State.emit
  split
  · exact alike
  · exact ⟨alike.tracker, alike.cursor⟩

theorem symm (alike : state.Alike other) : other.Alike state :=
  ⟨alike.tracker.symm, alike.cursor.symm⟩

theorem update (alike : state.Alike other) (records : List Record) :
    TakenAlike (state.update records) (other.update records) := by
  have same : state.written records = other.written records := by
    rw [State.written, State.written, alike.cursor, alike.tracker]
  rw [update_eq, update_eq, same]
  cases (other.written records).2.2.activeSteps with
  | error cause => exact .broken cause
  | ok active =>
      apply TakenAlike.taken
      exact ⟨rfl, rfl⟩

/-- A line keeps states alike and writes the same from both. -/
theorem take (alike : state.Alike other) (passthrough : Bool) (message : Message) :
    TakenAlike (state.take passthrough message) (other.take passthrough message) := by
  cases message with
  -- One of the states may have been terminated, so they need not raise the event both.
  | failure text => exact .taken ((alike.emit _).symm.emit _).symm _ _ _
  | image id => exact .taken ((alike.emit _).symm.emit _).symm _ _ _
  | update records => exact alike.update records
  | output text => exact .taken alike _ _ _
  | nothing => exact .taken alike _ _ _

/-- A line that ends the build keeps states alike even if it follows only one of them, and
writes nothing. -/
theorem take_endsBuild (alike : state.Alike other) (passthrough : Bool) {message : Message}
    (ends : message.endsBuild = true) :
    ∃ after told, state.take passthrough message = .ok (after, told, "") ∧ after.Alike other := by
  cases message with
  | failure text => exact ⟨_, _, rfl, alike.emit _⟩
  | image id => exact ⟨_, _, rfl, alike.emit _⟩
  | update records => cases ends
  | output text => cases ends
  | nothing => cases ends

end State.Alike

/-- The plans write the same and have the same outcome. -/
structure Plan.Alike (plan other : Plan) : Prop where
  texts : writes (plan.turns.flatMap Turn.effects) = writes (other.turns.flatMap Turn.effects)
  outcome : plan.outcome = other.outcome

namespace Plan.Alike

variable {plan other : Plan}

theorem cons (alike : plan.Alike other) {turn first : Turn} (text : turn.text = first.text) :
    Plan.Alike ⟨turn :: plan.turns, plan.outcome⟩ ⟨first :: other.turns, other.outcome⟩ where
  texts := by
    simp only [List.flatMap_cons, writes_append, writes_effects, text, alike.texts]
  outcome := alike.outcome

/-- A turn that writes nothing may stand in front of one of the plans. -/
theorem skip (alike : plan.Alike other) {turn : Turn} (text : turn.text = "") :
    Plan.Alike ⟨turn :: plan.turns, plan.outcome⟩ other where
  texts := by
    rw [List.flatMap_cons, writes_append, writes_effects, text]
    exact alike.texts
  outcome := alike.outcome

/-- Undisturbed readings of alike plans write the same and have the same result. -/
theorem read_eq {passthrough : Bool} {input shorter : Bytes}
    (alike : (Response.plan .closed passthrough input).Alike
      (Response.plan .closed passthrough shorter)) :
    writes (read {} passthrough shorter).trail = writes (read {} passthrough input).trail ∧
      (read {} passthrough shorter).result = (read {} passthrough input).result := by
  obtain ⟨trail, result⟩ := read_free passthrough input
  obtain ⟨other, outcome⟩ := read_free passthrough shorter
  rw [trail, result, other, outcome, effects, effects, writes_append, writes_append, alike.texts,
    alike.outcome]
  exact ⟨rfl, rfl⟩

end Plan.Alike

/-- Lines may be replaced by fewer ones: from states that are alike the plans of both are. -/
def Interchangeable (passthrough : Bool) (lines fewer : List Bytes) : Prop :=
  ∀ state other : State, state.Alike other →
    (planOf passthrough state lines).Alike (planOf passthrough other fewer)

namespace Interchangeable

variable {passthrough : Bool} {lines fewer : List Bytes}

theorem cons (alike : Interchangeable passthrough lines fewer) (line : Bytes) :
    Interchangeable passthrough (line :: lines) (line :: fewer) := by
  intro state other same
  simp only [planOf]
  cases readLine line with
  | error error => exact ⟨rfl, rfl⟩
  | ok message =>
      have takes := same.take passthrough message
      dsimp only
      generalize state.take passthrough message = first at takes ⊢
      generalize other.take passthrough message = second at takes ⊢
      cases takes with
      | broken cause => exact ⟨rfl, rfl⟩
      | taken still told more text => exact (alike _ _ still).cons rfl

theorem refl (lines : List Bytes) : Interchangeable passthrough lines lines := by
  induction lines with
  | nil =>
      intro state other same
      refine ⟨rfl, ?_⟩
      rw [planOf, planOf, State.rest, State.rest, same.tracker, same.cursor]
  | cons line more ih => exact ih.cons line

/-- A line that ends the build may be left out. -/
theorem skip (alike : Interchangeable passthrough lines fewer) {line : Bytes}
    (ends : carries Message.endsBuild line = true) :
    Interchangeable passthrough (line :: lines) fewer := by
  intro state other same
  rw [carries] at ends
  rw [planOf]
  cases understood : readLine line with
  | error error =>
      rw [understood] at ends
      cases ends
  | ok message =>
      rw [understood] at ends
      obtain ⟨after, told, taken, still⟩ := same.take_endsBuild passthrough ends
      simp only [taken]
      exact (alike _ _ still).skip rfl

end Interchangeable

/-- An input and the same input without some of the lines that end the build. Such a line is
left out together with the newline behind it; a last line need not have one. -/
inductive Shortened : Bytes → Bytes → Prop
  | refl (input : Bytes) : Shortened input input
  | kept {line input shorter : Bytes} (unbroken : 10 ∉ line) (later : Shortened input shorter) :
      Shortened (line ++ 10 :: input) (line ++ 10 :: shorter)
  | omitted {line input shorter : Bytes} (unbroken : 10 ∉ line)
      (ends : carries Message.endsBuild (dropReturn line) = true) (later : Shortened input shorter) :
      Shortened (line ++ 10 :: input) shorter
  | last {line : Bytes} (unbroken : 10 ∉ line)
      (ends : carries Message.endsBuild (dropReturn line) = true) : Shortened line []

/-- What is left out makes no difference to what is written. -/
theorem Shortened.interchangeable {input shorter : Bytes} (shortened : Shortened input shorter)
    (passthrough : Bool) :
    Interchangeable passthrough (linesOf .closed input) (linesOf .closed shorter) := by
  induction shortened with
  | refl input => exact .refl _
  | kept unbroken later ih =>
      rw [linesOf_append _ unbroken, linesOf_append _ unbroken]
      exact ih.cons _
  | omitted unbroken ends later ih =>
      rw [linesOf_append _ unbroken]
      exact ih.skip ends
  | @last line unbroken ends =>
      rw [linesOf_unbroken unbroken]
      by_cases empty : line.isEmpty
      · rw [if_pos empty]
        exact .refl []
      · rw [if_neg empty]
        exact (Interchangeable.refl []).skip ends

/-! ## Text that is passed through -/

/-- What a line makes a reading do if text from the daemon is not passed through, given what it
does if such text is. -/
def hushed (line : Bytes) (turn : Turn) : Turn :=
  if carries Message.isOutput line then { turn with text := "" } else turn

/-- Whether text is passed through matters to lines with such text only, and not to the state
and the events. -/
theorem take_false (state : State) (message : Message) :
    state.take false message =
      (state.take true message).map fun (after, told, text) =>
        (after, told, if message.isOutput then "" else text) := by
  cases message with
  | update records =>
      change state.update records = (state.update records).map id
      cases state.update records <;> rfl
  | failure text => rfl
  | image id => rfl
  | output text => rfl
  | nothing => rfl

theorem zip_planOf_false (state : State) (lines : List Bytes) :
    lines.zip (planOf false state lines).turns =
        (lines.zip (planOf true state lines).turns).map
          (fun item => (item.1, hushed item.1 item.2)) ∧
      (planOf false state lines).outcome = (planOf true state lines).outcome := by
  induction lines generalizing state with
  | nil => exact ⟨rfl, rfl⟩
  | cons line more ih =>
      simp only [planOf]
      cases understood : readLine line with
      | error error => exact ⟨rfl, rfl⟩
      | ok message =>
          simp only [take_false]
          cases state.take true message with
          | error cause => exact ⟨rfl, rfl⟩
          | ok taken =>
              obtain ⟨after, told, text⟩ := taken
              have turn : hushed line ⟨told, text⟩ =
                  ⟨told, if message.isOutput then "" else text⟩ := by
                rw [hushed, carries, understood]
                by_cases output : message.isOutput
                · simp only [output, ↓reduceIte]
                · simp only [output, Bool.false_eq_true, ↓reduceIte]
              -- Both readings go on from the same state.
              obtain ⟨turns, outcome⟩ := ih after
              dsimp only [Except.map]
              rw [List.zip_cons_cons, List.zip_cons_cons, List.map_cons, turns, turn]
              exact ⟨rfl, outcome⟩

/-- Every turn has its line. -/
theorem length_turns_le (passthrough : Bool) (state : State) (lines : List Bytes) :
    (planOf passthrough state lines).turns.length ≤ lines.length := by
  induction lines generalizing state with
  | nil => exact Nat.le_refl 0
  | cons line more ih =>
      rw [planOf]
      cases readLine line with
      | error error => exact Nat.zero_le _
      | ok message =>
          dsimp only
          cases state.take passthrough message with
          | error cause => exact Nat.zero_le _
          | ok taken => exact Nat.succ_le_succ (ih _)

section Readings

variable (passthrough : Bool) (input : Bytes)

/-- The lines of a response that are understood, each with what it makes a reading do. -/
def answered : List (Bytes × Turn) :=
  (linesOf .closed input).zip (plan .closed passthrough input).turns

/-- The writes for the lines of a response, each with its line. -/
def lineWrites : List (Bytes × String) :=
  (answered passthrough input).flatMap fun item =>
    (writes item.2.effects).map fun text => (item.1, text)

theorem map_snd_answered :
    (answered passthrough input).map Prod.snd = (plan .closed passthrough input).turns :=
  List.map_snd_zip (length_turns_le passthrough {} _)

theorem answered_false : answered false input =
    (answered true input).map fun item => (item.1, hushed item.1 item.2) :=
  (zip_planOf_false {} (linesOf .closed input)).1

theorem outcome_false :
    (plan .closed false input).outcome = (plan .closed true input).outcome :=
  (zip_planOf_false {} (linesOf .closed input)).2

/-- The writes of a reading are those for its lines and what is left at the end. -/
theorem writes_read : writes (read {} passthrough input).trail =
    (lineWrites passthrough input).map Prod.snd ++
      writes (closing .closed (plan .closed passthrough input).outcome) := by
  rw [(read_free passthrough input).1, Plan.effects, writes_append, writes_flatMap,
    ← map_snd_answered, lineWrites, List.flatMap_map, List.map_flatMap]
  congr 1
  refine List.flatMap_congr fun item _ => ?_
  rw [List.map_map]
  exact (List.map_id _).symm

theorem events_read : events (read {} passthrough input).trail =
    (answered passthrough input).flatMap fun item => item.2.events := by
  rw [(read_free passthrough input).1, Plan.effects, events_append, events_closing,
    List.append_nil, ← map_snd_answered, List.flatMap_map, events, List.filterMap_flatMap]
  exact List.flatMap_congr fun item _ => events_effects item.2

theorem events_read_false : events (read {} false input).trail =
    events (read {} true input).trail := by
  rw [events_read, events_read, answered_false, List.flatMap_map]
  refine List.flatMap_congr fun item _ => ?_
  rw [hushed]
  split
  · rfl
  · rfl

theorem lineWrites_false : lineWrites false input =
    (lineWrites true input).filter fun item => !carries Message.isOutput item.1 := by
  rw [lineWrites, answered_false, List.flatMap_map, lineWrites, List.filter_flatMap]
  refine List.flatMap_congr fun item _ => ?_
  rw [List.filter_map, hushed]
  by_cases output : carries Message.isOutput item.1
  · simp only [output, ↓reduceIte, Function.comp_def, Bool.not_true, List.filter_false,
      writes_effects]
    rfl
  · simp only [output, Bool.false_eq_true, ↓reduceIte, Function.comp_def, Bool.not_false,
      List.filter_true]

/-- **What is written and what is told.** Undisturbed, a reading writes the same and has the same
result without lines that end the build. Its events and its result do not depend on whether
text from the daemon is passed through, and if it is not, the reading makes the same writes, for
its lines and at the end, except for those for lines with such text. -/
theorem read_separates :
    (∀ passthrough shorter, Shortened input shorter →
      writes (read {} passthrough shorter).trail = writes (read {} passthrough input).trail ∧
        (read {} passthrough shorter).result = (read {} passthrough input).result) ∧
      events (read {} false input).trail = events (read {} true input).trail ∧
      (read {} false input).result = (read {} true input).result ∧
      let rest := writes (closing .closed (plan .closed true input).outcome)
      writes (read {} true input).trail = (lineWrites true input).map Prod.snd ++ rest ∧
        writes (read {} false input).trail =
          ((lineWrites true input).filter fun item => !carries Message.isOutput item.1).map
            Prod.snd ++ rest := by
  refine ⟨?_, events_read_false input, ?_, ?_⟩
  · intro passthrough shorter shortened
    exact (shortened.interchangeable passthrough _ _ ⟨rfl, rfl⟩).read_eq
  · rw [(read_free false input).2, (read_free true input).2, outcome_false]
  · refine ⟨writes_read true input, ?_⟩
    rw [writes_read, lineWrites_false, outcome_false]

end Readings

/-- A failure that is reported before a line of text. -/
def troubled : Bytes :=
  Text.Utf8.ofString "\x7b\"error\":\"no space\"\x7d\n\x7b\"stream\":\"done\"\x7d"

/-- The same text without the failure. -/
def untroubled : Bytes :=
  Text.Utf8.ofString "\x7b\"stream\":\"done\"\x7d"

theorem read_separates_troubled :
    Shortened troubled untroubled ∧
      writes (read {} true troubled).trail = ["done"] ∧
      writes (read {} true untroubled).trail = writes (read {} true troubled).trail ∧
      (read {} true untroubled).result = (read {} true troubled).result := by
  have shortened : Shortened troubled untroubled := by
    have split : troubled =
        Text.Utf8.ofString "\x7b\"error\":\"no space\"\x7d" ++ 10 :: untroubled := by
      decide +kernel
    rw [split]
    exact .omitted (by decide +kernel) (by decide +kernel) (.refl _)
  exact ⟨shortened, by decide +kernel, (read_separates troubled).1 true untroubled shortened⟩

end ContainerTasks.Progress.Response
