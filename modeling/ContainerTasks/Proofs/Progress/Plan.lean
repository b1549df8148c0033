import ContainerTasks.Proofs.Progress.EventProtocol

/-! # The plan of a reading

What the lines of a response make a reading do does not depend on what happens from
outside: line by line they raise events and write texts, until a line cannot be
taken in or something is left to write (`planOf`). Reading a response is playing this
plan under the conditions of the outside (`readLines_eq_play`), and undisturbed it is the
whole plan.
-/

namespace ContainerTasks.Progress.Response

/-- The write of a text. An empty text is not written. -/
def written (text : String) : List Effect :=
  if text.isEmpty then [] else [.write text]

/-- What a line makes a reading do: raise events and then write a text. -/
structure Turn where
  events : List Event
  text : String

namespace Turn

/-- The events of a turn as effects. -/
def told (turn : Turn) : List Effect :=
  turn.events.map .event

def effects (turn : Turn) : List Effect :=
  turn.told ++ written turn.text

end Turn

/-- What all lines make a reading do, up to one that cannot be understood or that the program
breaks down over. The outcome is the error of this line, or what is left to write behind the
last line. -/
structure Plan where
  turns : List Turn
  outcome : Except ResponseError String

/-- The plan of lines. -/
def planOf (passthrough : Bool) : State → List Bytes → Plan
  | state, [] => ⟨[], .ok state.rest⟩
  | state, line :: more =>
    match readLine line with
    | .error error => ⟨[], .error error⟩
    | .ok message =>
      match state.take passthrough message with
      | .error cause => ⟨[], .error (.brokenDown cause)⟩
      | .ok (state, events, text) =>
        let plan := planOf passthrough state more
        ⟨⟨events, text⟩ :: plan.turns, plan.outcome⟩

/-- Lines that are understood and taken in one after the other lead from one state to
another. -/
inductive Takes (passthrough : Bool) : State → List Bytes → State → Prop
  | nil (state : State) : Takes passthrough state [] state
  | cons {state next after : State} {line : Bytes} {more : List Bytes} {message : Message}
      {told : List Event} {text : String} (understood : readLine line = .ok message)
      (taken : state.take passthrough message = .ok (next, told, text))
      (later : Takes passthrough next more after) : Takes passthrough state (line :: more) after

/-- What is written at the end of a response, provided that it was closed. -/
def closing (ending : Ending) (outcome : Except ResponseError String) : List Effect :=
  match ending, outcome with
  | .closed, .ok rest => written rest
  | _, _ => []

/-- Ends a plan whose turns have been played. -/
def conclude (conditions : Conditions) (trail : List Effect) :
    Except ResponseError String → List Effect × Except ResponseError Unit
  | .error error => (trail, .error error)
  | .ok rest =>
    match conditions.ending with
    | .stalled => (trail, .error .cancelled)
    | .broken reason => (trail, .error (.io reason))
    | .closed =>
      match writeText conditions trail rest with
      | .error error => (trail, .error error)
      | .ok trail => (trail, flushed conditions)

/-- Plays turns under conditions, behind what has been done already. -/
def play (conditions : Conditions) (outcome : Except ResponseError String) :
    List Effect → List Turn → List Effect × Except ResponseError Unit
  | trail, [] =>
    if conditions.isCancelled trail then (trail, .error .cancelled)
    else conclude conditions trail outcome
  | trail, turn :: more =>
    if conditions.isCancelled trail then (trail, .error .cancelled)
    else
      match writeText conditions (trail ++ turn.told) turn.text with
      | .error error => (trail ++ turn.told, .error error)
      | .ok trail => play conditions outcome trail more

/-- Reading lines is playing their plan. -/
theorem readLines_eq_play (conditions : Conditions) (passthrough : Bool) (state : State)
    (trail : List Effect) (journal : List Journal.Entry) (lines : List Bytes) :
    let report := readLines conditions passthrough state trail journal lines
    let plan := planOf passthrough state lines
    (report.trail, report.result) = play conditions plan.outcome trail plan.turns := by
  induction lines generalizing state trail journal with
  | nil =>
      simp only [readLines, finish, planOf, play, conclude]
      split
      · rfl
      · cases conditions.ending with
        | stalled => rfl
        | broken reason => rfl
        | closed =>
            dsimp only
            cases writeText conditions trail state.rest <;> rfl
  | cons line more ih =>
      simp only [readLines, planOf]
      cases understood : readLine line with
      | error error =>
          simp only [play]
          split <;> rfl
      | ok message =>
          dsimp only
          cases state.take passthrough message with
          | error cause =>
              simp only [play]
              split <;> rfl
          | ok taken =>
              obtain ⟨after, told, text⟩ := taken
              simp only [play, Turn.told]
              split
              · rfl
              · cases writeText conditions (trail ++ told.map .event) text with
                | error error => rfl
                | ok trail => exact ih _ trail _

section Effects

theorem events_written (text : String) : events (written text) = [] := by
  unfold written
  split <;> rfl

@[simp]
theorem events_told (turn : Turn) : events turn.told = turn.events :=
  events_map_event turn.events

theorem events_closing (ending : Ending) (outcome : Except ResponseError String) :
    events (closing ending outcome) = [] := by
  unfold closing
  split
  · exact events_written _
  · rfl

theorem writeCount_append (trail more : List Effect) :
    writeCount (trail ++ more) = writeCount trail + writeCount more :=
  List.countP_append

@[simp]
theorem writeCount_told (turn : Turn) : writeCount turn.told = 0 := by
  simp [writeCount, Turn.told, List.countP_map, Function.comp_def]

theorem writeCount_written (text : String) :
    writeCount (written text) = if text.isEmpty then 0 else 1 := by
  unfold written
  split <;> rfl

theorem events_isPrefix {trail more : List Effect} (earlier : trail <+: more) :
    (events trail).length ≤ (events more).length := by
  obtain ⟨rest, rfl⟩ := earlier
  rw [events_append, List.length_append]
  exact Nat.le_add_right _ _

theorem writeCount_isPrefix {trail more : List Effect} (earlier : trail <+: more) :
    writeCount trail ≤ writeCount more := by
  obtain ⟨rest, rfl⟩ := earlier
  rw [writeCount_append]
  exact Nat.le_add_right _ _

variable {conditions : Conditions} {trail after : List Effect} {text : String}
  {error : ResponseError}

/-- A text that is written stands behind the trail, and its write was accepted. -/
theorem writeText_eq_ok (accepted : writeText conditions trail text = .ok after) :
    after = trail ++ written text ∧
      (text.isEmpty = false → conditions.writeFault (writeCount trail) = none) := by
  unfold writeText at accepted
  unfold written
  split at accepted
  · rename_i empty
    rw [if_pos empty, List.append_nil]
    exact ⟨(Except.ok.inj accepted).symm, fun full => absurd empty (by simp [full])⟩
  · rename_i full
    rw [if_neg full]
    split at accepted
    · cases accepted
    · rename_i fault
      exact ⟨(Except.ok.inj accepted).symm, fun _ => fault⟩

/-- Only a text that is not empty can fail to be written. -/
theorem writeText_eq_error (refused : writeText conditions trail text = .error error) :
    text.isEmpty = false ∧
      ∃ reason, conditions.writeFault (writeCount trail) = some reason ∧ error = .io reason := by
  unfold writeText at refused
  split at refused
  · cases refused
  · rename_i full
    split at refused
    · rename_i reason fault
      exact ⟨by simpa using full, reason, fault, (Except.error.inj refused).symm⟩
    · cases refused

theorem writeText_free (trail : List Effect) (text : String) :
    writeText {} trail text = .ok (trail ++ written text) := by
  unfold writeText written
  split
  · rw [List.append_nil]
  · rfl

end Effects

section Plans

variable {conditions : Conditions} {passthrough : Bool} {state after : State}
  {lines : List Bytes} {error : ResponseError}

/-- Lines that are taken in make a reading do what it does whatever follows. -/
theorem Takes.planOf_append (takes : Takes passthrough state lines after) (more : List Bytes) :
    planOf passthrough state (lines ++ more) =
      ⟨(planOf passthrough state lines).turns ++ (planOf passthrough after more).turns,
        (planOf passthrough after more).outcome⟩ := by
  induction takes with
  | nil state => rfl
  | cons understood taken later ih =>
      rw [List.cons_append, planOf, planOf, understood]
      dsimp only
      rw [taken]
      dsimp only
      rw [ih, List.cons_append]

theorem Takes.outcome_eq (takes : Takes passthrough state lines after) :
    (planOf passthrough state lines).outcome = .ok after.rest := by
  have whole := takes.planOf_append []
  rw [List.append_nil] at whole
  rw [whole]
  rfl

/-- A line that cannot be taken in hides what comes behind it. -/
theorem planOf_append_of_error (fails : (planOf passthrough state lines).outcome = .error error)
    (more : List Bytes) :
    planOf passthrough state (lines ++ more) = planOf passthrough state lines := by
  induction lines generalizing state with
  | nil => cases fails
  | cons line rest ih =>
      simp only [planOf, List.cons_append] at fails ⊢
      cases understood : readLine line with
      | error _ => rfl
      | ok message =>
          rw [understood] at fails
          dsimp only at fails ⊢
          cases taken : state.take passthrough message with
          | error cause => rfl
          | ok result =>
              rw [taken] at fails
              dsimp only
              rw [ih fails]

/-- Further lines only add turns. -/
theorem turns_append (passthrough : Bool) (state : State) (lines more : List Bytes) :
    (planOf passthrough state lines).turns <+:
      (planOf passthrough state (lines ++ more)).turns := by
  induction lines generalizing state with
  | nil => exact List.nil_prefix
  | cons line rest ih =>
      simp only [planOf, List.cons_append]
      cases readLine line with
      | error _ => exact List.nil_prefix
      | ok message =>
          dsimp only
          cases state.take passthrough message with
          | error cause => exact List.nil_prefix
          | ok taken => exact List.cons_prefix_cons.mpr ⟨rfl, ih _⟩

/-- Something is left to write at the end of lines that can all be taken in. -/
theorem outcome_eq_ok_iff : (∃ rest, (planOf passthrough state lines).outcome = .ok rest) ↔
    ∃ after, Takes passthrough state lines after := by
  constructor
  · rintro ⟨rest, left⟩
    induction lines generalizing state with
    | nil => exact ⟨state, .nil state⟩
    | cons line more ih =>
        rw [planOf] at left
        cases understood : readLine line with
        | error _ =>
            rw [understood] at left
            cases left
        | ok message =>
            rw [understood] at left
            dsimp only at left
            cases taken : state.take passthrough message with
            | error _ =>
                rw [taken] at left
                cases left
            | ok result =>
                obtain ⟨next, told, text⟩ := result
                rw [taken] at left
                obtain ⟨after, later⟩ := ih left
                exact ⟨after, .cons understood taken later⟩
  · rintro ⟨after, takes⟩
    exact ⟨after.rest, takes.outcome_eq⟩

/-- A line raises at most one event. -/
theorem length_events_take {passthrough : Bool} {state after : State} {message : Message}
    {told : List Event} {text : String}
    (taken : state.take passthrough message = .ok (after, told, text)) : told.length ≤ 1 := by
  have emitted : ∀ event, (state.emit event).2.length ≤ 1 := by
    intro event
    unfold State.emit
    split <;> simp
  cases message with
  | failure text =>
      cases taken
      exact emitted _
  | image id =>
      cases taken
      exact emitted _
  | update records =>
      obtain ⟨-, -, -, -, rfl⟩ := update_spec taken
      rw [State.announced]
      split <;> simp
  | output text =>
      cases taken
      exact Nat.zero_le _
  | nothing =>
      cases taken
      exact Nat.zero_le _

theorem length_events_turn : ∀ turn ∈ (planOf passthrough state lines).turns,
    turn.events.length ≤ 1 := by
  induction lines generalizing state with
  | nil => simp [planOf]
  | cons line rest ih =>
      simp only [planOf]
      cases readLine line with
      | error _ => simp
      | ok message =>
          dsimp only
          cases taken : state.take passthrough message with
          | error cause => simp
          | ok result => exact List.forall_mem_cons.mpr ⟨length_events_take taken, ih⟩

theorem conclude_isPrefix (conditions : Conditions) (trail : List Effect)
    (outcome : Except ResponseError String) :
    (conclude conditions trail outcome).1 <+: trail ++ closing conditions.ending outcome := by
  cases outcome with
  | error error => exact List.prefix_append _ _
  | ok rest =>
      simp only [conclude]
      cases conditions.ending with
      | stalled => exact List.prefix_append _ _
      | broken reason => exact List.prefix_append _ _
      | closed =>
          cases accepted : writeText conditions trail rest with
          | error error => exact List.prefix_append _ _
          | ok after => exact (writeText_eq_ok accepted).1 ▸ List.prefix_rfl

/-- Whatever the conditions are, playing a plan gives a part of it, from its beginning. -/
theorem play_isPrefix (conditions : Conditions) (outcome : Except ResponseError String)
    (trail : List Effect) (turns : List Turn) :
    (play conditions outcome trail turns).1 <+:
      trail ++ turns.flatMap Turn.effects ++ closing conditions.ending outcome := by
  induction turns generalizing trail with
  | nil =>
      rw [List.flatMap_nil, List.append_nil, play]
      split
      · exact List.prefix_append _ _
      · exact conclude_isPrefix conditions trail outcome
  | cons turn more ih =>
      simp only [List.flatMap_cons, play, Turn.effects]
      split
      · simp only [List.append_assoc]
        exact List.prefix_append _ _
      · cases accepted : writeText conditions (trail ++ turn.told) turn.text with
        | error error =>
            simp only [← List.append_assoc]
            simp only [List.append_assoc (trail ++ turn.told)]
            exact List.prefix_append _ _
        | ok after =>
            have early := ih after
            rw [(writeText_eq_ok accepted).1] at early
            simpa only [List.append_assoc, (writeText_eq_ok accepted).1] using early

/-- If nothing fails before the end and nothing is cancelled, all turns are played. -/
theorem play_to_end (ending : Ending) (outcome : Except ResponseError String)
    (trail : List Effect) (turns : List Turn) :
    play { ending } outcome trail turns =
      conclude { ending } (trail ++ turns.flatMap Turn.effects) outcome := by
  induction turns generalizing trail with
  | nil => simp only [play, Bool.false_eq_true, ↓reduceIte, List.flatMap_nil, List.append_nil]
  | cons turn more ih =>
      have accepted : writeText { ending } (trail ++ turn.told) turn.text =
          .ok (trail ++ turn.told ++ written turn.text) := writeText_free _ _
      simp only [play, Bool.false_eq_true, ↓reduceIte, accepted, ih, Turn.effects,
        List.flatMap_cons, List.append_assoc]

/-- Undisturbed, the whole plan is played. -/
theorem play_free (outcome : Except ResponseError String) (trail : List Effect)
    (turns : List Turn) :
    play {} outcome trail turns =
      (trail ++ turns.flatMap Turn.effects ++ closing .closed outcome,
        outcome.map fun _ => ()) := by
  rw [play_to_end]
  cases outcome with
  | error error => simp [conclude, closing, Except.map]
  | ok rest => simp [conclude, closing, writeText_free, flushed, Except.map]

end Plans

theorem closing_error (ending : Ending) (error : ResponseError) :
    closing ending (.error error) = [] := by
  cases ending <;> rfl

/-- All that a plan does if it is played to an end. -/
def Plan.effects (plan : Plan) (ending : Ending) : List Effect :=
  plan.turns.flatMap Turn.effects ++ closing ending plan.outcome

/-- The plan of a response. -/
def plan (ending : Ending) (passthrough : Bool) (input : Bytes) : Plan :=
  planOf passthrough {} (linesOf ending input)

theorem read_eq_play (conditions : Conditions) (passthrough : Bool) (input : Bytes) :
    let report := read conditions passthrough input
    let plan := plan conditions.ending passthrough input
    (report.trail, report.result) = play conditions plan.outcome [] plan.turns :=
  readLines_eq_play conditions passthrough {} [] [] (linesOf conditions.ending input)

/-- Undisturbed, a reading is the plan of the response. -/
theorem read_free (passthrough : Bool) (input : Bytes) :
    (read {} passthrough input).trail = (plan .closed passthrough input).effects .closed ∧
      (read {} passthrough input).result =
        (plan .closed passthrough input).outcome.map fun _ => () := by
  have played := read_eq_play {} passthrough input
  dsimp only at played
  rw [play_free, List.nil_append] at played
  exact Prod.mk.inj played

section Lines

variable {line : Bytes}

theorem cutLines_unbroken (unbroken : 10 ∉ line) : cutLines line = ([], line) := by
  induction line with
  | nil => rfl
  | cons byte rest ih =>
      obtain ⟨other, unbroken⟩ := not_or.mp (mt List.mem_cons.mpr unbroken)
      rw [cutLines, ih unbroken]
      exact if_neg (Ne.symm other)

theorem cutLines_append (unbroken : 10 ∉ line) (rest : Bytes) :
    cutLines (line ++ 10 :: rest) = (line :: (cutLines rest).1, (cutLines rest).2) := by
  induction line with
  | nil => rfl
  | cons byte more ih =>
      obtain ⟨other, unbroken⟩ := not_or.mp (mt List.mem_cons.mpr unbroken)
      rw [List.cons_append, cutLines, ih unbroken]
      exact if_neg (Ne.symm other)

/-- A line that ends in a newline is read before the rest. -/
theorem linesOf_append (ending : Ending) (unbroken : 10 ∉ line) (rest : Bytes) :
    linesOf ending (line ++ 10 :: rest) = dropReturn line :: linesOf ending rest := by
  rw [linesOf, cutLines_append unbroken]
  rfl

/-- A last line without newline counts unless it is empty. -/
theorem linesOf_unbroken (unbroken : 10 ∉ line) :
    linesOf .closed line = if line.isEmpty then [] else [dropReturn line] := by
  rw [linesOf, cutLines_unbroken unbroken]
  cases line <;> rfl

end Lines

section Unclosed

variable {ending : Ending} {passthrough : Bool} {input : Bytes}

/-- A response that is closed has all lines of one that is not. -/
theorem exists_linesOf_closed (unclosed : ending ≠ .closed) (input : Bytes) :
    ∃ more, linesOf .closed input = linesOf ending input ++ more := by
  unfold linesOf
  simp only [unclosed, decide_false, Bool.false_and, Bool.false_eq_true, ↓reduceIte,
    List.append_nil, List.map_append]
  exact ⟨_, rfl⟩

theorem plan_turns_isPrefix (unclosed : ending ≠ .closed) (passthrough : Bool) (input : Bytes) :
    (plan ending passthrough input).turns <+: (plan .closed passthrough input).turns := by
  obtain ⟨more, lines⟩ := exists_linesOf_closed unclosed input
  rw [plan, plan, lines]
  exact turns_append passthrough {} _ more

theorem plan_eq_of_error {error : ResponseError} (unclosed : ending ≠ .closed)
    (fails : (plan ending passthrough input).outcome = .error error) :
    plan .closed passthrough input = plan ending passthrough input := by
  obtain ⟨more, lines⟩ := exists_linesOf_closed unclosed input
  rw [plan, plan, lines]
  exact planOf_append_of_error fails more

end Unclosed

end ContainerTasks.Progress.Response
