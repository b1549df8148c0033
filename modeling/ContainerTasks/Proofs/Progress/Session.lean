import ContainerTasks.Proofs.Progress.Growth
import ContainerTasks.Proofs.Progress.Rendering

/-! # Sessions of a tracker and its transcript

A session takes in records and writes the transcript on, in any order. Its text is
always what can be shown of the steps at once: nothing that has been written is
contradicted later, since sealed steps keep what was shown of them and the step at the
cursor only gets more lines. Only the name of a step may come after its head has been
written, so heads are taken with the names they were written under (`headNames`).
-/

namespace ContainerTasks.Progress

namespace Transcript

/-- What is done in a session. -/
inductive Call
  | apply (record : Record)
  | render (closing : Bool)

/-- A tracker, how far its transcript has been written, and all texts written so far,
one after the other. -/
structure Session where
  tracker : Tracker := {}
  cursor : Cursor := {}
  text : String := ""

namespace Session

/-- What a call does. -/
def step (session : Session) : Call → Session
  | .apply record => { session with tracker := session.tracker.apply record }
  | .render closing =>
    let (text, cursor, tracker) := write closing session.cursor session.tracker
    { tracker, cursor, text := session.text ++ text }

/-- A session from the beginning. -/
def run (calls : List Call) : Session :=
  calls.foldl step {}

theorem run_concat (calls : List Call) (call : Call) :
    run (calls ++ [call]) = (run calls).step call :=
  List.foldl_concat ..

end Session

/-- The steps under the names their heads were written under; steps whose heads have not
been written keep their own. -/
def titled : List String → List Step → List Step
  | name :: names, step :: steps => { step with name } :: titled names steps
  | _, steps => steps

/-- The names of heads when those of the first `reach` steps have been written as well,
each under the name its step has now. -/
def extend (reach : Nat) (names : List String) (steps : List Step) : List String :=
  names ++ ((steps.take reach).drop names.length).map Step.name

/-- A session and the names its heads were written under. -/
structure Watched where
  session : Session := {}
  names : List String := []

namespace Watched

/-- At a rendering the heads of all steps up to the frontier are written, and those of
all steps when the response has ended. -/
def step (watched : Watched) (call : Call) : Watched where
  session := watched.session.step call
  names :=
    let steps := watched.session.tracker.steps
    match call with
    | .apply _ => watched.names
    | .render false => extend (frontier steps + 1) watched.names steps
    | .render true => extend steps.length watched.names steps

def run (calls : List Call) : Watched :=
  calls.foldl step {}

theorem run_session (calls : List Call) : (run calls).session = Session.run calls := by
  have general : ∀ watched : Watched,
      (calls.foldl step watched).session = calls.foldl Session.step watched.session := by
    induction calls with
    | nil => exact fun _ => rfl
    | cons call calls ih => exact fun watched => ih (watched.step call)
  exact general {}

end Watched

/-- The names that the heads of a session were written under. -/
def headNames (calls : List Call) : List String :=
  (Watched.run calls).names

section Sealing

/-- A step as if it were not sealed. -/
def unsealed (step : Step) : Step :=
  { step with isSealed := false }

theorem getElem?_sealStep (tracker : Tracker) (position other : Nat) :
    (tracker.sealStep (position + 1)).steps[other]? =
      tracker.steps[other]?.map fun step =>
        if position = other then { step with isSealed := true } else step := by
  simp only [Tracker.sealStep, Nat.add_sub_cancel, Nat.add_eq_zero_iff, Nat.one_ne_zero,
    and_false, ↓reduceIte, List.getElem?_modify]
  by_cases here : position = other <;> simp [here]

/-- Sealing a stretch of steps seals those and no others. -/
theorem getElem?_sealBetween (tracker : Tracker) (first last position : Nat) :
    (sealBetween tracker first last).steps[position]? =
      tracker.steps[position]?.map fun step =>
        if first ≤ position ∧ position < last then { step with isSealed := true } else step := by
  have general : ∀ count : Nat,
      ((List.range' first count).foldl (fun tracker position => tracker.sealStep (position + 1))
        tracker).steps[position]? =
      tracker.steps[position]?.map fun step =>
        if first ≤ position ∧ position < first + count then { step with isSealed := true }
        else step := by
    intro count
    induction count with
    | zero =>
        have none : ¬ (first ≤ position ∧ position < first + 0) := by omega
        simp only [none, ↓reduceIte, Option.map_id', List.range'_zero, List.foldl_nil]
    | succ count ih =>
        rw [List.range'_1_concat, List.foldl_append, List.foldl_cons, List.foldl_nil,
          getElem?_sealStep, ih, Option.map_map]
        congr 1
        funext step
        by_cases here : first + count = position
        · simp [← here]
        · have before : position < first + (count + 1) ↔ position < first + count := by omega
          simp only [Function.comp_apply, here, before, ↓reduceIte]
  rw [sealBetween, general]
  congr 1
  funext step
  congr 1
  exact propext (by omega)

theorem map_unsealed_sealBetween (tracker : Tracker) (first last : Nat) :
    (sealBetween tracker first last).steps.map unsealed = tracker.steps.map unsealed := by
  refine List.ext_getElem? fun position => ?_
  rw [List.getElem?_map, List.getElem?_map, getElem?_sealBetween, Option.map_map]
  congr 1
  funext step
  simp only [Function.comp_apply]
  split <;> rfl

end Sealing

/-- The frontier never moves back. -/
theorem frontier_grows {before after : Tracker} (grows : before.Grows after) :
    frontier before.steps ≤ frontier after.steps := by
  by_cases empty : before.steps = []
  · rw [empty]
    exact Nat.zero_le _
  · have inside := frontier_lt empty
    rw [le_frontier_iff (Nat.lt_of_lt_of_le inside grows.length_le)]
    intro earlier later before found
    obtain ⟨step, present, growth⟩ := grows.of_later (Nat.lt_trans before inside) found
    exact growth.finished ((le_frontier_iff inside).mp (Nat.le_refl _) earlier step before present)

section Titled

variable {names : List String} {steps : List Step}

@[simp]
theorem titled_nil (steps : List Step) : titled [] steps = steps := by
  cases steps <;> rfl

theorem getElem?_titled (names : List String) (steps : List Step) (position : Nat) :
    (titled names steps)[position]? =
      steps[position]?.map fun step => { step with name := names[position]?.getD step.name } := by
  induction names generalizing steps position with
  | nil =>
      rw [titled_nil]
      cases steps[position]? <;> rfl
  | cons name names ih =>
      cases steps with
      | nil => simp [titled]
      | cons step steps =>
          cases position with
          | zero => simp [titled]
          | succ position => simpa [titled] using ih steps position

theorem drop_titled (names : List String) (steps : List Step) (position : Nat) :
    (titled names steps).drop position = titled (names.drop position) (steps.drop position) := by
  refine List.ext_getElem? fun other => ?_
  rw [List.getElem?_drop, getElem?_titled, getElem?_titled, List.getElem?_drop, List.getElem?_drop]

theorem map_status_titled (names : List String) (steps : List Step) :
    (titled names steps).map Step.status = steps.map Step.status := by
  refine List.ext_getElem? fun position => ?_
  rw [List.getElem?_map, List.getElem?_map, getElem?_titled]
  cases steps[position]? <;> rfl

theorem frontier_titled : frontier (titled names steps) = frontier steps :=
  frontier_congr (map_status_titled names steps)

/-- The opening of the step at the frontier is complete behind all its lines. -/
theorem cursorText_titled {step : Step} (names : List String)
    (found : steps[frontier steps]? = some step) :
    cursorText { position := frontier steps, headWritten := true
                 linesWritten := step.lines.length } (titled names steps) =
      openText (titled names steps) := by
  have titledFound : (titled names steps)[frontier (titled names steps)]? =
      some { step with name := names[frontier steps]?.getD step.name } := by
    rw [frontier_titled, getElem?_titled, found, Option.map_some]
  have complete := cursorText_frontier titledFound
  rwa [frontier_titled] at complete

theorem getElem?_extend_of_lt {position : Nat} (reach : Nat) (steps : List Step)
    (old : position < names.length) : (extend reach names steps)[position]? = names[position]? := by
  rw [extend, List.getElem?_append_left old]

theorem getElem?_extend_of_le {position : Nat} (reach : Nat) (steps : List Step)
    (new : names.length ≤ position) :
    (extend reach names steps)[position]? =
      if position < reach then steps[position]?.map Step.name else none := by
  rw [extend, List.getElem?_append_right new, List.getElem?_map, List.getElem?_drop,
    Nat.add_sub_cancel' new, List.getElem?_take]
  split <;> rfl

/-- New heads are written under the names the steps have. -/
theorem titled_extend (reach : Nat) (names : List String) (steps : List Step) :
    titled (extend reach names steps) steps = titled names steps := by
  refine List.ext_getElem? fun position => ?_
  rw [getElem?_titled, getElem?_titled]
  cases found : steps[position]? with
  | none => rfl
  | some step =>
      rcases Nat.lt_or_ge position names.length with old | new
      · rw [getElem?_extend_of_lt reach steps old]
      · rw [getElem?_extend_of_le reach steps new, found, List.getElem?_eq_none new]
        split <;> rfl

theorem length_extend {reach : Nat} (more : names.length ≤ reach) (inside : reach ≤ steps.length) :
    (extend reach names steps).length = reach := by
  simp only [extend, List.length_append, List.length_map, List.length_drop, List.length_take]
  omega

/-- The names are those of the steps, except where a step had none. -/
def Named (names : List String) (steps : List Step) : Prop :=
  ∀ (position : Nat) name step, names[position]? = some name → steps[position]? = some step →
    name = step.name ∨ name = ""

theorem Named.extend (named : Named names steps) (reach : Nat) :
    Named (extend reach names steps) steps := by
  intro position name step head found
  rcases Nat.lt_or_ge position names.length with old | new
  · rw [getElem?_extend_of_lt reach steps old] at head
    exact named position name step head found
  · rw [getElem?_extend_of_le reach steps new, found] at head
    split at head
    · exact Or.inl (Option.some.inj head).symm
    · cases head

/-- A step that has a name keeps it. -/
theorem Named.grows {before after : Tracker} (named : Named names before.steps)
    (inside : names.length ≤ before.steps.length) (grows : before.Grows after) :
    Named names after.steps := by
  intro position name later head found
  have old : position < before.steps.length :=
    Nat.lt_of_lt_of_le (List.getElem?_eq_some_iff.mp head).1 inside
  obtain ⟨step, present, growth⟩ := grows.of_later old found
  rcases named position name step head present with same | empty
  · by_cases unnamed : step.name = ""
    · exact Or.inr (same.trans unnamed)
    · exact Or.inl (same.trans (growth.name unnamed).symm)
  · exact Or.inr empty

end Titled

section Unsealed

theorem titled_map_unsealed (names : List String) (steps : List Step) :
    titled names (steps.map unsealed) = (titled names steps).map unsealed := by
  refine List.ext_getElem? fun position => ?_
  rw [List.getElem?_map, getElem?_titled, getElem?_titled, List.getElem?_map]
  cases steps[position]? <;> rfl

theorem openText_map_unsealed (steps : List Step) :
    openText (steps.map unsealed) = openText steps := by
  have same : frontier (steps.map unsealed) = frontier steps :=
    frontier_congr (by rw [List.map_map]; rfl)
  rw [openText, openText, same, List.getElem?_map, ← List.map_take, List.map_map]
  cases steps[frontier steps]? <;> rfl

theorem closedText_map_unsealed (steps : List Step) :
    closedText (steps.map unsealed) = closedText steps := by
  rw [closedText, closedText, List.map_map]
  rfl

variable {first second : List Step}

/-- Sealing changes nothing about what can be shown. -/
theorem openText_eq_of_unsealed (names : List String)
    (same : first.map unsealed = second.map unsealed) :
    openText (titled names first) = openText (titled names second) := by
  rw [← openText_map_unsealed, ← titled_map_unsealed, same, titled_map_unsealed,
    openText_map_unsealed]

theorem closedText_eq_of_unsealed (names : List String)
    (same : first.map unsealed = second.map unsealed) :
    closedText (titled names first) = closedText (titled names second) := by
  rw [← closedText_map_unsealed, ← titled_map_unsealed, same, titled_map_unsealed,
    closedText_map_unsealed]

theorem getElem?_of_unsealed (same : first.map unsealed = second.map unsealed) {position : Nat}
    {step : Step} (found : second[position]? = some step) :
    ∃ other, first[position]? = some other ∧ unsealed other = unsealed step := by
  have there := congrArg (·[position]?) same
  simp only [List.getElem?_map, found, Option.map_some] at there
  exact Option.map_eq_some_iff.mp there

theorem length_eq_of_unsealed (same : first.map unsealed = second.map unsealed) :
    first.length = second.length := by
  simpa using congrArg List.length same

theorem Named.of_unsealed {names : List String} (named : Named names first)
    (same : first.map unsealed = second.map unsealed) : Named names second := by
  intro position name step head found
  obtain ⟨other, present, alike⟩ := getElem?_of_unsealed same found
  have sameName := congrArg Step.name alike
  change other.name = step.name at sameName
  rw [← sameName]
  exact named position name other head present

theorem frontier_eq_of_unsealed (same : first.map unsealed = second.map unsealed) :
    frontier first = frontier second := by
  have statuses := congrArg (List.map Step.status) same
  rw [List.map_map, List.map_map] at statuses
  exact frontier_congr statuses

end Unsealed

end Transcript

end ContainerTasks.Progress
