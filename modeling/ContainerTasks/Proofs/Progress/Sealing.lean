import ContainerTasks.Proofs.Progress.Intake

/-! # What is left to a sealed step

A step is sealed when it has been shown to its end, in whatever state it is then: without a
name, without a start, or while it is still active. Records that come later leave its status,
its lines, its operations and its downloads as they are. They still fill in two things if these
are missing: the name, and the time of the start (`run_sealed`).
-/

namespace ContainerTasks.Progress

/-- The start that a record reports of a vertex. -/
def Record.startFor? (vertex : String) : Record → Option Instant
  | .started other time => if other = vertex then some time else none
  | .declared .. | .completed .. | .operated .. | .printed .. => none

theorem Record.startFor?_eq_some_iff {vertex : String} {time : Instant} {record : Record} :
    record.startFor? vertex = some time ↔ record = .started vertex time := by
  cases record with
  | started other given =>
      rw [startFor?, Option.ite_none_right_eq_some, Option.some.injEq, started.injEq]
  | declared | completed | operated | printed => simp [startFor?]

namespace Step

/-- A step with the name and the start that a record has for it, where it has none itself. -/
def fillIn (step : Step) (record : Record) : Step :=
  { step with
    name := if step.name = "" then (record.nameFor? step.vertex).getD "" else step.name
    startedAt := step.startedAt.or (record.startFor? step.vertex) }

/-- A record names a step that has no name. -/
def GainsName (step : Step) (record : Record) : Prop :=
  step.name = "" ∧ ∃ name, name ≠ "" ∧ record = .declared step.vertex name

/-- A record reports the start of a step that has none. -/
def GainsStart (step : Step) (record : Record) : Prop :=
  step.startedAt = none ∧ ∃ time, record = .started step.vertex time

variable {step : Step} {record : Record}

theorem filledName_eq_iff :
    (if step.name = "" then (record.nameFor? step.vertex).getD "" else step.name) = step.name ↔
      ¬ step.GainsName record := by
  unfold GainsName
  by_cases unnamed : step.name = ""
  · rw [if_pos unnamed, unnamed]
    cases given : record.nameFor? step.vertex with
    | none =>
        refine iff_of_true rfl ?_
        rintro ⟨-, name, -, rfl⟩
        exact Option.some_ne_none name ((Record.nameFor?_eq_some_iff.mpr rfl).symm.trans given)
    | some name =>
        obtain rfl := Record.nameFor?_eq_some_iff.mp given
        simp
  · rw [if_neg unnamed]
    exact iff_of_true rfl fun gains => unnamed gains.1

theorem filledStart_eq_iff :
    step.startedAt.or (record.startFor? step.vertex) = step.startedAt ↔
      ¬ step.GainsStart record := by
  unfold GainsStart
  simp only [← Record.startFor?_eq_some_iff, ← Option.isSome_iff_exists]
  cases step.startedAt with
  | none => simp
  | some time => simp

/-- A record leaves a step as it is unless it fills in the name or the start. -/
theorem fillIn_eq_self_iff :
    step.fillIn record = step ↔ ¬ step.GainsName record ∧ ¬ step.GainsStart record := by
  rw [← filledName_eq_iff, ← filledStart_eq_iff]
  constructor
  · intro same
    exact ⟨congrArg Step.name same, congrArg Step.startedAt same⟩
  · rintro ⟨name, start⟩
    unfold fillIn
    rw [name, start]

/-- Records do nothing else to a sealed step. -/
theorem undergo_of_isSealed (isSealed : step.isSealed = true) (record : Record) :
    step.undergo (.apply record) = step.fillIn record := by
  rw [undergo]
  by_cases about : step.vertex = record.vertex
  · rw [if_pos about]
    cases record with
    | declared vertex name =>
        have given : (Record.declared vertex name).nameFor? step.vertex = some name :=
          if_pos about.symm
        dsimp only [take, rename, fillIn, Record.startFor?]
        rw [given, Option.getD_some, Option.or_none]
        by_cases unnamed : step.name = ""
        · rw [if_pos unnamed, if_pos (String.isEmpty_iff.mpr unnamed)]
        · rw [if_neg unnamed, if_neg (mt String.isEmpty_iff.mp unnamed)]
    | started vertex time =>
        have given : (Record.started vertex time).startFor? step.vertex = some time :=
          if_pos about.symm
        dsimp only [take, start, fillIn, Record.nameFor?]
        rw [given, Option.getD_none]
        by_cases unnamed : step.name = ""
        · rw [if_pos unnamed, unnamed]
        · rw [if_neg unnamed]
    | completed | operated | printed =>
        refine Eq.trans (if_pos isSealed) (fillIn_eq_self_iff.mpr ⟨?_, ?_⟩).symm
        · rintro ⟨-, name, -, same⟩
          cases same
        · rintro ⟨-, time, same⟩
          cases same
  · rw [if_neg about]
    refine (fillIn_eq_self_iff.mpr ⟨?_, ?_⟩).symm
    · rintro ⟨-, name, -, rfl⟩
      exact about rfl
    · rintro ⟨-, time, rfl⟩
      exact about rfl

end Step

namespace Tracker

/-- **Sealed steps.** Whatever has been done to a tracker, a record leaves a sealed step in its
place and changes nothing of it but a missing name, to the one that the record declares its
vertex with, and a missing start, to the one that the record reports of its vertex. So the
step stays as it is unless the record is one of these two. -/
theorem run_sealed (changes : List Change) (record : Record) :
    ∀ (position : Nat) (step : Step), (run changes).steps[position]? = some step →
      step.isSealed = true →
        ((run changes).apply record).steps[position]? = some { step with
            name := if step.name = "" then (record.nameFor? step.vertex).getD "" else step.name
            startedAt := step.startedAt.or (record.startFor? step.vertex) } ∧
          (((run changes).apply record).steps[position]? = some step ↔
            ¬ (step.name = "" ∧ ∃ name, name ≠ "" ∧ record = .declared step.vertex name) ∧
              ¬ (step.startedAt = none ∧ ∃ time, record = .started step.vertex time)) := by
  intro position step found isSealed
  have filled : ((run changes).apply record).steps[position]? = some (step.fillIn record) := by
    rw [← Step.undergo_of_isSealed isSealed]
    exact (booked_run changes).getElem?_change found (.apply record)
  refine ⟨filled, ?_⟩
  rw [filled, Option.some.injEq]
  exact Step.fillIn_eq_self_iff

/-- A step that is sealed without a name and without a start. -/
def sealedBare : List Change :=
  [.apply (.declared "a" ""), .apply (.completed "a" false none), .sealStep 1]

theorem run_sealedBare : (run sealedBare).steps.map (fun step =>
    (step.vertex, step.name, step.startedAt, step.isSealed)) = [("a", "", none, true)] := by
  decide +kernel

theorem exists_sealedBare : ∃ step, (run sealedBare).steps[0]? = some step ∧ step.vertex = "a" ∧
    step.name = "" ∧ step.startedAt = none ∧ step.isSealed = true := by
  have found := congrArg (·[0]?) run_sealedBare
  simp only [List.getElem?_map, List.getElem?_cons_zero, Option.map_eq_some_iff,
    Prod.mk.injEq] at found
  exact found

theorem run_sealed_bare :
    ∃ step, (run sealedBare).steps[0]? = some step ∧ step.isSealed = true ∧
      ((run sealedBare).apply (.completed "a" true (some "late"))).steps[0]? = some step ∧
      ((run sealedBare).apply (.started "a" ⟨5, 0⟩)).steps[0]? =
        some { step with startedAt := some ⟨5, 0⟩ } := by
  obtain ⟨step, found, vertex, name, start, isSealed⟩ := exists_sealedBare
  obtain ⟨-, stays⟩ :=
    run_sealed sealedBare (.completed "a" true (some "late")) 0 step found isSealed
  obtain ⟨fills, -⟩ := run_sealed sealedBare (.started "a" ⟨5, 0⟩) 0 step found isSealed
  refine ⟨step, found, isSealed, stays.mpr ⟨?_, ?_⟩, ?_⟩
  · rintro ⟨-, name, -, same⟩
    cases same
  · rintro ⟨-, time, same⟩
    cases same
  · have unnamed : (if step.name = "" then ((Record.started "a" ⟨5, 0⟩).nameFor? step.vertex).getD ""
        else step.name) = step.name := by
      rw [if_pos name, name]
      rfl
    have begun : step.startedAt.or ((Record.started "a" ⟨5, 0⟩).startFor? step.vertex) =
        some ⟨5, 0⟩ := by
      rw [start, vertex]
      rfl
    rw [fills, unnamed, begun]

/-- A sealed step can still change. -/
theorem sealed_step_renamed :
    ¬ ∀ (changes : List Change) (record : Record) (position : Nat) (step : Step),
      (run changes).steps[position]? = some step → step.isSealed = true →
        ((run changes).apply record).steps[position]? = some step := by
  intro frozen
  obtain ⟨step, found, -, name, -, isSealed⟩ := exists_sealedBare
  have stays := frozen sealedBare (.declared "a" "late") 0 step found isSealed
  have renamed : ((run sealedBare).apply (.declared "a" "late")).steps.map Step.name = ["late"] := by
    decide +kernel
  have named := congrArg (·[0]?) renamed
  simp only [List.getElem?_map, stays, List.getElem?_cons_zero, Option.map_some, name,
    Option.some.injEq] at named
  exact absurd named (by decide)

end Tracker

end ContainerTasks.Progress
