import Mathlib.Data.List.Basic
import Mathlib.Order.Compare
import ContainerTasks.Progress.Transcript
import ContainerTasks.Proofs.Progress.Growth
import ContainerTasks.Proofs.Progress.Sizes

/-! # The active steps of a tracker

Every step has the number of its place, and the tracker holds exactly the numbers of
the steps that have not finished as active (`Tracker.Valid`). Records keep this, and so
does writing the transcript. The active steps are therefore listed by ascending number,
each of them once, and a step that has finished is never listed again. Unless the program
breaks down over their sizes they are all shown, in the same order.
-/

namespace ContainerTasks.Progress

namespace Tracker

/-- Steps are numbered by their places, and the active numbers are those of the steps
that have not finished. -/
structure Valid (tracker : Tracker) : Prop where
  numbered : ∀ (position : Nat) (step : Step), tracker.steps[position]? = some step →
    step.index = position + 1
  active_iff : ∀ number, number ∈ tracker.active ↔
    ∃ step, tracker.step? number = some step ∧ step.status.isFinished = false

/-- The step with a number has finished. -/
def HasFinished (tracker : Tracker) (number : Nat) : Prop :=
  ∃ step, tracker.step? number = some step ∧ step.status.isFinished = true

@[simp]
theorem step?_zero (tracker : Tracker) : tracker.step? 0 = none := rfl

@[simp]
theorem step?_succ (tracker : Tracker) (position : Nat) :
    tracker.step? (position + 1) = tracker.steps[position]? := rfl

variable {tracker after : Tracker} {number : Nat}

theorem Grows.step? (grows : tracker.Grows after) {step : Step}
    (found : tracker.step? number = some step) :
    ∃ later, after.step? number = some later ∧ step.Grows later := by
  cases number with
  | zero => cases found
  | succ position => exact grows position step found

theorem Grows.isSome_step? (grows : tracker.Grows after)
    (present : (tracker.step? number).isSome) : (after.step? number).isSome := by
  obtain ⟨step, found⟩ := Option.isSome_iff_exists.mp present
  obtain ⟨later, foundLater, -⟩ := grows.step? found
  exact Option.isSome_iff_exists.mpr ⟨later, foundLater⟩

/-- A step that has finished never becomes active again. -/
theorem HasFinished.grows (finished : tracker.HasFinished number)
    (grows : tracker.Grows after) : after.HasFinished number := by
  obtain ⟨step, found, status⟩ := finished
  obtain ⟨later, present, growth⟩ := grows.step? found
  exact ⟨later, present, growth.finished status⟩

variable {active : List ActiveStep}

namespace Valid

theorem start : Valid {} where
  numbered := by simp
  active_iff := by
    intro number
    cases number <;> simp

theorem index_eq (valid : tracker.Valid) {step : Step} (found : tracker.step? number = some step) :
    step.index = number := by
  cases number with
  | zero => cases found
  | succ position => exact valid.numbered position step found

theorem not_active (valid : tracker.Valid) (finished : tracker.HasFinished number) :
    number ∉ tracker.active := by
  intro active
  obtain ⟨step, found, status⟩ := (valid.active_iff number).mp active
  obtain ⟨other, present, finished⟩ := finished
  rw [found] at present
  obtain rfl := Option.some.inj present
  rw [status] at finished
  cases finished

theorem isSome_of_active (valid : tracker.Valid) (active : number ∈ tracker.active) :
    (tracker.step? number).isSome := by
  obtain ⟨step, found, -⟩ := (valid.active_iff number).mp active
  exact Option.isSome_iff_exists.mpr ⟨step, found⟩

/-- A step is active or has finished. -/
theorem hasFinished (valid : tracker.Valid) (present : (tracker.step? number).isSome)
    (inactive : number ∉ tracker.active) : tracker.HasFinished number := by
  obtain ⟨step, found⟩ := Option.isSome_iff_exists.mp present
  refine ⟨step, found, ?_⟩
  cases status : step.status.isFinished with
  | true => rfl
  | false => exact (inactive ((valid.active_iff number).mpr ⟨step, found, status⟩)).elim

theorem numbered_modify (valid : tracker.Valid) {change : Step → Step}
    (index : ∀ step, (change step).index = step.index) {position other : Nat} {later : Step}
    (found : (tracker.steps.modify position change)[other]? = some later) :
    later.index = other + 1 := by
  rw [List.getElem?_modify, Option.map_eq_map] at found
  obtain ⟨step, old, rfl⟩ := Option.map_eq_some_iff.mp found
  have numbered := valid.numbered other step old
  split
  · rw [index, numbered]
  · exact numbered

/-- Changing a step keeps a tracker valid if the step still stands as it did. -/
theorem of_modify (valid : tracker.Valid) {position : Nat} {change : Step → Step}
    (changed : after.steps = tracker.steps.modify position change)
    (active : after.active = tracker.active)
    (keeps : ∀ step, (change step).index = step.index ∧ (change step).status = step.status) :
    after.Valid := by
  refine ⟨?_, ?_⟩
  · intro other later found
    rw [changed] at found
    exact valid.numbered_modify (fun step => (keeps step).1) found
  · intro number
    rw [active, valid.active_iff]
    cases number with
    | zero => simp
    | succ other =>
        rw [step?_succ, step?_succ, changed, List.getElem?_modify, Option.map_eq_map]
        cases tracker.steps[other]? with
        | none => simp
        | some step => by_cases here : position = other <;> simp [here, (keeps step).2]

theorem modifyStep (valid : tracker.Valid) (vertex : String) {change : Step → Step}
    (keeps : ∀ step, (change step).index = step.index ∧ (change step).status = step.status) :
    (tracker.modifyStep vertex change).Valid := by
  unfold Tracker.modifyStep
  split
  · exact valid
  · exact valid.of_modify rfl rfl keeps

theorem modifyOpen (valid : tracker.Valid) (vertex : String) {change : Step → Step}
    (keeps : ∀ step, (change step).index = step.index ∧ (change step).status = step.status) :
    (tracker.modifyOpen vertex change).Valid := by
  refine valid.modifyStep vertex fun step => ?_
  split
  · exact ⟨rfl, rfl⟩
  · exact keeps step

theorem sealStep (valid : tracker.Valid) (index : Nat) : (tracker.sealStep index).Valid := by
  unfold Tracker.sealStep
  split
  · exact valid
  · exact valid.of_modify rfl rfl fun _ => ⟨rfl, rfl⟩

theorem getElem?_concat_eq_some {steps : List Step} {new step : Step} {position : Nat} :
    (steps ++ [new])[position]? = some step ↔
      steps[position]? = some step ∨ position = steps.length ∧ new = step := by
  rcases Nat.lt_trichotomy position steps.length with old | rfl | beyond
  · rw [List.getElem?_append_left old, or_iff_left]
    exact fun ⟨same, _⟩ => Nat.ne_of_lt old same
  · simp
  · have none : steps[position]? = none := List.getElem?_eq_none (Nat.le_of_lt beyond)
    have outside : (steps ++ [new])[position]? = Option.none := by
      refine List.getElem?_eq_none ?_
      rw [List.length_append]
      exact beyond
    rw [none, outside]
    simp [Nat.ne_of_gt beyond]

/-- A new step takes the next number and is active. -/
theorem enter (valid : tracker.Valid) (vertex : String) : (tracker.enter vertex).Valid := by
  unfold Tracker.enter
  split
  · exact valid
  · split
    · exact valid
    · refine ⟨?_, ?_⟩
      · intro position step found
        rcases getElem?_concat_eq_some.mp found with old | ⟨rfl, rfl⟩
        · exact valid.numbered position step old
        · rfl
      · intro number
        rw [Std.ExtTreeSet.mem_insert, Nat.compare_eq_eq, valid.active_iff]
        cases number with
        | zero => simp
        | succ position =>
            simp only [step?_succ, getElem?_concat_eq_some]
            constructor
            · rintro (same | ⟨step, found, status⟩)
              · exact ⟨_, Or.inr ⟨(Nat.succ.inj same).symm, rfl⟩, rfl⟩
              · exact ⟨step, Or.inl found, status⟩
            · rintro ⟨step, old | ⟨rfl, -⟩, status⟩
              · exact Or.inr ⟨step, old, status⟩
              · exact Or.inl rfl

/-- A step that is complete is no longer active. -/
theorem complete (valid : tracker.Valid) (vertex : String) (cached : Bool)
    (error : Option String) : (tracker.complete vertex cached error).Valid := by
  unfold Tracker.complete
  cases present : tracker.stepOf? vertex with
  | none => exact valid
  | some step =>
      obtain ⟨position, placed, found⟩ := Option.bind_eq_some_iff.mp present
      have index := valid.numbered position step found
      simp only [Tracker.modifyStep, placed]
      split
      · exact valid
      · refine ⟨?_, ?_⟩
        · intro other later found
          have kept (step : Step) : (step.complete cached error).index = step.index := rfl
          exact valid.numbered_modify kept found
        · intro number
          rw [Std.ExtTreeSet.mem_erase, valid.active_iff, index, ne_eq, Nat.compare_eq_eq]
          cases number with
          | zero => simp
          | succ other =>
              rw [step?_succ, step?_succ, List.getElem?_modify, Option.map_eq_map]
              -- The number is taken out for the one step whose status changes.
              by_cases here : position = other
              · subst here
                simp [found, Step.complete]
              · simp [here]

theorem declare (valid : tracker.Valid) (vertex name : String) :
    (tracker.declare vertex name).Valid := by
  unfold Tracker.declare
  split
  · exact ⟨valid.numbered, valid.active_iff⟩
  · have renamed : (tracker.modifyStep vertex (·.rename name)).Valid := by
      refine valid.modifyStep vertex fun step => ?_
      unfold Step.rename
      split <;> exact ⟨rfl, rfl⟩
    dsimp only
    split
    · exact ⟨renamed.numbered, renamed.active_iff⟩
    · exact renamed

/-- **Active steps.** Whatever a record says, the active numbers stay those of the steps
that have not finished. -/
theorem apply (valid : tracker.Valid) (record : Record) : (tracker.apply record).Valid := by
  cases record with
  | declared vertex name => exact valid.declare vertex name
  | started vertex time => exact (valid.enter vertex).modifyStep vertex fun _ => ⟨rfl, rfl⟩
  | completed vertex cached error => exact (valid.enter vertex).complete vertex cached error
  | operated vertex text current total _ isCompleted =>
      refine (valid.enter vertex).modifyOpen vertex fun step => ?_
      obtain ⟨lines, finished, downloads, result⟩ :=
        step.operate_eq text current total isCompleted
      rw [result]
      exact ⟨rfl, rfl⟩
  | printed vertex time data =>
      refine (valid.enter vertex).modifyOpen vertex fun step => ?_
      obtain ⟨lines, result⟩ := step.print_eq time data
      rw [result]
      exact ⟨rfl, rfl⟩

theorem applyAll (valid : tracker.Valid) (records : List Record) :
    (tracker.applyAll records).Valid := by
  induction records generalizing tracker with
  | nil => exact valid
  | cons record rest ih => exact ih (valid.apply record)

/-- The running steps are listed by their numbers. -/
theorem map_index_running (valid : tracker.Valid) :
    tracker.running.map Step.index = tracker.active.toList := by
  unfold running
  rw [List.map_filterMap]
  calc tracker.active.toList.filterMap (fun index => (tracker.step? index).map Step.index)
      = tracker.active.toList.filterMap some := by
        refine List.filterMap_congr fun number member => ?_
        obtain ⟨step, found, -⟩ :=
          (valid.active_iff number).mp (Std.ExtTreeSet.mem_toList.mp member)
        rw [found]
        exact congrArg some (valid.index_eq found)
    _ = tracker.active.toList := List.filterMap_some

theorem pairwise_running (valid : tracker.Valid) :
    (tracker.running.map Step.index).Pairwise (· < ·) := by
  rw [valid.map_index_running]
  exact Std.ExtTreeSet.ordered_toList.imp fun ordered => Nat.compare_eq_lt.mp ordered

/-- The active steps are listed by their numbers. -/
theorem map_index_activeSteps (valid : tracker.Valid)
    (shows : tracker.activeSteps = .ok active) :
    active.map ActiveStep.index = tracker.active.toList := by
  rw [← valid.map_index_running, ← (activeSteps_eq_ok_iff.mp shows).2, List.map_map]
  rfl

theorem mem_activeSteps (valid : tracker.Valid) (shows : tracker.activeSteps = .ok active) :
    number ∈ active.map ActiveStep.index ↔ number ∈ tracker.active := by
  rw [valid.map_index_activeSteps shows, Std.ExtTreeSet.mem_toList]

theorem pos_of_active (valid : tracker.Valid) (active : number ∈ tracker.active) : 0 < number := by
  cases number with
  | zero => cases valid.isSome_of_active active
  | succ position => exact Nat.succ_pos position

theorem pairwise_activeSteps (valid : tracker.Valid) (shows : tracker.activeSteps = .ok active) :
    (active.map ActiveStep.index).Pairwise (· < ·) := by
  rw [valid.map_index_activeSteps shows, ← valid.map_index_running]
  exact valid.pairwise_running

end Valid

end Tracker

namespace Transcript

variable {tracker : Tracker}

theorem sealBetween_grows (tracker : Tracker) (first last : Nat) :
    tracker.Grows (sealBetween tracker first last) := by
  unfold sealBetween
  induction List.range' first (last - first) generalizing tracker with
  | nil => exact .refl tracker
  | cons position rest ih => exact (tracker.sealStep_grows _).trans (ih _)

theorem sealBetween_valid (valid : tracker.Valid) (first last : Nat) :
    (sealBetween tracker first last).Valid := by
  unfold sealBetween
  induction List.range' first (last - first) generalizing tracker with
  | nil => exact valid
  | cons position rest ih => exact ih (valid.sealStep _)

end Transcript

end ContainerTasks.Progress
