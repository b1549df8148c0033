import Mathlib.Data.List.Induction
import Mathlib.Data.List.Sort
import ContainerTasks.Proofs.Progress.ActiveSteps

/-! # The books of a tracker

Beside its steps a tracker keeps where the step of each vertex stands, the name each
vertex was declared with, and the numbers of the active steps. Records of every kind
change some of these, and sealing comes in between. The books agree with the steps
throughout (`Booked`), so the running steps are the steps whose status is active, in their
order. They are reported unless the sizes of the downloads of one of them leave 64 bits.
-/

namespace ContainerTasks.Progress

theorem Status.isFinished_eq_false_iff {status : Status} :
    status.isFinished = false ↔ status = .active := by
  cases status <;> simp [isFinished]

namespace Tracker

/-- What is done to a tracker. -/
inductive Change
  | apply (record : Record)
  | sealStep (index : Nat)

/-- The tracker after a change. -/
def change (tracker : Tracker) : Change → Tracker
  | .apply record => tracker.apply record
  | .sealStep index => tracker.sealStep index

/-- A new tracker after changes. -/
def run (changes : List Change) : Tracker :=
  changes.foldl change {}

@[simp]
theorem declared_modifyStep (tracker : Tracker) (vertex : String) (change : Step → Step) :
    (tracker.modifyStep vertex change).declared = tracker.declared := by
  unfold modifyStep
  split <;> rfl

@[simp]
theorem positions_modifyStep (tracker : Tracker) (vertex : String) (change : Step → Step) :
    (tracker.modifyStep vertex change).positions = tracker.positions := by
  unfold modifyStep
  split <;> rfl

/-- A name that is not empty reaches the step of a vertex and the declaration of the vertex. -/
theorem declare_named (tracker : Tracker) (vertex : String) {name : String}
    (named : name.isEmpty = false) :
    tracker.declare vertex name =
      { tracker.modifyStep vertex (·.rename name) with
        declared :=
          if (tracker.declared.getD vertex "").isEmpty then tracker.declared.insert vertex name
          else tracker.declared } := by
  simp only [declare, named, Bool.false_eq_true, ↓reduceIte, declared_modifyStep]
  split
  · rfl
  · rw [← tracker.declared_modifyStep vertex (·.rename name)]

/-- The books agree with the steps: the positions lead from the vertex of each step to its
place and nowhere else, and each step goes by the name its vertex was declared with. -/
structure Booked (tracker : Tracker) : Prop where
  valid : tracker.Valid
  placed : ∀ (vertex : String) (position : Nat), tracker.positions[vertex]? = some position ↔
    ∃ step, tracker.steps[position]? = some step ∧ step.vertex = vertex
  named : ∀ step ∈ tracker.steps, tracker.declared[step.vertex]? = some step.name

namespace Valid

variable {tracker : Tracker}

theorem step?_index (valid : tracker.Valid) {step : Step} (member : step ∈ tracker.steps) :
    tracker.step? step.index = some step := by
  obtain ⟨position, found⟩ := List.mem_iff_getElem?.mp member
  rw [valid.numbered position step found, step?_succ, found]

theorem pairwise_index (valid : tracker.Valid) :
    (tracker.steps.map Step.index).Pairwise (· < ·) := by
  have counted : tracker.steps.map Step.index = List.range' 1 tracker.steps.length := by
    refine List.ext_getElem (by simp) fun position inside _ => ?_
    rw [List.length_map] at inside
    rw [List.getElem_map, List.getElem_range',
      valid.numbered position _ (List.getElem?_eq_getElem inside)]
    omega
  rw [counted]
  exact List.pairwise_lt_range'

theorem mem_active_iff (valid : tracker.Valid) {number : Nat} : number ∈ tracker.active ↔
    ∃ step ∈ tracker.steps, step.index = number ∧ step.status = .active := by
  rw [valid.active_iff]
  constructor
  · rintro ⟨step, found, status⟩
    cases number with
    | zero => cases found
    | succ position =>
        exact ⟨step, List.mem_of_getElem? found, valid.index_eq found,
          Status.isFinished_eq_false_iff.mp status⟩
  · rintro ⟨step, member, rfl, status⟩
    exact ⟨step, valid.step?_index member, Status.isFinished_eq_false_iff.mpr status⟩

/-- The running steps are the steps whose status is active, in their order. -/
theorem running_eq (valid : tracker.Valid) :
    tracker.running = tracker.steps.filter fun step => step.status = .active := by
  have listed : tracker.active.toList =
      (tracker.steps.filter fun step => step.status = .active).map Step.index := by
    refine List.Pairwise.eq_of_mem_iff (r := (· < ·)) ?_ ?_ ?_
    · rw [← valid.map_index_running]
      exact valid.pairwise_running
    · exact valid.pairwise_index.sublist (List.filter_sublist.map _)
    · intro number
      rw [Std.ExtTreeSet.mem_toList, valid.mem_active_iff]
      simp [and_comm, and_assoc]
  rw [running, listed, List.filterMap_map]
  refine Eq.trans ?_ List.filterMap_some
  refine List.filterMap_congr fun step member => ?_
  rw [Function.comp_apply, valid.step?_index (List.mem_of_mem_filter member)]

end Valid

namespace Booked

theorem start : Booked {} where
  valid := .start
  placed := by simp
  named := by simp

variable {tracker after : Tracker} {vertex : String}

/-- No two steps have the same vertex. -/
theorem position_unique (booked : tracker.Booked) {first second : Nat} {step other : Step}
    (found : tracker.steps[first]? = some step) (present : tracker.steps[second]? = some other)
    (same : step.vertex = other.vertex) : first = second := by
  have here := (booked.placed step.vertex first).mpr ⟨step, found, rfl⟩
  have there := (booked.placed step.vertex second).mpr ⟨other, present, same.symm⟩
  exact Option.some.inj (here.symm.trans there)

theorem nodup_vertices (booked : tracker.Booked) : (tracker.steps.map Step.vertex).Nodup := by
  refine List.nodup_iff_injective_getElem.mpr fun first second same => ?_
  simp only [List.getElem_map] at same
  have unique := booked.position_unique (List.getElem?_eq_getElem (by simpa using first.isLt))
    (List.getElem?_eq_getElem (by simpa using second.isLt)) same
  exact Fin.ext unique

/-- Changing the step of a vertex changes the steps that have this vertex and no others. -/
theorem steps_modifyStep (booked : tracker.Booked) (change : Step → Step) :
    (tracker.modifyStep vertex change).steps =
      tracker.steps.map fun step => if step.vertex = vertex then change step else step := by
  refine List.ext_getElem? fun other => ?_
  rw [List.getElem?_map]
  cases placed : tracker.positions[vertex]? with
  | none =>
      simp only [Tracker.modifyStep, placed]
      cases found : tracker.steps[other]? with
      | none => rfl
      | some step =>
          have elsewhere : step.vertex ≠ vertex := by
            intro same
            rw [(booked.placed vertex other).mpr ⟨step, found, same⟩] at placed
            cases placed
          simp only [Option.map_some, elsewhere, ↓reduceIte]
  | some position =>
      simp only [Tracker.modifyStep, placed, List.getElem?_modify, Option.map_eq_map]
      refine Option.map_congr fun step found => ?_
      have here : position = other ↔ step.vertex = vertex := by
        constructor
        · rintro rfl
          obtain ⟨owner, present, same⟩ := (booked.placed vertex position).mp placed
          rw [found] at present
          rw [Option.some.inj present, same]
        · intro same
          have there := (booked.placed vertex other).mpr ⟨step, found, same⟩
          exact Option.some.inj (placed.symm.trans there)
      simp only [here]

/-- The books stay right when each step keeps its place and its vertex and goes by the name
its vertex is declared with. -/
theorem of_steps (booked : tracker.Booked) (valid : after.Valid) (change : Nat → Step → Step)
    (steps : ∀ position, after.steps[position]? = tracker.steps[position]?.map (change position))
    (positions : after.positions = tracker.positions)
    (keeps : ∀ position step, (change position step).vertex = step.vertex)
    (named : ∀ position step, tracker.steps[position]? = some step →
      after.declared[step.vertex]? = some (change position step).name) : after.Booked where
  valid := valid
  placed := by
    intro vertex position
    rw [positions, booked.placed, steps]
    constructor
    · rintro ⟨step, found, same⟩
      exact ⟨change position step, by rw [found, Option.map_some], (keeps position step).trans same⟩
    · rintro ⟨later, found, same⟩
      obtain ⟨step, present, rfl⟩ := Option.map_eq_some_iff.mp found
      exact ⟨step, present, (keeps position step).symm.trans same⟩
  named := by
    intro later member
    obtain ⟨position, found⟩ := List.mem_iff_getElem?.mp member
    rw [steps] at found
    obtain ⟨step, present, rfl⟩ := Option.map_eq_some_iff.mp found
    rw [keeps]
    exact named position step present

/-- Changing a step keeps the books right if the step keeps its vertex and its name. -/
theorem of_modify (booked : tracker.Booked) (valid : after.Valid) {position : Nat}
    {change : Step → Step} (steps : after.steps = tracker.steps.modify position change)
    (positions : after.positions = tracker.positions) (declared : after.declared = tracker.declared)
    (keeps : ∀ step, (change step).vertex = step.vertex ∧ (change step).name = step.name) :
    after.Booked := by
  refine booked.of_steps valid
    (fun other step => if position = other then change step else step) ?_ positions ?_ ?_
  · intro other
    rw [steps, List.getElem?_modify, Option.map_eq_map]
  · intro other step
    split
    · exact (keeps step).1
    · rfl
  · intro other step found
    rw [declared, booked.named step (List.mem_of_getElem? found)]
    split
    · rw [(keeps step).2]
    · rfl

theorem modifyStep (booked : tracker.Booked) {change : Step → Step}
    (valid : (tracker.modifyStep vertex change).Valid)
    (keeps : ∀ step, (change step).vertex = step.vertex ∧ (change step).name = step.name) :
    (tracker.modifyStep vertex change).Booked := by
  unfold Tracker.modifyStep at valid ⊢
  split at valid
  · exact booked
  · exact booked.of_modify valid rfl rfl rfl keeps

theorem modifyOpen (booked : tracker.Booked) {change : Step → Step}
    (valid : (tracker.modifyOpen vertex change).Valid)
    (keeps : ∀ step, (change step).vertex = step.vertex ∧ (change step).name = step.name) :
    (tracker.modifyOpen vertex change).Booked := by
  refine booked.modifyStep valid fun step => ?_
  split
  · exact ⟨rfl, rfl⟩
  · exact keeps step

theorem sealStep (booked : tracker.Booked) (index : Nat) : (tracker.sealStep index).Booked := by
  have valid := booked.valid.sealStep index
  unfold Tracker.sealStep at valid ⊢
  split
  · exact booked
  · rename_i present
    rw [if_neg present] at valid
    exact booked.of_modify valid rfl rfl rfl fun _ => ⟨rfl, rfl⟩

/-- A new step is entered under the name its vertex was declared with. -/
theorem enter (booked : tracker.Booked) (vertex : String) : (tracker.enter vertex).Booked := by
  have valid := booked.valid.enter vertex
  unfold Tracker.enter at valid ⊢
  split
  · exact booked
  · rename_i fresh
    split
    · exact booked
    · rename_i name declared
      have unplaced : tracker.positions[vertex]? = none :=
        Std.ExtTreeMap.getElem?_eq_none fun member =>
          fresh (Std.ExtTreeMap.contains_iff_mem.mpr member)
      simp only [fresh, Bool.false_eq_true, ↓reduceIte, declared] at valid
      refine ⟨valid, ?_, ?_⟩
      · intro other position
        simp only [Std.ExtTreeMap.getElem?_insert, Std.compare_eq_iff_eq,
          Valid.getElem?_concat_eq_some]
        by_cases same : vertex = other
        · subst same
          simp only [↓reduceIte, Option.some.injEq]
          constructor
          · rintro rfl
            exact ⟨_, Or.inr ⟨rfl, rfl⟩, rfl⟩
          · rintro ⟨step, old | ⟨rfl, -⟩, owner⟩
            · rw [(booked.placed _ _).mpr ⟨step, old, owner⟩] at unplaced
              cases unplaced
            · rfl
        · simp only [same, ↓reduceIte, booked.placed]
          constructor
          · rintro ⟨step, found, owner⟩
            exact ⟨step, Or.inl found, owner⟩
          · rintro ⟨step, old | ⟨-, rfl⟩, owner⟩
            · exact ⟨step, old, owner⟩
            · exact (same owner).elim
      · intro step member
        rcases List.mem_append.mp member with old | new
        · exact booked.named step old
        · obtain rfl := List.mem_singleton.mp new
          exact declared

theorem complete (booked : tracker.Booked) (vertex : String) (cached : Bool)
    (error : Option String) : (tracker.complete vertex cached error).Booked := by
  have valid := booked.valid.complete vertex cached error
  unfold Tracker.complete at valid ⊢
  cases present : tracker.stepOf? vertex with
  | none => exact booked
  | some step =>
      obtain ⟨position, placed, -⟩ := Option.bind_eq_some_iff.mp present
      simp only [present, Tracker.modifyStep, placed] at valid ⊢
      split at valid
      · rename_i isSealed
        simp only [isSealed, ↓reduceIte]
        exact booked
      · rename_i unsealed
        simp only [unsealed]
        exact booked.of_modify valid rfl rfl rfl fun _ => ⟨rfl, rfl⟩

/-- A vertex and its step get a name together. -/
theorem declare (booked : tracker.Booked) (vertex name : String) :
    (tracker.declare vertex name).Booked := by
  have valid := booked.valid.declare vertex name
  cases empty : name.isEmpty with
  | true =>
      simp only [Tracker.declare, empty, ↓reduceIte] at valid ⊢
      refine booked.of_steps valid (fun _ step => step) (by simp) rfl (fun _ _ => rfl) ?_
      intro position step found
      have known := booked.named step (List.mem_of_getElem? found)
      have present : step.vertex ∈ tracker.declared := by
        rw [Std.ExtTreeMap.mem_iff_isSome_getElem?, known, Option.isSome_some]
      rw [Std.ExtTreeMap.getElem?_insertIfNew, known]
      split
      · rename_i fresh
        rw [Std.compare_eq_iff_eq] at fresh
        exact (fresh.2 (fresh.1 ▸ present)).elim
      · rfl
  | false =>
      rw [declare_named tracker vertex empty] at valid ⊢
      refine booked.of_steps valid
        (fun _ step => if step.vertex = vertex then step.rename name else step)
        ?_ (positions_modifyStep ..) ?_ ?_
      · intro position
        rw [booked.steps_modifyStep, List.getElem?_map]
      · intro _ step
        split
        · unfold Step.rename
          split <;> rfl
        · rfl
      · intro position step found
        have known := booked.named step (List.mem_of_getElem? found)
        by_cases here : step.vertex = vertex
        · subst here
          -- The step has a name exactly if the vertex has been declared with one.
          have declared : tracker.declared.getD step.vertex "" = step.name := by
            rw [Std.ExtTreeMap.getD_eq_getD_getElem?, known, Option.getD_some]
          cases unnamed : step.name.isEmpty <;> simp [Step.rename, declared, unnamed, known]
        · simp only [here, ↓reduceIte]
          split
          · rw [Std.ExtTreeMap.getElem?_insert, known]
            simp [Ne.symm here]
          · exact known

theorem apply (booked : tracker.Booked) (record : Record) : (tracker.apply record).Booked := by
  have valid := booked.valid.apply record
  cases record with
  | declared vertex name => exact booked.declare vertex name
  | started vertex time =>
      exact (booked.enter vertex).modifyStep valid fun _ => ⟨rfl, rfl⟩
  | completed vertex cached error => exact (booked.enter vertex).complete vertex cached error
  | operated vertex text current total _ isCompleted =>
      refine (booked.enter vertex).modifyOpen valid fun step => ?_
      obtain ⟨lines, finished, downloads, result⟩ :=
        step.operate_eq text current total isCompleted
      rw [result]
      exact ⟨rfl, rfl⟩
  | printed vertex time data =>
      refine (booked.enter vertex).modifyOpen valid fun step => ?_
      obtain ⟨lines, result⟩ := step.print_eq time data
      rw [result]
      exact ⟨rfl, rfl⟩

theorem change (booked : tracker.Booked) (change : Change) : (tracker.change change).Booked := by
  cases change with
  | apply record => exact booked.apply record
  | sealStep index => exact booked.sealStep index

end Booked

theorem booked_run (changes : List Change) : (run changes).Booked := by
  induction changes using List.reverseRecOn with
  | nil => exact .start
  | append_singleton changes change ih =>
      rw [run, List.foldl_append]
      exact ih.change change

theorem change_grows (tracker : Tracker) (change : Change) :
    tracker.Grows (tracker.change change) := by
  cases change with
  | apply record => exact tracker.apply_grows record
  | sealStep index => exact tracker.sealStep_grows index

/-- What the books of a tracker say about its steps. -/
structure Consistent (tracker : Tracker) : Prop where
  numbered : ∀ position step, tracker.steps[position]? = some step → step.index = position + 1
  placed : ∀ (vertex : String) (position : Nat), tracker.positions[vertex]? = some position ↔
    ∃ step, tracker.steps[position]? = some step ∧ step.vertex = vertex
  distinct : (tracker.steps.map Step.vertex).Nodup
  named : ∀ step ∈ tracker.steps, tracker.declared[step.vertex]? = some step.name
  active : ∀ number, number ∈ tracker.active ↔
    ∃ step ∈ tracker.steps, step.index = number ∧ step.status = .active
  listed : tracker.running = tracker.steps.filter fun step => step.status = .active
  ascending : (tracker.running.map Step.index).Pairwise (· < ·)
  shown : tracker.activeSteps =
    if ∀ step ∈ tracker.running, step.loaded.Fits then .ok (tracker.running.map Step.asActive)
    else .error .overflow

theorem Booked.consistent {tracker : Tracker} (booked : tracker.Booked) : tracker.Consistent where
  numbered := booked.valid.numbered
  placed := booked.placed
  distinct := booked.nodup_vertices
  named := booked.named
  active := fun _ => booked.valid.mem_active_iff
  listed := booked.valid.running_eq
  ascending := booked.valid.pairwise_running
  shown := tracker.activeSteps_eq

/-- **The books of a tracker.** Whatever has been done to a new tracker, its steps are
numbered by their places and have different vertices, the positions are those of their
vertices, each goes by the name its vertex was declared with, and the active numbers are
those of the active steps. These are reported in their order if the sizes of the downloads of
each fit 64 bits, and otherwise the program breaks down. Whatever is done next, each step stays
in its place with its vertex and its number, and a finished one stays finished. -/
theorem run_consistent (changes : List Change) :
    (run changes).Consistent ∧
      ∀ next : Change, (run changes).Grows ((run changes).change next) :=
  ⟨(booked_run changes).consistent, change_grows (run changes)⟩

/-- Records of three layers of the greatest size. -/
def vast : List Record :=
  [.declared "a" "pull", .operated "a" "first" 5 9223372036854775807 true false,
    .operated "a" "second" 5 9223372036854775807 true false,
    .operated "a" "third" 5 9223372036854775807 true false]

/-- The active steps need not be reported. -/
theorem activeSteps_unreported :
    ¬ ∀ changes : List Change, ∃ shown, (run changes).activeSteps = .ok shown ∧
      shown.map ActiveStep.index =
        ((run changes).steps.filter fun step => step.status = .active).map Step.index := by
  intro reports
  obtain ⟨shown, found, -⟩ := reports (vast.map .apply)
  have breaks : (run (vast.map .apply)).activeSteps = .error .overflow := by decide +kernel
  cases breaks.symm.trans found

end Tracker

end ContainerTasks.Progress
