import Mathlib.Data.List.TakeWhile
import ContainerTasks.Proofs.Progress.Session
import ContainerTasks.Proofs.Progress.StepOrder

/-! # What a step takes in

A step begins with the first record that shows its vertex at work after the vertex was
declared. It takes in this record and those of its kind that follow until it is sealed
(`Tracker.intake`). A change of the tracker does the same to every step, the one that it lets
begin included (`Booked.steps_change`), so what a step keeps of its intake is found by an
induction over these records alone (`Kept.run`).
-/

namespace ContainerTasks.Progress

namespace Step

/-- What a record about its vertex does to a step. -/
def take (step : Step) : Record → Step
  | .declared _ name => step.rename name
  | .started _ time => step.start time
  | .completed _ cached error => if step.isSealed then step else step.complete cached error
  | .operated _ text current total _ isCompleted =>
    if step.isSealed then step else step.operate text current total isCompleted
  | .printed _ time data => if step.isSealed then step else step.print time data

/-- A report about an operation changes three fields. -/
theorem operate_fields (step : Step) (text : String) (current total : Int64) (isCompleted : Bool) :
    step.operate text current total isCompleted =
      { step with
        lines := step.lines ++
          if isCompleted && !step.finished.contains text then [text ++ ": done"] else []
        finished :=
          if isCompleted && !step.finished.contains text then step.finished.insert text
          else step.finished
        downloads :=
          if 0 < total then step.downloads.insert text ⟨clamp current, clamp total⟩
          else step.downloads } := by
  unfold operate
  by_cases sized : 0 < total <;> by_cases first : isCompleted && !step.finished.contains text <;>
    simp only [sized, first, ↓reduceIte, Bool.false_eq_true, List.append_nil]

theorem take_keeps (step : Step) (record : Record) :
    (step.take record).vertex = step.vertex ∧ (step.take record).index = step.index ∧
      (step.take record).isSealed = step.isSealed := by
  cases record with
  | declared vertex name =>
      dsimp only [take, rename]
      split <;> exact ⟨rfl, rfl, rfl⟩
  | started vertex time => exact ⟨rfl, rfl, rfl⟩
  | completed vertex cached error =>
      dsimp only [take, complete]
      split <;> exact ⟨rfl, rfl, rfl⟩
  | operated vertex text current total isStarted isCompleted =>
      obtain ⟨lines, finished, downloads, result⟩ :=
        step.operate_eq text current total isCompleted
      dsimp only [take]
      rw [result]
      split <;> exact ⟨rfl, rfl, rfl⟩
  | printed vertex time data =>
      obtain ⟨lines, result⟩ := step.print_eq time data
      dsimp only [take]
      rw [result]
      split <;> exact ⟨rfl, rfl, rfl⟩

end Step

namespace Tracker

namespace Change

/-- The record of a change, if it is about a vertex. -/
def about? (vertex : String) : Change → Option Record
  | .apply record => if record.vertex = vertex then some record else none
  | .sealStep _ => none

/-- The record of a change, if it shows a vertex at work. -/
def work? (vertex : String) (change : Change) : Option Record :=
  (change.about? vertex).filter Record.isActivity

/-- Whether a change declares a vertex. -/
def declares (vertex : String) (change : Change) : Bool :=
  (change.about? vertex).any fun record => !record.isActivity

/-- Whether a change seals the step with a number. -/
def seals (index : Nat) : Change → Bool
  | .apply _ => false
  | .sealStep number => number == index

theorem work?_eq_some_iff {vertex : String} {change : Change} {record : Record} :
    change.work? vertex = some record ↔
      change = .apply record ∧ record.vertex = vertex ∧ record.isActivity = true := by
  cases change with
  | sealStep index => simp [work?, about?]
  | apply other =>
      rw [work?, about?, Option.filter_eq_some_iff, Option.ite_none_right_eq_some,
        Option.some.injEq, Change.apply.injEq]
      constructor
      · rintro ⟨⟨same, rfl⟩, activity⟩
        exact ⟨rfl, same, activity⟩
      · rintro ⟨rfl, same, activity⟩
        exact ⟨⟨same, rfl⟩, activity⟩

theorem work?_eq_none_iff {vertex : String} {record : Record} :
    (Change.apply record).work? vertex = none ↔
      (record.vertex = vertex → record.isActivity = false) := by
  rw [Option.eq_none_iff_forall_ne_some]
  simp only [ne_eq, work?_eq_some_iff, not_and, Bool.not_eq_true, Change.apply.injEq]
  exact ⟨fun silent same => silent record rfl same, fun idle other same => same ▸ idle⟩

theorem work?_eq_none_of_declares {vertex : String} {change : Change}
    (declares : change.declares vertex = true) : change.work? vertex = none := by
  unfold Change.declares at declares
  unfold work?
  cases told : change.about? vertex with
  | none => rfl
  | some record =>
      rw [told] at declares
      have idle : record.isActivity = false := by simpa using declares
      rw [Option.filter_some, idle]
      rfl

end Change

end Tracker

namespace Step

/-- What a change of the tracker does to a step. -/
def undergo (step : Step) : Tracker.Change → Step
  | .apply record => if step.vertex = record.vertex then step.take record else step
  | .sealStep index => if step.index = index then { step with isSealed := true } else step

@[simp]
theorem vertex_undergo (step : Step) (change : Tracker.Change) :
    (step.undergo change).vertex = step.vertex := by
  cases change with
  | apply record =>
      dsimp only [undergo]
      split
      · exact (step.take_keeps record).1
      · rfl
  | sealStep index =>
      dsimp only [undergo]
      split <;> rfl

@[simp]
theorem index_undergo (step : Step) (change : Tracker.Change) :
    (step.undergo change).index = step.index := by
  cases change with
  | apply record =>
      dsimp only [undergo]
      split
      · exact (step.take_keeps record).2.1
      · rfl
  | sealStep index =>
      dsimp only [undergo]
      split <;> rfl

theorem isSealed_undergo (step : Step) (change : Tracker.Change) :
    (step.undergo change).isSealed = (step.isSealed || change.seals step.index) := by
  cases change with
  | apply record =>
      dsimp only [undergo, Tracker.Change.seals]
      rw [Bool.or_false]
      split
      · exact (step.take_keeps record).2.2
      · rfl
  | sealStep index =>
      dsimp only [undergo, Tracker.Change.seals]
      by_cases here : step.index = index
      · rw [if_pos here, here, beq_self_eq_true, Bool.or_true]
      · rw [if_neg here, beq_false_of_ne (Ne.symm here), Bool.or_false]

end Step

namespace Tracker

/-- The items from the first one on that satisfies a condition. -/
def onward {α : Type} (condition : α → Bool) (items : List α) : List α :=
  items.dropWhile fun item => !condition item

theorem onward_eq_nil_iff {α : Type} {condition : α → Bool} {items : List α} :
    onward condition items = [] ↔ items.any condition = false := by
  rw [onward, List.dropWhile_eq_nil_iff, List.any_eq_false]
  simp only [Bool.not_eq_eq_eq_not, Bool.not_true, Bool.not_eq_true]

theorem onward_concat {α : Type} (condition : α → Bool) (items : List α) (item : α) :
    onward condition (items ++ [item]) =
      if onward condition items = [] then if condition item then [item] else []
      else onward condition items ++ [item] := by
  unfold onward
  rw [List.dropWhile_append]
  by_cases none : (items.dropWhile fun item => !condition item) = []
  · rw [if_pos none, if_pos (List.isEmpty_iff.mpr none)]
    by_cases satisfied : condition item
    · rw [if_pos satisfied, List.dropWhile_cons_of_neg (by simp [satisfied])]
    · rw [if_neg satisfied, List.dropWhile_cons_of_pos (by simp [satisfied]), List.dropWhile_nil]
  · rw [if_neg none, if_neg (mt List.isEmpty_iff.mp none)]

/-- The changes from the first one on that shows a vertex at work after it was declared. -/
def since (vertex : String) (changes : List Change) : List Change :=
  onward (fun change => (change.work? vertex).isSome) (onward (·.declares vertex) changes)

/-- The records that a step takes in: those that show its vertex at work, from the first one
after the vertex was declared until the step is sealed. -/
def intake (vertex : String) (index : Nat) (changes : List Change) : List Record :=
  ((since vertex changes).takeWhile fun change => !change.seals index).filterMap
    (Change.work? vertex)

/-- Work on a vertex begins with the first change that shows it at work when it is declared, and
goes on with every later change. -/
theorem since_concat (vertex : String) (changes : List Change) (change : Change) :
    since vertex (changes ++ [change]) =
      if since vertex changes = [] then
        if changes.any (·.declares vertex) = true ∧ (change.work? vertex).isSome = true then
          [change]
        else []
      else since vertex changes ++ [change] := by
  unfold since
  rw [onward_concat]
  by_cases undeclared : onward (·.declares vertex) changes = []
  · have unknown := onward_eq_nil_iff.mp undeclared
    have nothing : onward (fun change => (change.work? vertex).isSome)
        (if change.declares vertex then [change] else []) = [] := by
      refine onward_eq_nil_iff.mpr ?_
      by_cases declares : change.declares vertex
      · simp [declares, change.work?_eq_none_of_declares declares]
      · simp [declares]
    rw [if_pos undeclared, nothing, undeclared, unknown]
    simp [onward]
  · have known : changes.any (·.declares vertex) = true := by
      simpa using mt onward_eq_nil_iff.mpr undeclared
    rw [if_neg undeclared, onward_concat, known]
    simp only [true_and]

/-- The step that a change lets begin, before it takes in the record. -/
def newcomer? (tracker : Tracker) : Change → Option Step
  | .apply record =>
    if record.isActivity = true ∧ record.vertex ∉ tracker.steps.map Step.vertex then
      tracker.declared[record.vertex]?.map fun name =>
        { vertex := record.vertex, index := tracker.steps.length + 1, name }
    else none
  | .sealStep _ => none

variable {tracker : Tracker} {vertex : String}

namespace Booked

variable (booked : tracker.Booked)

include booked

theorem steps_enter {record : Record} (activity : record.isActivity = true) :
    (tracker.enter record.vertex).steps =
      tracker.steps ++ (tracker.newcomer? (.apply record)).toList := by
  dsimp only [Tracker.enter, newcomer?]
  by_cases placed : tracker.positions.contains record.vertex
  · have known := booked.mem_vertices_iff.mpr placed
    rw [if_pos placed, if_neg fun fresh => fresh.2 known, Option.toList_none, List.append_nil]
  · rw [if_neg placed, if_pos ⟨activity, mt booked.mem_vertices_iff.mp placed⟩]
    cases declared : tracker.declared[record.vertex]? with
    | none => rw [Option.map_none, Option.toList_none, List.append_nil]
    | some name => rw [Option.map_some, Option.toList_some]

theorem stepOf?_of_mem {step : Step} (member : step ∈ tracker.steps) :
    tracker.stepOf? step.vertex = some step := by
  obtain ⟨position, found⟩ := List.mem_iff_getElem?.mp member
  exact booked.stepOf?_of_getElem? found

theorem steps_declare (name : String) :
    (tracker.declare vertex name).steps =
      tracker.steps.map fun step => if step.vertex = vertex then step.rename name else step := by
  cases empty : name.isEmpty with
  | true =>
      obtain rfl := String.isEmpty_iff.mp empty
      have unchanged : ∀ step ∈ tracker.steps,
          (if step.vertex = vertex then step.rename "" else step) = step := by
        intro step _
        rw [step.rename_empty, ite_self]
      rw [List.map_congr_left unchanged, List.map_id', Tracker.declare, if_pos empty]
  | false =>
      rw [declare_named tracker vertex empty]
      exact booked.steps_modifyStep _

theorem steps_complete (cached : Bool) (error : Option String) :
    (tracker.complete vertex cached error).steps =
      tracker.steps.map fun step =>
        if step.vertex = vertex then
          if step.isSealed then step else step.complete cached error
        else step := by
  rw [Tracker.complete]
  cases found : tracker.stepOf? vertex with
  | none =>
      have elsewhere : ∀ step ∈ tracker.steps, ¬ step.vertex = vertex := by
        rintro step member rfl
        rw [booked.stepOf?_of_mem member] at found
        cases found
      rw [List.map_congr_left fun step member => if_neg (elsewhere step member), List.map_id']
  | some step =>
      -- The step of the vertex is the only one that the seal is looked at of.
      have unique : ∀ other ∈ tracker.steps,
          (if other.vertex = vertex then
            if other.isSealed then other else other.complete cached error
          else other) =
            if other.vertex = vertex then
              if step.isSealed then other else other.complete cached error
            else other := by
        intro other member
        by_cases same : other.vertex = vertex
        · subst same
          rw [Option.some.inj ((booked.stepOf?_of_mem member).symm.trans found)]
        · rw [if_neg same, if_neg same]
      rw [List.map_congr_left unique]
      dsimp only
      by_cases isSealed : step.isSealed
      · simp only [if_pos isSealed, ite_self, List.map_id']
      · simp only [if_neg isSealed]
        exact booked.steps_modifyStep _

theorem steps_sealStep (index : Nat) :
    (tracker.sealStep index).steps = tracker.steps.map (·.undergo (.sealStep index)) := by
  refine List.ext_getElem? fun position => ?_
  have number := booked.valid.numbered position
  cases index with
  | zero =>
      have unchanged : ∀ step, tracker.steps[position]? = some step →
          step.undergo (.sealStep 0) = step := by
        intro step found
        refine if_neg ?_
        rw [number step found]
        exact Nat.succ_ne_zero position
      rw [List.getElem?_map, Option.map_congr unchanged, Option.map_id']
      rfl
  | succ place =>
      rw [Transcript.getElem?_sealStep, List.getElem?_map]
      refine Option.map_congr fun step found => ?_
      dsimp only [Step.undergo]
      rw [number step found]
      simp only [Nat.add_right_cancel_iff, eq_comm]

/-- **Steps.** A change does to every step what it does to one, and lets one step begin at most. -/
theorem steps_change (change : Change) :
    (tracker.change change).steps =
      (tracker.steps ++ (tracker.newcomer? change).toList).map (·.undergo change) := by
  cases change with
  | sealStep index =>
      rw [newcomer?, Option.toList_none, List.append_nil]
      exact booked.steps_sealStep index
  | apply record =>
      cases activity : record.isActivity with
      | false =>
          cases record with
          | declared vertex name =>
              have none : tracker.newcomer? (.apply (.declared vertex name)) = Option.none := by
                dsimp only [newcomer?]
                exact if_neg fun shows => Bool.false_ne_true shows.1
              rw [none, Option.toList_none, List.append_nil]
              exact booked.steps_declare name
          | started | completed | operated | printed => cases activity
      | true =>
          rw [← booked.steps_enter activity]
          have entered := booked.enter record.vertex
          cases record with
          | declared => cases activity
          | completed vertex cached error => exact entered.steps_complete cached error
          | started | operated | printed => exact entered.steps_modifyStep _

/-- A step that is there keeps its place. -/
theorem getElem?_change {position : Nat} {step : Step}
    (found : tracker.steps[position]? = some step) (change : Change) :
    (tracker.change change).steps[position]? = some (step.undergo change) := by
  rw [booked.steps_change, List.getElem?_map,
    List.getElem?_append_left (List.getElem?_eq_some_iff.mp found).1, found, Option.map_some]

/-- Each step is one that was there before, or one that has just begun. -/
theorem mem_change {change : Change} {later : Step} :
    later ∈ (tracker.change change).steps ↔
      ∃ step, (step ∈ tracker.steps ∨ tracker.newcomer? change = some step) ∧
        step.undergo change = later := by
  rw [booked.steps_change, List.mem_map]
  simp only [List.mem_append, Option.mem_toList]

end Booked

theorem newcomer?_eq_some_iff {change : Change} {new : Step} :
    tracker.newcomer? change = some new ↔
      ∃ record name, change = .apply record ∧ record.isActivity = true ∧
        record.vertex ∉ tracker.steps.map Step.vertex ∧
        tracker.declared[record.vertex]? = some name ∧
        { vertex := record.vertex, index := tracker.steps.length + 1, name } = new := by
  cases change with
  | sealStep index => simp [newcomer?]
  | apply record =>
      rw [newcomer?, Option.ite_none_right_eq_some, Option.map_eq_some_iff]
      constructor
      · rintro ⟨⟨activity, fresh⟩, name, declared, begun⟩
        exact ⟨record, name, rfl, activity, fresh, declared, begun⟩
      · rintro ⟨other, name, same, activity, fresh, declared, begun⟩
        cases same
        exact ⟨⟨activity, fresh⟩, name, declared, begun⟩

/-- A declared vertex becomes a step when it is first shown at work. -/
theorem exists_newcomer_iff {change : Change} :
    (∃ new, tracker.newcomer? change = some new ∧ new.vertex = vertex) ↔
      (change.work? vertex).isSome = true ∧ vertex ∉ tracker.steps.map Step.vertex ∧
        (tracker.declared[vertex]?).isSome = true := by
  simp only [newcomer?_eq_some_iff, Option.isSome_iff_exists, Change.work?_eq_some_iff]
  constructor
  · rintro ⟨new, ⟨record, name, same, activity, fresh, declared, rfl⟩, rfl⟩
    exact ⟨⟨record, same, rfl, activity⟩, fresh, name, declared⟩
  · rintro ⟨⟨record, same, rfl, activity⟩, fresh, name, declared⟩
    exact ⟨_, ⟨record, name, same, activity, fresh, declared, rfl⟩, rfl⟩

theorem run_append (changes more : List Change) :
    run (changes ++ more) = more.foldl Tracker.change (run changes) :=
  List.foldl_append

theorem run_concat (changes : List Change) (change : Change) :
    run (changes ++ [change]) = (run changes).change change :=
  List.foldl_concat ..

@[simp]
theorem declared_sealStep (tracker : Tracker) (index : Nat) :
    (tracker.sealStep index).declared = tracker.declared := by
  unfold sealStep
  split <;> rfl

/-- A step stays in the tracker, as the next change leaves it. -/
theorem undergo_mem_run {changes : List Change} {step : Step} (member : step ∈ (run changes).steps)
    (next : Change) : step.undergo next ∈ (run (changes ++ [next])).steps := by
  rw [run_concat, (booked_run changes).mem_change]
  exact ⟨step, Or.inl member, rfl⟩

theorem isSome_declared_take (account : Account) (record : Record) :
    (account.take record).declared.isSome = (account.declared.isSome || !record.isActivity) := by
  cases record with
  | declared => exact (Bool.or_true _).symm
  | started | completed | operated | printed => exact (Bool.or_false _).symm

/-- Vertices are declared by declarations and by nothing else. -/
theorem isSome_declared_change (booked : tracker.Booked) (change : Change) (vertex : String) :
    ((tracker.change change).declared[vertex]?).isSome =
      ((tracker.declared[vertex]?).isSome || change.declares vertex) := by
  cases change with
  | sealStep index =>
      rw [Tracker.change, declared_sealStep]
      exact (Bool.or_false _).symm
  | apply record =>
      have told := congrArg Account.declared (booked.account_apply record vertex)
      by_cases about : record.vertex = vertex
      · have declares : (Change.apply record).declares vertex = !record.isActivity := by
          rw [Change.declares, Change.about?, if_pos about, Option.any_some]
        rw [if_pos about] at told
        rw [declares]
        exact (congrArg Option.isSome told).trans (isSome_declared_take _ record)
      · have silent : (Change.apply record).declares vertex = false := by
          rw [Change.declares, Change.about?, if_neg about, Option.any_none]
        rw [if_neg about] at told
        rw [silent, Bool.or_false]
        exact congrArg Option.isSome told

theorem isSome_declared_run (changes : List Change) (vertex : String) :
    ((run changes).declared[vertex]?).isSome = changes.any (·.declares vertex) := by
  induction changes using List.reverseRecOn with
  | nil => rfl
  | append_singleton changes change ih =>
      rw [run_concat, isSome_declared_change (booked_run changes), List.any_append, ih,
        List.any_cons, List.any_nil, Bool.or_false]

/-- The vertices that work has begun on are those of the steps. -/
theorem mem_vertices_run (changes : List Change) (vertex : String) :
    vertex ∈ (run changes).steps.map Step.vertex ↔ since vertex changes ≠ [] := by
  induction changes using List.reverseRecOn with
  | nil => exact ⟨fun member => absurd member List.not_mem_nil, fun begun => (begun rfl).elim⟩
  | append_singleton changes change ih =>
      have later : vertex ∈ ((run changes).change change).steps.map Step.vertex ↔
          vertex ∈ (run changes).steps.map Step.vertex ∨
            ∃ new, (run changes).newcomer? change = some new ∧ new.vertex = vertex := by
        rw [(booked_run changes).steps_change, List.map_map]
        simp only [List.map_append, List.mem_append, List.mem_map, Option.mem_toList,
          Function.comp_apply, Step.vertex_undergo]
      rw [run_concat, later, exists_newcomer_iff, isSome_declared_run, since_concat]
      by_cases begun : since vertex changes = []
      · have fresh : vertex ∉ (run changes).steps.map Step.vertex := mt ih.mp (not_not.mpr begun)
        simp [begun, fresh, and_comm]
      · have known : vertex ∈ (run changes).steps.map Step.vertex := ih.mpr begun
        simp [begun, known]

theorem since_ne_nil {changes : List Change} {step : Step} (member : step ∈ (run changes).steps) :
    since step.vertex changes ≠ [] :=
  (mem_vertices_run changes step.vertex).mp (List.mem_map_of_mem member)

/-- A step is sealed once a change has sealed it since it began. -/
theorem isSealed_run {changes : List Change} :
    ∀ step ∈ (run changes).steps,
      step.isSealed = (since step.vertex changes).any (·.seals step.index) := by
  induction changes using List.reverseRecOn with
  | nil => exact fun step member => absurd member List.not_mem_nil
  | append_singleton changes change ih =>
      intro later member
      rw [run_concat, (booked_run changes).mem_change] at member
      obtain ⟨step, old | new, rfl⟩ := member
      · rw [Step.isSealed_undergo, Step.vertex_undergo, Step.index_undergo, since_concat,
          if_neg (since_ne_nil old), List.any_append, ih step old, List.any_cons, List.any_nil,
          Bool.or_false]
      · obtain ⟨record, name, rfl, activity, fresh, declared, rfl⟩ := newcomer?_eq_some_iff.mp new
        have unbegun : since record.vertex changes = [] :=
          not_not.mp (mt (mem_vertices_run changes record.vertex).mpr fresh)
        rw [Step.isSealed_undergo, Step.vertex_undergo, since_concat, if_pos unbegun]
        split <;> rfl

/-- A step takes in the records that show its vertex at work as long as it is not sealed. -/
theorem intake_concat {changes : List Change} {step : Step} (member : step ∈ (run changes).steps)
    (change : Change) :
    intake step.vertex step.index (changes ++ [change]) =
      intake step.vertex step.index changes ++
        if step.isSealed then [] else (change.work? step.vertex).toList := by
  have whole_iff : (since step.vertex changes).takeWhile (fun change => !change.seals step.index) =
      since step.vertex changes ↔ step.isSealed = false := by
    rw [List.takeWhile_eq_self_iff, isSealed_run step member, List.any_eq_false]
    simp only [Bool.not_eq_true', Bool.not_eq_true]
  rw [intake, intake, since_concat, if_neg (since_ne_nil member), List.takeWhile_append]
  cases ended : step.isSealed with
  | true =>
      have cut : ((since step.vertex changes).takeWhile fun change =>
          !change.seals step.index).length ≠ (since step.vertex changes).length := by
        intro same
        have whole := (List.takeWhile_prefix _).eq_of_length same
        rw [whole_iff, ended] at whole
        cases whole
      rw [if_neg cut, if_pos rfl, List.append_nil]
  | false =>
      rw [whole_iff.mpr ended, if_pos rfl, if_neg Bool.false_ne_true, List.filterMap_append]
      congr 1
      cases change with
      | apply record =>
          rw [List.takeWhile_cons_of_pos rfl, List.takeWhile_nil]
          cases shown : Change.work? step.vertex (.apply record) with
          | none => rw [List.filterMap_cons_none shown, List.filterMap_nil, Option.toList_none]
          | some record =>
              rw [List.filterMap_cons_some shown, List.filterMap_nil, Option.toList_some]
      | sealStep index =>
          -- Whether or not it is the seal of this step, it shows no vertex at work.
          rw [show Change.work? step.vertex (.sealStep index) = none from rfl, Option.toList_none]
          refine List.filterMap_eq_nil_iff.mpr fun other among => ?_
          obtain rfl := List.mem_singleton.mp (List.takeWhile_subset _ among)
          rfl

/-- The first record that a step takes in lets it begin. -/
theorem intake_newcomer {changes : List Change} {record : Record}
    (fresh : record.vertex ∉ (run changes).steps.map Step.vertex)
    (declared : ((run changes).declared[record.vertex]?).isSome = true)
    (activity : record.isActivity = true) (index : Nat) :
    intake record.vertex index (changes ++ [.apply record]) = [record] := by
  have unbegun : since record.vertex changes = [] :=
    not_not.mp (mt (mem_vertices_run changes record.vertex).mpr fresh)
  have shown : Change.work? record.vertex (.apply record) = some record :=
    Change.work?_eq_some_iff.mpr ⟨rfl, rfl, activity⟩
  rw [isSome_declared_run] at declared
  rw [intake, since_concat, if_pos unbegun, if_pos ⟨declared, by rw [shown, Option.isSome_some]⟩,
    List.takeWhile_cons_of_pos rfl, List.takeWhile_nil, List.filterMap_cons_some shown,
    List.filterMap_nil]

/-- A property of a step and the records it has taken in that holds when a step begins, is kept
by each record that is taken in, and does not depend on the name and the seal or, once the step
is sealed, on its start. -/
structure Kept (holds : Step → List Record → Prop) : Prop where
  begins : ∀ vertex index name, holds { vertex, index, name } []
  takes : ∀ {step : Step} {records : List Record} {record : Record}, step.isSealed = false →
    record.isActivity = true → holds step records → holds (step.take record) (records ++ [record])
  renamed : ∀ {step : Step} {records : List Record} (name : String),
    holds step records → holds (step.rename name) records
  closed : ∀ {step : Step} {records : List Record},
    holds step records → holds { step with isSealed := true } records
  startedLate : ∀ {step : Step} {records : List Record} (time : Instant), step.isSealed = true →
    holds step records → holds (step.start time) records

namespace Kept

variable {holds : Step → List Record → Prop} (kept : Kept holds)

include kept

theorem take_of_isSealed {step : Step} {records : List Record} (isSealed : step.isSealed = true)
    (holding : holds step records) (record : Record) : holds (step.take record) records := by
  cases record with
  | declared vertex name => exact kept.renamed name holding
  | started vertex time => exact kept.startedLate time isSealed holding
  | completed | operated | printed =>
      dsimp only [Step.take]
      rw [if_pos isSealed]
      exact holding

theorem undergo {step : Step} {records : List Record} (holding : holds step records)
    (change : Change) :
    holds (step.undergo change)
      (records ++ if step.isSealed then [] else (change.work? step.vertex).toList) := by
  cases change with
  | sealStep index =>
      rw [show Change.work? step.vertex (.sealStep index) = none from rfl, Option.toList_none,
        ite_self, List.append_nil, Step.undergo]
      split
      · exact kept.closed holding
      · exact holding
  | apply record =>
      by_cases about : step.vertex = record.vertex
      · rw [Step.undergo, if_pos about]
        cases isSealed : step.isSealed with
        | true =>
            rw [if_pos rfl, List.append_nil]
            exact kept.take_of_isSealed isSealed holding record
        | false =>
            rw [if_neg Bool.false_ne_true]
            cases activity : record.isActivity with
            | true =>
                rw [Change.work?_eq_some_iff.mpr ⟨rfl, about.symm, activity⟩, Option.toList_some]
                exact kept.takes isSealed activity holding
            | false =>
                cases record with
                | declared vertex name =>
                    rw [Change.work?_eq_none_iff.mpr fun _ => rfl, Option.toList_none,
                      List.append_nil]
                    exact kept.renamed name holding
                | started | completed | operated | printed => cases activity
      · rw [Change.work?_eq_none_iff.mpr fun same => absurd same.symm about, Option.toList_none,
          ite_self, List.append_nil, Step.undergo, if_neg about]
        exact holding

/-- **What a step keeps of its intake.** -/
theorem run (changes : List Change) :
    ∀ step ∈ (run changes).steps, holds step (intake step.vertex step.index changes) := by
  induction changes using List.reverseRecOn with
  | nil => exact fun step member => absurd member List.not_mem_nil
  | append_singleton changes change ih =>
      intro later member
      rw [run_concat, (booked_run changes).mem_change] at member
      obtain ⟨step, old | new, rfl⟩ := member
      · rw [Step.vertex_undergo, Step.index_undergo, intake_concat old]
        exact kept.undergo (ih step old) change
      · obtain ⟨record, name, rfl, activity, fresh, declared, rfl⟩ := newcomer?_eq_some_iff.mp new
        rw [Step.vertex_undergo, Step.index_undergo,
          intake_newcomer fresh (by rw [declared, Option.isSome_some]) activity,
          Step.undergo, if_pos rfl]
        exact kept.takes rfl activity (kept.begins ..)

end Kept

end Tracker

end ContainerTasks.Progress
