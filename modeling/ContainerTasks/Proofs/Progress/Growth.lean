import ContainerTasks.Progress.Tracker

/-! # How steps change while a build is tracked

A step keeps its vertex and its number for good, gets a name at most once, never
becomes active again, and collects lines only at the end. Once it is sealed its
status and its lines stay as they are. `Tracker.apply_grows` says this of every
record, whatever came before.
-/

namespace ContainerTasks.Progress

namespace Step

/-- One state of a step comes after another one. -/
structure Grows (before after : Step) : Prop where
  vertex : after.vertex = before.vertex
  index : after.index = before.index
  name : before.name ≠ "" → after.name = before.name
  finished : before.status.isFinished = true → after.status.isFinished = true
  lines : before.lines <+: after.lines
  isSealed : before.isSealed = true → after.isSealed = true
  kept : before.isSealed = true → after.status = before.status ∧ after.lines = before.lines

namespace Grows

theorem refl (step : Step) : step.Grows step :=
  ⟨rfl, rfl, fun _ => rfl, id, List.prefix_rfl, id, fun _ => ⟨rfl, rfl⟩⟩

theorem trans {first second third : Step} (early : first.Grows second)
    (late : second.Grows third) : first.Grows third where
  vertex := late.vertex.trans early.vertex
  index := late.index.trans early.index
  name := by
    intro named
    have same := early.name named
    rw [late.name (same ▸ named), same]
  finished := fun finished => late.finished (early.finished finished)
  lines := early.lines.trans late.lines
  isSealed := fun isSealed => late.isSealed (early.isSealed isSealed)
  kept := by
    intro isSealed
    obtain ⟨status, lines⟩ := early.kept isSealed
    obtain ⟨lateStatus, lateLines⟩ := late.kept (early.isSealed isSealed)
    exact ⟨lateStatus.trans status, lateLines.trans lines⟩

/-- A step that is not sealed may change its status upwards and add lines. -/
theorem of_open {before after : Step} (unsealed : before.isSealed = false)
    (vertex : after.vertex = before.vertex) (index : after.index = before.index)
    (name : after.name = before.name)
    (finished : before.status.isFinished = true → after.status.isFinished = true)
    (lines : before.lines <+: after.lines) : before.Grows after :=
  ⟨vertex, index, fun _ => name, finished, lines, by simp [unsealed], by simp [unsealed]⟩

end Grows

theorem rename_grows (step : Step) (name : String) : step.Grows (step.rename name) := by
  unfold rename
  split
  · rename_i empty
    refine ⟨rfl, rfl, fun named => ?_, id, List.prefix_rfl, id, fun _ => ⟨rfl, rfl⟩⟩
    exact (named (String.isEmpty_iff.mp empty)).elim
  · exact .refl step

theorem start_grows (step : Step) (time : Instant) : step.Grows (step.start time) :=
  ⟨rfl, rfl, fun _ => rfl, id, List.prefix_rfl, id, fun _ => ⟨rfl, rfl⟩⟩

theorem seal_grows (step : Step) : step.Grows { step with isSealed := true } :=
  ⟨rfl, rfl, fun _ => rfl, id, List.prefix_rfl, fun _ => rfl, fun _ => ⟨rfl, rfl⟩⟩

end Step

/-- A reported completion finishes a step. -/
@[simp]
theorem Status.isFinished_complete (status : Status) (cached : Bool) (error : Option String) :
    (status.complete cached error).isFinished = true := by
  cases error with
  | some message => rfl
  | none => cases status <;> cases cached <;> rfl

namespace Step

variable {step : Step}

theorem complete_grows (unsealed : step.isSealed = false) (cached : Bool)
    (error : Option String) : step.Grows (step.complete cached error) :=
  .of_open unsealed rfl rfl rfl (fun _ => Status.isFinished_complete _ _ _) List.prefix_rfl

/-- What a report about an operation leaves of a step. -/
theorem operate_eq (step : Step) (text : String) (current total : Int64) (isCompleted : Bool) :
    ∃ lines finished downloads, step.operate text current total isCompleted =
      { step with lines := step.lines ++ lines, finished, downloads } := by
  unfold operate
  by_cases sized : 0 < total <;> by_cases first : isCompleted && !step.finished.contains text <;>
    simp only [sized, first, ↓reduceIte, Bool.false_eq_true]
  · exact ⟨[text ++ ": done"], _, _, rfl⟩
  · exact ⟨[], step.finished, _, by rw [List.append_nil]⟩
  · exact ⟨[text ++ ": done"], _, step.downloads, rfl⟩
  · exact ⟨[], step.finished, step.downloads, by rw [List.append_nil]⟩

theorem operate_grows (unsealed : step.isSealed = false) (text : String)
    (current total : Int64) (isCompleted : Bool) :
    step.Grows (step.operate text current total isCompleted) := by
  obtain ⟨lines, finished, downloads, result⟩ := operate_eq step text current total isCompleted
  rw [result]
  exact .of_open unsealed rfl rfl rfl id (List.prefix_append _ _)

/-- What output leaves of a step. -/
theorem print_eq (step : Step) (time : Instant) (data : Bytes) :
    ∃ lines, step.print time data = { step with lines := step.lines ++ lines } := by
  unfold print
  by_cases empty : data.isEmpty
  · exact ⟨[], by simp only [empty, ↓reduceIte, List.append_nil]⟩
  · exact ⟨step.outputLines time data, by simp only [empty, Bool.false_eq_true, ↓reduceIte]⟩

theorem print_grows (unsealed : step.isSealed = false) (time : Instant) (data : Bytes) :
    step.Grows (step.print time data) := by
  obtain ⟨lines, result⟩ := print_eq step time data
  rw [result]
  exact .of_open unsealed rfl rfl rfl id (List.prefix_append _ _)

end Step

namespace Tracker

/-- One state of a tracker comes after another one: no step is lost, and each has
grown. -/
def Grows (before after : Tracker) : Prop :=
  ∀ (position : Nat) (step : Step), before.steps[position]? = some step →
    ∃ later, after.steps[position]? = some later ∧ step.Grows later

namespace Grows

theorem refl (tracker : Tracker) : tracker.Grows tracker :=
  fun _ step found => ⟨step, found, .refl step⟩

theorem trans {first second third : Tracker} (early : first.Grows second)
    (late : second.Grows third) : first.Grows third := by
  intro position step found
  obtain ⟨middle, foundMiddle, growsEarly⟩ := early position step found
  obtain ⟨last, foundLast, growsLate⟩ := late position middle foundMiddle
  exact ⟨last, foundLast, growsEarly.trans growsLate⟩

theorem of_steps_eq {before after : Tracker} (same : after.steps = before.steps) :
    before.Grows after :=
  fun _ step found => ⟨step, by rw [same, found], .refl step⟩

/-- A tracker grows when one of its steps does. -/
theorem of_modify {before after : Tracker} {position : Nat} {change : Step → Step}
    (changed : after.steps = before.steps.modify position change)
    (grows : ∀ step, before.steps[position]? = some step → step.Grows (change step)) :
    before.Grows after := by
  intro other step found
  rw [changed, List.getElem?_modify, found]
  by_cases here : position = other
  · subst here
    simp only [↓reduceIte, Option.map_eq_map, Option.map_some]
    exact ⟨_, rfl, grows step found⟩
  · simp only [here, ↓reduceIte, Option.map_eq_map, Option.map_some]
    exact ⟨_, rfl, .refl step⟩

/-- No step is lost. -/
theorem length_le {before after : Tracker} (grows : before.Grows after) :
    before.steps.length ≤ after.steps.length := by
  refine Nat.le_of_not_lt fun inside => ?_
  obtain ⟨later, found, -⟩ := grows after.steps.length _ (List.getElem?_eq_getElem inside)
  simp at found

/-- A step at an old position has grown from the one that was there. -/
theorem of_later {before after : Tracker} (grows : before.Grows after) {position : Nat}
    {later : Step} (old : position < before.steps.length)
    (found : after.steps[position]? = some later) :
    ∃ step, before.steps[position]? = some step ∧ step.Grows later := by
  have present := List.getElem?_eq_getElem old
  obtain ⟨other, foundOther, growth⟩ := grows position _ present
  obtain rfl : other = later := Option.some.inj (foundOther.symm.trans found)
  exact ⟨_, present, growth⟩

end Grows

variable {tracker : Tracker}

theorem modifyStep_grows {vertex : String} {change : Step → Step}
    (grows : ∀ step, tracker.stepOf? vertex = some step → step.Grows (change step)) :
    tracker.Grows (tracker.modifyStep vertex change) := by
  cases found : tracker.positions[vertex]? with
  | none => exact .of_steps_eq (by simp only [modifyStep, found])
  | some position =>
      refine .of_modify (show _ = tracker.steps.modify position change by
        simp only [modifyStep, found]) ?_
      intro step present
      exact grows step (by simp only [stepOf?, found, Option.bind_some, present])

theorem modifyOpen_grows {vertex : String} {change : Step → Step}
    (grows : ∀ step : Step, step.isSealed = false → step.Grows (change step)) :
    tracker.Grows (tracker.modifyOpen vertex change) := by
  refine modifyStep_grows fun step _ => ?_
  cases isSealed : step.isSealed with
  | true => exact .refl step
  | false => exact grows step isSealed

theorem enter_grows (tracker : Tracker) (vertex : String) :
    tracker.Grows (tracker.enter vertex) := by
  unfold enter
  split
  · exact .refl tracker
  · split
    · exact .refl tracker
    · intro position step found
      refine ⟨step, ?_, .refl step⟩
      rw [List.getElem?_append_left (List.getElem?_eq_some_iff.mp found).1, found]

theorem declare_grows (tracker : Tracker) (vertex name : String) :
    tracker.Grows (tracker.declare vertex name) := by
  unfold declare
  split
  · exact .of_steps_eq rfl
  · have renamed : tracker.Grows (tracker.modifyStep vertex (·.rename name)) :=
      modifyStep_grows fun step _ => step.rename_grows name
    dsimp only
    split
    · exact renamed.trans (.of_steps_eq rfl)
    · exact renamed

theorem complete_grows (tracker : Tracker) (vertex : String) (cached : Bool)
    (error : Option String) : tracker.Grows (tracker.complete vertex cached error) := by
  unfold complete
  cases present : tracker.stepOf? vertex with
  | none => exact .refl tracker
  | some step =>
      cases isSealed : step.isSealed with
      | true =>
          simp only [isSealed, ↓reduceIte]
          exact .refl tracker
      | false =>
          simp only [isSealed, Bool.false_eq_true, ↓reduceIte]
          refine .trans (modifyStep_grows fun other found => ?_) (.of_steps_eq rfl)
          rw [present, Option.some_inj] at found
          exact Step.complete_grows (found ▸ isSealed) cached error

/-- **Steps grow.** Whatever a record says, no step is lost, none becomes active again,
and sealed steps keep what has been shown of them. -/
theorem apply_grows (tracker : Tracker) (record : Record) :
    tracker.Grows (tracker.apply record) := by
  cases record with
  | declared vertex name => exact tracker.declare_grows vertex name
  | started vertex time =>
      exact (tracker.enter_grows vertex).trans
        (modifyStep_grows fun step _ => step.start_grows time)
  | completed vertex cached error =>
      exact (tracker.enter_grows vertex).trans ((tracker.enter vertex).complete_grows _ _ _)
  | operated vertex text current total _ isCompleted =>
      exact (tracker.enter_grows vertex).trans
        (modifyOpen_grows fun step unsealed => step.operate_grows unsealed _ _ _ _)
  | printed vertex time data =>
      exact (tracker.enter_grows vertex).trans
        (modifyOpen_grows fun step unsealed => step.print_grows unsealed _ _)

theorem applyAll_grows (tracker : Tracker) (records : List Record) :
    tracker.Grows (tracker.applyAll records) := by
  induction records generalizing tracker with
  | nil => exact .refl tracker
  | cons record rest ih => exact (tracker.apply_grows record).trans (ih _)

theorem sealStep_grows (tracker : Tracker) (index : Nat) :
    tracker.Grows (tracker.sealStep index) := by
  unfold sealStep
  split
  · exact .refl tracker
  · exact .of_modify rfl fun step _ => step.seal_grows

end Tracker

end ContainerTasks.Progress
