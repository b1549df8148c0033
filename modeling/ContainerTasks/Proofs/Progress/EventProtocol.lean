import Mathlib.Data.List.Chain
import ContainerTasks.Progress.Response
import ContainerTasks.Proofs.Progress.ActiveSteps

/-! # The events of a response

However reading a response ends, its events are reports of the active steps and then at
most one event that ends the build. Two reports in a row differ although an update after
which no step is active makes the reading forget the last report: the steps of that
report have finished by then and are never reported again (`Upheld`).
-/

namespace ContainerTasks.Progress.Response

/-- The events of a trail. -/
def events (trail : List Effect) : List Event :=
  trail.filterMap fun effect => match effect with
    | .write _ => none
    | .event event => some event

/-- The numbers of the steps in a report. -/
def numbers (report : List ActiveStep) : List Nat :=
  report.map ActiveStep.index

/-- What holds of the reports of one response. A step that has been left out once is not
reported again. -/
structure Reporting (reports : List (List ActiveStep)) : Prop where
  nonempty : ∀ report ∈ reports, report ≠ []
  positive : ∀ report ∈ reports, ∀ number ∈ numbers report, 1 ≤ number
  ascending : ∀ report ∈ reports, (numbers report).Pairwise (· < ·)
  changing : reports.IsChain (· ≠ ·)
  gone : ∀ first second third, [first, second, third].Sublist reports →
    ∀ number ∈ numbers first, number ∉ numbers second → number ∉ numbers third

theorem Reporting.nil : Reporting [] where
  nonempty := by simp
  positive := by simp
  ascending := by simp
  changing := .nil
  gone := by simp

theorem Reporting.concat {reports : List (List ActiveStep)} {report : List ActiveStep}
    (reporting : Reporting reports) (nonempty : report ≠ [])
    (positive : ∀ number ∈ numbers report, 1 ≤ number)
    (ascending : (numbers report).Pairwise (· < ·))
    (changed : ∀ last ∈ reports.getLast?, last ≠ report)
    (gone : ∀ first second, [first, second].Sublist reports →
      ∀ number ∈ numbers first, number ∉ numbers second → number ∉ numbers report) :
    Reporting (reports ++ [report]) where
  nonempty := List.forall_mem_append.mpr ⟨reporting.nonempty, by simpa using nonempty⟩
  positive := List.forall_mem_append.mpr ⟨reporting.positive, by simpa using positive⟩
  ascending := List.forall_mem_append.mpr ⟨reporting.ascending, by simpa using ascending⟩
  changing := by
    refine List.isChain_append.mpr ⟨reporting.changing, .singleton report, ?_⟩
    intro last isLast next isNext
    obtain rfl := Option.some.inj isNext
    exact changed last isLast
  gone := by
    intro first second third inside
    obtain ⟨early, late, split, old, new⟩ := List.sublist_append_iff.mp inside
    rcases List.sublist_singleton.mp new with rfl | rfl
    · rw [List.append_nil] at split
      exact reporting.gone first second third (split ▸ old)
    · obtain ⟨rfl, same⟩ := List.append_inj' (show [first, second] ++ [third] = _ from split) rfl
      obtain rfl := List.singleton_inj.mp same
      exact gone first second old

/-- What the state of a reading says about the reports so far: the steps in them are
there, one that is left out of a later report has finished, and the last report is
remembered unless all its steps have finished. -/
structure Upheld (state : State) (reports : List (List ActiveStep)) : Prop where
  valid : state.tracker.Valid
  reporting : Reporting reports
  present : ∀ report ∈ reports, ∀ number ∈ numbers report, (state.tracker.step? number).isSome
  finished : reports.Pairwise fun early late => ∀ number ∈ numbers early,
    number ∉ numbers late → state.tracker.HasFinished number
  latest : state.isTerminated = false → ∀ report ∈ reports.getLast?,
    state.lastActive = report ∨ ∀ number ∈ numbers report, state.tracker.HasFinished number

namespace Upheld

theorem start : Upheld {} [] where
  valid := .start
  reporting := .nil
  present := by simp
  finished := .nil
  latest := by simp

variable {state after : State} {reports : List (List ActiveStep)} {active : List ActiveStep}

/-- A step that has been reported and is not active any more has finished. -/
theorem hasFinished (upheld : Upheld state reports) (grows : state.tracker.Grows after.tracker)
    (valid : after.tracker.Valid) (shows : after.tracker.activeSteps = .ok active)
    {report : List ActiveStep} (told : report ∈ reports) {number : Nat}
    (member : number ∈ numbers report) (inactive : number ∉ numbers active) :
    after.tracker.HasFinished number :=
  valid.hasFinished (grows.isSome_step? (upheld.present report told number member))
    (mt (valid.mem_activeSteps shows).mpr inactive)

/-- What has been reported stays true of a later state. -/
theorem grows (upheld : Upheld state reports) (grows : state.tracker.Grows after.tracker)
    (valid : after.tracker.Valid)
    (latest : after.isTerminated = false → ∀ report ∈ reports.getLast?,
      after.lastActive = report ∨ ∀ number ∈ numbers report, after.tracker.HasFinished number) :
    Upheld after reports where
  valid := valid
  reporting := upheld.reporting
  present := fun report told number member =>
    grows.isSome_step? (upheld.present report told number member)
  finished := upheld.finished.imp fun gone number early late => (gone number early late).grows grows
  latest := latest

/-- A step that is left out of a report has finished. -/
theorem gone (upheld : Upheld state reports) {first second : List ActiveStep}
    (inside : [first, second].Sublist reports) {number : Nat} (early : number ∈ numbers first)
    (late : number ∉ numbers second) : state.tracker.HasFinished number :=
  List.pairwise_iff_forall_sublist.mp upheld.finished inside number early late

/-- Active steps that differ from those last seen also differ from the last report. -/
theorem changed (upheld : Upheld state reports) (grows : state.tracker.Grows after.tracker)
    (valid : after.tracker.Valid) (shows : after.tracker.activeSteps = .ok active)
    (ongoing : state.isTerminated = false) (present : active ≠ [])
    (other : active ≠ state.lastActive) :
    ∀ report ∈ reports.getLast?, report ≠ active := by
  rintro report isLast rfl
  -- The last report may be forgotten by now, but only after all its steps have finished.
  rcases upheld.latest ongoing _ isLast with same | finished
  · exact other same.symm
  · obtain ⟨step, member⟩ := List.exists_mem_of_ne_nil _ present
    have listed : step.index ∈ numbers report := List.mem_map_of_mem member
    exact valid.not_active ((finished _ listed).grows grows)
      ((valid.mem_activeSteps shows).mp listed)

/-- A report of other active steps than those last seen may be added. -/
theorem report (upheld : Upheld state reports) (grows : state.tracker.Grows after.tracker)
    (valid : after.tracker.Valid) (ongoing : state.isTerminated = false)
    (shows : after.tracker.activeSteps = .ok after.lastActive) (present : after.lastActive ≠ [])
    (other : after.lastActive ≠ state.lastActive) :
    Upheld after (reports ++ [after.lastActive]) where
  valid := valid
  reporting := by
    refine upheld.reporting.concat present ?_ (valid.pairwise_activeSteps shows)
      (upheld.changed grows valid shows ongoing present other) ?_
    · exact fun number member => valid.pos_of_active ((valid.mem_activeSteps shows).mp member)
    · intro first second inside number early late member
      exact valid.not_active ((upheld.gone inside early late).grows grows)
        ((valid.mem_activeSteps shows).mp member)
  present := by
    refine List.forall_mem_append.mpr ⟨?_, ?_⟩
    · exact fun report told number member =>
        grows.isSome_step? (upheld.present report told number member)
    · intro report isNew number member
      obtain rfl := List.mem_singleton.mp isNew
      exact valid.isSome_of_active ((valid.mem_activeSteps shows).mp member)
  finished := by
    refine List.pairwise_append.mpr ⟨?_, List.pairwise_singleton _ _, ?_⟩
    · exact upheld.finished.imp fun gone number early late =>
        (gone number early late).grows grows
    · intro early told late isNew number member inactive
      obtain rfl := List.mem_singleton.mp isNew
      exact upheld.hasFinished grows valid shows told member inactive
  latest := by
    intro _ report isLast
    rw [List.getLast?_concat] at isLast
    exact Or.inl (Option.some.inj isLast)

end Upheld

/-- A report does not change the state. -/
theorem emit_progress (state : State) (active : List ActiveStep) :
    state.emit (.progress active) =
      (state, if state.isTerminated then [] else [.progress active]) := by
  rcases state with ⟨tracker, cursor, lastActive, isTerminated⟩
  cases isTerminated <;> rfl

/-- What has been written after an update. -/
abbrev State.written (state : State) (records : List Record) : String × Cursor × Tracker :=
  Transcript.write false state.cursor (state.tracker.applyAll records)

/-- The events that tell of the active steps after an update. -/
def State.announced (state : State) (active : List ActiveStep) : List Event :=
  if active ≠ [] ∧ active ≠ state.lastActive ∧ state.isTerminated = false then [.progress active]
  else []

/-- An update goes by the steps that are active after it. -/
theorem update_eq (state : State) (records : List Record) :
    state.update records = (state.written records).2.2.activeSteps.map fun active =>
      ({ state with
          tracker := (state.written records).2.2
          cursor := (state.written records).2.1
          lastActive := active },
        state.announced active, (state.written records).1) := by
  rw [State.update]
  simp only [emit_progress]
  cases (state.written records).2.2.activeSteps with
  | error cause => rfl
  | ok active =>
      refine congrArg Except.ok ?_
      obtain ⟨tracker, cursor, lastActive, isTerminated⟩ := state
      dsimp only [State.announced]
      by_cases present : active = [] <;> by_cases other : active = lastActive <;>
        cases isTerminated <;> simp [present, other]

variable {state after : State} {records : List Record} {told : List Event} {text : String}

theorem update_eq_ok_iff :
    state.update records = .ok (after, told, text) ↔
      after.tracker = (state.written records).2.2 ∧ after.cursor = (state.written records).2.1 ∧
        after.tracker.activeSteps = .ok after.lastActive ∧
        after.isTerminated = state.isTerminated ∧ told = state.announced after.lastActive ∧
        text = (state.written records).1 := by
  rw [update_eq]
  obtain ⟨tracker, cursor, lastActive, isTerminated⟩ := after
  cases shows : (state.written records).2.2.activeSteps with
  | error cause =>
      refine iff_of_false nofun ?_
      rintro ⟨rfl, -, found, -⟩
      cases shows.symm.trans found
  | ok active =>
      constructor
      · intro same
        cases same
        exact ⟨rfl, rfl, shows, rfl, rfl, rfl⟩
      · rintro ⟨rfl, rfl, found, rfl, rfl, rfl⟩
        cases shows.symm.trans found
        rfl

/-- What an update leaves, and when it is reported. -/
theorem update_spec (taken : state.update records = .ok (after, told, text)) :
    state.tracker.Grows after.tracker ∧ (state.tracker.Valid → after.tracker.Valid) ∧
      after.tracker.activeSteps = .ok after.lastActive ∧
      after.isTerminated = state.isTerminated ∧ told = state.announced after.lastActive := by
  obtain ⟨tracker, -, shows, terminated, announced, -⟩ := update_eq_ok_iff.mp taken
  refine ⟨?_, fun valid => ?_, shows, terminated, announced⟩
  · rw [tracker]
    exact (state.tracker.applyAll_grows records).trans (Transcript.sealBetween_grows _ _ _)
  · rw [tracker]
    exact Transcript.sealBetween_valid (valid.applyAll records) _ _

/-- The events so far are reports that the state upholds, and one event that ends the build
if the state says so. -/
def Told (state : State) (told : List Event) : Prop :=
  ∃ reports terminal, told = reports.map .progress ++ Option.toList terminal ∧
    (∀ event ∈ terminal, event.isTerminal = true) ∧
    state.isTerminated = terminal.isSome ∧ Upheld state reports

namespace Told

theorem start : Told {} [] :=
  ⟨[], none, rfl, by simp, rfl, .start⟩

variable {state : State} {told : List Event}

theorem emit (holds : Told state told) {event : Event} (ends : event.isTerminal = true) :
    Told (state.emit event).1 (told ++ (state.emit event).2) := by
  obtain ⟨reports, terminal, rfl, isTerminal, terminated, upheld⟩ := holds
  cases terminal with
  | some last =>
      rw [Option.isSome_some] at terminated
      simp only [State.emit, terminated, ↓reduceIte, List.append_nil]
      exact ⟨reports, some last, rfl, isTerminal, terminated, upheld⟩
  | none =>
      rw [Option.isSome_none] at terminated
      simp only [State.emit, terminated, Bool.false_eq_true, ↓reduceIte, Option.toList_none,
        List.append_nil]
      refine ⟨reports, some event, rfl, by simpa using ends, ends, ?_⟩
      exact upheld.grows (.refl _) upheld.valid fun ongoing => by simp [ends] at ongoing

theorem update (holds : Told state told) {records : List Record} {after : State}
    {more : List Event} {text : String} (taken : state.update records = .ok (after, more, text)) :
    Told after (told ++ more) := by
  obtain ⟨reports, terminal, rfl, isTerminal, terminated, upheld⟩ := holds
  obtain ⟨grows, valid, shows, same, rfl⟩ := update_spec taken
  have valid := valid upheld.valid
  rw [State.announced]
  split
  · rename_i reported
    obtain ⟨present, other, ongoing⟩ := reported
    rw [ongoing] at terminated
    obtain rfl : terminal = none := by simpa using terminated.symm
    refine ⟨reports ++ [after.lastActive], none, by simp, isTerminal, same.trans ongoing, ?_⟩
    exact upheld.report grows valid ongoing shows present other
  · rename_i unreported
    refine ⟨reports, terminal, List.append_nil _, isTerminal, same.trans terminated, ?_⟩
    refine upheld.grows grows valid ?_
    intro ongoing report isLast
    rw [same] at ongoing
    by_cases present : after.lastActive = []
    -- No step is active, so those of the last report have finished.
    · refine Or.inr fun number member => ?_
      refine upheld.hasFinished grows valid shows (List.mem_of_getLast? isLast) member ?_
      rw [present]
      exact List.not_mem_nil
    · have again : after.lastActive = state.lastActive := by
        by_contra other
        exact unreported ⟨present, other, ongoing⟩
      rw [again]
      refine (upheld.latest ongoing report isLast).imp id ?_
      exact fun finished number member => (finished number member).grows grows

/-- A line adds to the events what the protocol allows. -/
theorem take (holds : Told state told) {passthrough : Bool} {message : Message} {after : State}
    {more : List Event} {text : String}
    (taken : state.take passthrough message = .ok (after, more, text)) :
    Told after (told ++ more) := by
  cases message with
  | failure text =>
      cases taken
      exact holds.emit rfl
  | image id =>
      cases taken
      exact holds.emit rfl
  | update records => exact holds.update taken
  | output text =>
      cases taken
      rwa [List.append_nil]
  | nothing =>
      cases taken
      rwa [List.append_nil]

end Told

theorem events_append (trail more : List Effect) :
    events (trail ++ more) = events trail ++ events more :=
  List.filterMap_append

theorem events_map_event (told : List Event) : events (told.map .event) = told := by
  simp [events, List.filterMap_map]

/-- Writing raises no event. -/
theorem events_writeText {conditions : Conditions} {trail after : List Effect} {text : String}
    (written : writeText conditions trail text = .ok after) : events after = events trail := by
  unfold writeText at written
  split at written
  · rw [← Except.ok.inj written]
  · split at written
    · cases written
    · rw [← Except.ok.inj written, events_append]
      exact List.append_nil _

theorem events_finish (conditions : Conditions) (state : State) (trail : List Effect)
    (journal : List Journal.Entry) :
    events (finish conditions state trail journal).trail = events trail := by
  unfold finish
  split
  · rfl
  · split
    · rfl
    · rfl
    · split
      · rfl
      · rename_i written
        exact events_writeText written

/-- Whatever ends the reading of lines, its events are as the state at that point says. -/
theorem told_readLines (conditions : Conditions) (passthrough : Bool) (lines : List Bytes) :
    ∀ (state : State) (trail : List Effect) (journal : List Journal.Entry),
      Told state (events trail) →
      ∃ after, Told after
        (events (readLines conditions passthrough state trail journal lines).trail) := by
  induction lines with
  | nil =>
      intro state trail journal holds
      refine ⟨state, ?_⟩
      rw [readLines, events_finish]
      exact holds
  | cons line more ih =>
      intro state trail journal holds
      rw [readLines]
      split
      · exact ⟨state, holds⟩
      · split
        · exact ⟨state, holds⟩
        · dsimp only
          split
          · exact ⟨state, holds⟩
          · rename_i after told text taken
            have taken := holds.take taken
            rw [← events_map_event told, ← events_append] at taken
            split
            · exact ⟨_, taken⟩
            · rename_i written
              refine ih _ _ _ ?_
              rw [events_writeText written]
              exact taken

/-- **The event protocol.** However reading a response ends, its events are reports of the
active steps and then at most one event that ends the build. A report names at least one
step, by ascending numbers from one on, differs from the report before it, and names no
step that was left out since it was reported first. -/
theorem read_protocol (conditions : Conditions) (passthrough : Bool) (input : Bytes) :
    ∃ reports terminal,
      events (read conditions passthrough input).trail =
        reports.map .progress ++ Option.toList terminal ∧
      (∀ event ∈ terminal, event.isTerminal = true) ∧ Reporting reports := by
  obtain ⟨after, reports, terminal, told, isTerminal, -, upheld⟩ :=
    told_readLines conditions passthrough (linesOf conditions.ending input) {} [] [] .start
  exact ⟨reports, terminal, told, isTerminal, upheld.reporting⟩

-- An update that begins a step, and the image.
example : events (read {} false (Text.Utf8.ofString
    ("\x7b\"id\":\"moby.buildkit.trace\",\"aux\":\"CggKAWEaAW4qAA==\"\x7d\n" ++
      "\x7b\"id\":\"moby.image.id\",\"aux\":\x7b\"ID\":\"sha\"\x7d\x7d\n"))).trail =
    [.progress [⟨1, "n", none⟩], .built "sha"] := by decide +kernel

end ContainerTasks.Progress.Response
