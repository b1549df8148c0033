import ContainerTasks.Proofs.Progress.Plan
import ContainerTasks.Proofs.Progress.Session

/-! # Heads of steps and the reports about them

A report and the head that the transcript writes name a step as it is called at that moment,
and a step may get its name later. So a head and the reports may differ, but only in that one
of them leaves the name out (`read_heads`). They agree on every step that is not reported
without a name: the first report that could show a step is raised by the update that begins
it, so a step that gets its name later has been reported without it or is never reported.
-/

namespace ContainerTasks.Progress

/-- A text has a part. -/
def HasPart (text part : String) : Prop :=
  ∃ before after, text = before ++ part ++ after

namespace HasPart

variable {text more part : String}

theorem append (has : HasPart text part) (more : String) : HasPart (text ++ more) part := by
  obtain ⟨before, after, rfl⟩ := has
  exact ⟨before, after ++ more, by simp only [String.append_assoc]⟩

theorem prepend (has : HasPart more part) (text : String) : HasPart (text ++ more) part := by
  obtain ⟨before, after, rfl⟩ := has
  exact ⟨text ++ before, after, by simp only [String.append_assoc]⟩

end HasPart

/-- The line that begins what is shown of a step. -/
def headLine (number : Nat) (name : String) : String :=
  "#" ++ toString number ++ " " ++ name ++ "\n"

/-- The head of the step at a position has been written. -/
def Cursor.Past (cursor : Cursor) (position : Nat) : Prop :=
  position < cursor.position ∨ position = cursor.position ∧ cursor.headWritten = true

namespace Transcript

theorem unwritten_hasPart (step : Step) {cursor : Cursor} (head : cursor.headWritten = false) :
    HasPart (step.unwritten cursor) (headLine step.index step.name) := by
  refine ⟨"", String.join ((step.lines.drop cursor.linesWritten).map step.shown), ?_⟩
  rw [Step.unwritten, head, String.empty_append]
  rfl

/-- Writing on writes the head of each step that the cursor comes to. -/
theorem writeFrom_heads (closing : Bool) (steps : List Step) (cursor : Cursor) (position : Nat)
    (past : (writeFrom closing cursor steps).2.Past (cursor.position + position)) :
    cursor.Past (cursor.position + position) ∨
      ∃ step, steps[position]? = some step ∧
        HasPart (writeFrom closing cursor steps).1 (headLine step.index step.name) := by
  induction steps generalizing cursor position with
  | nil => exact Or.inl past
  | cons step later ih =>
      cases position with
      | zero =>
          cases head : cursor.headWritten with
          | true => exact Or.inl (Or.inr ⟨rfl, head⟩)
          | false =>
              refine Or.inr ⟨step, rfl, ?_⟩
              rw [writeFrom_cons]
              split
              · exact (unwritten_hasPart step head).append _
              · exact unwritten_hasPart step head
      | succ position =>
          rw [writeFrom_cons] at past ⊢
          split at past
          · rename_i goesOn
            rw [if_pos goesOn]
            rw [← Nat.add_assoc, Nat.add_right_comm] at past
            rcases ih { position := cursor.position + 1 } position past with fresh | found
            · -- Nothing has been written of the step that a cursor has just come to.
              rcases fresh with before | ⟨-, head⟩
              · dsimp only at before
                omega
              · cases head
            · obtain ⟨other, present, has⟩ := found
              exact Or.inr ⟨other, present, (has.prepend _).prepend _⟩
          · rcases past with before | ⟨here, -⟩
            · dsimp only at before
              omega
            · dsimp only at here
              omega

/-- When a response has ended the cursor comes behind all steps. -/
theorem position_writeFrom_closing (steps : List Step) (cursor : Cursor) :
    (writeFrom true cursor steps).2.position = cursor.position + steps.length := by
  induction steps generalizing cursor with
  | nil => rfl
  | cons step later ih =>
      rw [writeFrom_cons, Bool.true_or, if_pos rfl, ih]
      exact Nat.succ_add_eq_add_succ _ _

/-- Of the steps from the cursor on, each has its head written if the cursor comes past it. -/
theorem write_heads (closing : Bool) (cursor : Cursor) (tracker : Tracker) (position : Nat)
    (past : (write closing cursor tracker).2.1.Past position) :
    cursor.Past position ∨
      ∃ step, tracker.steps[position]? = some step ∧
        HasPart (write closing cursor tracker).1 (headLine step.index step.name) := by
  by_cases before : position < cursor.position
  · exact Or.inl (Or.inl before)
  · obtain ⟨further, rfl⟩ := Nat.exists_eq_add_of_le (Nat.le_of_not_lt before)
    have heads := writeFrom_heads closing (tracker.steps.drop cursor.position) cursor further past
    rwa [List.getElem?_drop] at heads

end Transcript

namespace Tracker.Valid

variable {tracker : Tracker} {active : List ActiveStep} (valid : tracker.Valid)
  (shows : tracker.activeSteps = .ok active)

include valid shows

theorem exists_of_mem_activeSteps {shown : ActiveStep} (member : shown ∈ active) :
    ∃ step, tracker.step? shown.index = some step ∧ step.status.isFinished = false ∧
      step.asActive = shown := by
  obtain ⟨-, rfl⟩ := Tracker.activeSteps_eq_ok_iff.mp shows
  obtain ⟨step, running, rfl⟩ := List.mem_map.mp member
  obtain ⟨number, active, found⟩ := List.mem_filterMap.mp running
  obtain ⟨other, present, status⟩ :=
    (valid.active_iff number).mp (Std.ExtTreeSet.mem_toList.mp active)
  obtain rfl := Option.some.inj (found.symm.trans present)
  refine ⟨step, ?_, status, rfl⟩
  change tracker.step? step.index = _
  rw [valid.index_eq found, found]

theorem asActive_mem_activeSteps {number : Nat} {step : Step}
    (found : tracker.step? number = some step) (status : step.status.isFinished = false) :
    step.asActive ∈ active := by
  obtain ⟨-, rfl⟩ := Tracker.activeSteps_eq_ok_iff.mp shows
  refine List.mem_map_of_mem (List.mem_filterMap.mpr ⟨number, ?_, found⟩)
  exact Std.ExtTreeSet.mem_toList.mpr ((valid.active_iff number).mpr ⟨step, found, status⟩)

end Tracker.Valid

namespace Response

/-- What a trail writes, all in one. -/
def textOf (trail : List Effect) : String :=
  String.join (trail.filterMap fun effect => match effect with
    | .write text => some text
    | .event _ => none)

/-- A report shows a step under a name. -/
def Reports (trail : List Effect) (number : Nat) (name : String) : Prop :=
  ∃ report, .progress report ∈ events trail ∧
    ∃ shown ∈ report, shown.index = number ∧ shown.name = name

section

variable {trail more : List Effect} {number : Nat} {name text : String}

theorem textOf_append (trail more : List Effect) :
    textOf (trail ++ more) = textOf trail ++ textOf more := by
  rw [textOf, List.filterMap_append, String.join_append]
  rfl

theorem textOf_map_event (told : List Event) : textOf (told.map .event) = "" := by
  simp [textOf, List.filterMap_map]

theorem textOf_written (text : String) : textOf (written text) = text := by
  unfold written
  by_cases empty : text.isEmpty
  · rw [if_pos empty, String.isEmpty_iff.mp empty]
    rfl
  · rw [if_neg empty]
    simp [textOf]

/-- A turn of a reading adds its text. -/
theorem textOf_turn (trail : List Effect) (told : List Event) (text : String) :
    textOf (trail ++ told.map .event ++ written text) = textOf trail ++ text := by
  rw [textOf_append, textOf_append, textOf_map_event, String.append_empty, textOf_written]

theorem reports_append : Reports (trail ++ more) number name ↔
    Reports trail number name ∨ Reports more number name := by
  simp only [Reports, events_append, List.mem_append, or_and_right, exists_or]

theorem not_reports_written : ¬ Reports (written text) number name := by
  rintro ⟨report, member, -⟩
  rw [events_written] at member
  cases member

/-- A turn of a reading adds the reports it raises. -/
theorem reports_turn {told : List Event} :
    Reports (trail ++ told.map .event ++ written text) number name ↔
      Reports trail number name ∨ Reports (told.map .event) number name := by
  rw [reports_append, reports_append, or_iff_left not_reports_written]

end

/-- A step may go without its name in the transcript: it has been reported without a name, or
it has not been reported and will not be, since it has finished or the build has been
terminated. -/
def Excused (state : State) (trail : List Effect) (number : Nat) : Prop :=
  Reports trail number "" ∨
    (state.isTerminated = true ∨ state.tracker.HasFinished number) ∧
      ∀ name, ¬ Reports trail number name

/-- What a reading has reported and written is about the steps of its state: the reports show
them under their names or without, steps without a name are excused, and the heads behind
the cursor have been written, without the name only if the step is excused. -/
structure Headed (state : State) (trail : List Effect) : Prop where
  valid : state.tracker.Valid
  seen : state.tracker.activeSteps = .ok state.lastActive
  told : ∀ number name, Reports trail number name →
    ∃ step, state.tracker.step? number = some step ∧ (name = step.name ∨ name = "")
  unnamed : ∀ number step, state.tracker.step? number = some step → step.name = "" →
    Excused state trail number
  heads : ∀ position, state.cursor.Past position →
    ∃ step name, state.tracker.steps[position]? = some step ∧
      HasPart (textOf trail) (headLine (position + 1) name) ∧
      (name = step.name ∨ name = "" ∧ Excused state trail (position + 1))

/-! ## Updates -/

section

variable {state after : State} {records : List Record} {told : List Event} {text : String}
  {trail : List Effect} {number : Nat} {name : String}

/-- An update reports steps that have not finished by then, under the names they have by then,
and only while the build has not been terminated. -/
theorem exists_of_reports_update (taken : state.update records = .ok (after, told, text))
    (valid : state.tracker.Valid) (reports : Reports (told.map .event) number name) :
    state.isTerminated = false ∧
      ∃ step, after.tracker.step? number = some step ∧
        step.status.isFinished = false ∧ step.name = name := by
  obtain ⟨-, keeps, shows, -, rfl⟩ := update_spec taken
  obtain ⟨report, member, shown, listed, rfl, rfl⟩ := reports
  rw [events_map_event, State.announced] at member
  split at member
  · rename_i reported
    cases List.mem_singleton.mp member
    obtain ⟨step, found, status, rfl⟩ := (keeps valid).exists_of_mem_activeSteps shows listed
    exact ⟨reported.2.2, step, found, status, rfl⟩
  · cases member

/-- A step that an update begins is reported, unless it has finished by then or the build has
been terminated. -/
theorem reports_update_of_new (taken : state.update records = .ok (after, told, text))
    (valid : state.tracker.Valid) (seen : state.tracker.activeSteps = .ok state.lastActive)
    (ongoing : state.isTerminated = false) (new : state.tracker.step? number = none) {step : Step}
    (found : after.tracker.step? number = some step) (status : step.status.isFinished = false) :
    Reports (told.map .event) number step.name := by
  obtain ⟨-, keeps, shows, -, rfl⟩ := update_spec taken
  have index := (keeps valid).index_eq found
  have listed := (keeps valid).asActive_mem_activeSteps shows found status
  have other : after.lastActive ≠ state.lastActive := by
    intro same
    rw [same] at listed
    obtain ⟨before, present, -⟩ := valid.exists_of_mem_activeSteps seen listed
    rw [show step.asActive.index = number from index, new] at present
    cases present
  refine ⟨_, ?_, step.asActive, listed, index, rfl⟩
  rw [events_map_event, State.announced, if_pos ⟨List.ne_nil_of_mem listed, other, ongoing⟩]
  exact List.mem_singleton_self _

/-- The trail once what a line says has been taken in. -/
def turned (trail : List Effect) (told : List Event) (text : String) : List Effect :=
  trail ++ told.map .event ++ written text

theorem Excused.update (excused : Excused state trail number)
    (taken : state.update records = .ok (after, told, text)) (valid : state.tracker.Valid) :
    Excused after (turned trail told text) number := by
  obtain ⟨grows, keeps, -, same, -⟩ := update_spec taken
  rcases excused with reported | ⟨settled, unreported⟩
  · exact Or.inl (reports_turn.mpr (Or.inl reported))
  · refine Or.inr ⟨?_, fun name reports => ?_⟩
    · rw [same]
      exact settled.imp id fun finished => finished.grows grows
    · rcases reports_turn.mp reports with earlier | now
      · exact unreported name earlier
      · obtain ⟨ongoing, step, found, status, -⟩ := exists_of_reports_update taken valid now
        rcases settled with terminated | finished
        · exact absurd (terminated.symm.trans ongoing) (by decide)
        · exact (keeps valid).not_active (finished.grows grows)
            (((keeps valid).active_iff number).mpr ⟨step, found, status⟩)

namespace Headed

/-- A step that an update begins without a name is excused. -/
theorem excused_of_new (headed : Headed state trail)
    (taken : state.update records = .ok (after, told, text))
    (new : state.tracker.step? number = none) {step : Step}
    (found : after.tracker.step? number = some step) (nameless : step.name = "") :
    Excused after (turned trail told text) number := by
  obtain ⟨-, -, -, same, -⟩ := update_spec taken
  have unreported : ∀ name, ¬ Reports trail number name := by
    intro name reports
    obtain ⟨before, present, -⟩ := headed.told number name reports
    rw [new] at present
    cases present
  by_cases ongoing : state.isTerminated = false
  · cases status : step.status.isFinished with
    | false =>
        have reported :=
          reports_update_of_new taken headed.valid headed.seen ongoing new found status
        rw [nameless] at reported
        exact Or.inl (reports_turn.mpr (Or.inr reported))
    | true =>
        refine Or.inr ⟨Or.inr ⟨step, found, status⟩, fun name reports => ?_⟩
        rcases reports_turn.mp reports with earlier | now
        · exact unreported name earlier
        · obtain ⟨-, other, present, running, -⟩ := exists_of_reports_update taken headed.valid now
          obtain rfl := Option.some.inj (found.symm.trans present)
          exact absurd (status.symm.trans running) (by decide)
  · have terminated := eq_true_of_ne_false ongoing
    refine Or.inr ⟨Or.inl (same.trans terminated), fun name reports => ?_⟩
    rcases reports_turn.mp reports with earlier | now
    · exact unreported name earlier
    · exact ongoing (exists_of_reports_update taken headed.valid now).1

theorem update (headed : Headed state trail)
    (taken : state.update records = .ok (after, told, text)) :
    Headed after (turned trail told text) := by
  obtain ⟨grows, keeps, seen, -, -⟩ := update_spec taken
  obtain ⟨leaves, moves, -, -, -, writes⟩ := update_eq_ok_iff.mp taken
  have valid := keeps headed.valid
  refine ⟨valid, seen, ?_, ?_, ?_⟩
  · intro number name reports
    rcases reports_turn.mp reports with earlier | now
    · obtain ⟨before, present, named⟩ := headed.told number name earlier
      obtain ⟨step, found, growth⟩ := grows.step? present
      refine ⟨step, found, ?_⟩
      rcases named with rfl | nameless
      · by_cases nameless : before.name = ""
        · exact Or.inr nameless
        · exact Or.inl (growth.name nameless).symm
      · exact Or.inr nameless
    · obtain ⟨-, step, found, -, rfl⟩ := exists_of_reports_update taken headed.valid now
      exact ⟨step, found, Or.inl rfl⟩
  · intro number step found nameless
    cases present : state.tracker.step? number with
    | none => exact headed.excused_of_new taken present found nameless
    | some before =>
        obtain ⟨later, foundLater, growth⟩ := grows.step? present
        obtain rfl := Option.some.inj (found.symm.trans foundLater)
        refine (headed.unnamed number before present ?_).update taken headed.valid
        by_contra named
        exact named ((growth.name named).symm.trans nameless)
  · intro position past
    rw [turned, textOf_turn]
    rw [moves] at past
    rcases Transcript.write_heads _ _ _ _ past with before | ⟨step, found, has⟩
    · obtain ⟨old, name, present, has, named⟩ := headed.heads position before
      obtain ⟨step, found, growth⟩ := grows position old present
      refine ⟨step, name, found, has.append _, ?_⟩
      rcases named with rfl | ⟨nameless, excused⟩
      · by_cases nameless : old.name = ""
        · exact Or.inr ⟨nameless, (headed.unnamed (position + 1) old present nameless).update
            taken headed.valid⟩
        · exact Or.inl (growth.name nameless).symm
      · exact Or.inr ⟨nameless, excused.update taken headed.valid⟩
    · -- Sealing the steps that were written to their end leaves them their names.
      obtain ⟨sealed, there, alike⟩ := Transcript.getElem?_of_unsealed
        (Transcript.map_unsealed_sealBetween (state.tracker.applyAll records)
          state.cursor.position _) found
      have present : after.tracker.steps[position]? = some sealed := by
        rw [leaves]
        exact there
      have index : step.index = position + 1 :=
        (congrArg Step.index alike).symm.trans (valid.numbered position sealed present)
      have name := congrArg Step.name alike
      change sealed.name = step.name at name
      refine ⟨sealed, step.name, present, ?_, Or.inl name.symm⟩
      rw [writes, ← index]
      exact has.prepend _

/-- What is neither an update nor adds a report leaves everything as it was. -/
theorem of_unreported {more : List Effect} (headed : Headed state trail)
    (tracker : after.tracker = state.tracker) (cursor : after.cursor = state.cursor)
    (lastActive : after.lastActive = state.lastActive)
    (terminated : state.isTerminated = true → after.isTerminated = true)
    (unreported : ∀ number name, ¬ Reports more number name) :
    Headed after (trail ++ more) := by
  have reports : ∀ number name, Reports (trail ++ more) number name ↔ Reports trail number name :=
    fun number name => reports_append.trans (or_iff_left (unreported number name))
  have excused : ∀ number, Excused state trail number → Excused after (trail ++ more) number := by
    intro number excused
    simp only [Excused, reports, tracker]
    exact excused.imp id (And.imp_left (Or.imp_left terminated))
  refine ⟨?_, ?_, ?_, ?_, ?_⟩
  · rw [tracker]
    exact headed.valid
  · rw [lastActive, tracker]
    exact headed.seen
  · intro number name
    rw [reports, tracker]
    exact headed.told number name
  · intro number step found nameless
    rw [tracker] at found
    exact excused number (headed.unnamed number step found nameless)
  · intro position past
    rw [cursor] at past
    obtain ⟨step, name, found, has, named⟩ := headed.heads position past
    rw [tracker, textOf_append]
    exact ⟨step, name, found, has.append _, named.imp id (And.imp_right (excused _))⟩

/-- The event that ends a build is no report. -/
theorem emit (headed : Headed state trail) {event : Event} (ends : event.isTerminal = true)
    (text : String) :
    Headed (state.emit event).1
      (trail ++ ((state.emit event).2.map .event ++ written text)) := by
  have silent : ∀ number name,
      ¬ Reports ((state.emit event).2.map .event ++ written text) number name := by
    rintro number name ⟨report, member, -⟩
    rw [events_append, events_map_event, events_written, List.append_nil, State.emit] at member
    split at member
    · cases member
    · cases List.mem_singleton.mp member
      cases ends
  rw [State.emit] at silent ⊢
  split
  · rename_i terminated
    rw [if_pos terminated] at silent
    exact headed.of_unreported rfl rfl rfl id silent
  · rename_i ongoing
    rw [if_neg ongoing] at silent
    exact headed.of_unreported rfl rfl rfl (fun _ => ends) silent

theorem take (headed : Headed state trail) {passthrough : Bool} {message : Message}
    (taken : state.take passthrough message = .ok (after, told, text)) :
    Headed after (turned trail told text) := by
  cases message with
  | update records => exact headed.update taken
  | failure message =>
      cases taken
      rw [turned, List.append_assoc]
      exact headed.emit rfl ""
  | image id =>
      cases taken
      rw [turned, List.append_assoc]
      exact headed.emit rfl ""
  | output text =>
      cases taken
      rw [turned, List.append_assoc]
      exact headed.of_unreported rfl rfl rfl id fun _ _ => not_reports_written
  | nothing =>
      cases taken
      rw [turned, List.append_assoc]
      exact headed.of_unreported rfl rfl rfl id fun _ _ => @not_reports_written _ _ ""

theorem start : Headed {} [] where
  valid := .start
  seen := rfl
  told := by
    rintro number name ⟨report, member, -⟩
    cases member
  unnamed := by
    intro number step found
    cases number <;> cases found
  heads := by
    rintro position (before | ⟨-, head⟩)
    · exact absurd before (Nat.not_lt_zero _)
    · cases head

/-- When a response has ended the head of every step has been written. -/
theorem heads_rest (headed : Headed state trail) {number : Nat} {step : Step}
    (found : state.tracker.step? number = some step) :
    ∃ name, HasPart (textOf (trail ++ written state.rest)) (headLine number name) ∧
      (name = step.name ∨ name = "" ∧ Excused state trail number) := by
  rw [textOf_append, textOf_written]
  cases number with
  | zero => cases found
  | succ position =>
      have present : state.tracker.steps[position]? = some step := found
      have inside := (List.getElem?_eq_some_iff.mp present).1
      have past : (Transcript.write true state.cursor state.tracker).2.1.Past position := by
        refine Or.inl ?_
        change position < (Transcript.writeFrom true state.cursor _).2.position
        rw [Transcript.position_writeFrom_closing, List.length_drop]
        omega
      rcases Transcript.write_heads _ _ _ _ past with before | ⟨other, there, has⟩
      · obtain ⟨other, name, there, has, named⟩ := headed.heads position before
        obtain rfl := Option.some.inj (present.symm.trans there)
        exact ⟨name, has.append _, named⟩
      · obtain rfl := Option.some.inj (present.symm.trans there)
        rw [headed.valid.numbered position step present] at has
        exact ⟨step.name, has.prepend _, Or.inl rfl⟩

end Headed

end

/-! ## Whole responses -/

/-- A reading that succeeds comes to an end about whose state everything has been reported and
written, and then writes what is left. -/
theorem headed_readLines {conditions : Conditions} {passthrough : Bool} {lines : List Bytes} :
    ∀ {state : State} {trail : List Effect} {journal : List Journal.Entry},
      Headed state trail →
      (readLines conditions passthrough state trail journal lines).result = .ok () →
      ∃ after upTo, Headed after upTo ∧
        (readLines conditions passthrough state trail journal lines).trail =
          upTo ++ written after.rest := by
  induction lines with
  | nil =>
      intro state trail journal headed succeeds
      refine ⟨state, trail, headed, ?_⟩
      rw [readLines, finish] at succeeds ⊢
      split at succeeds
      · cases succeeds
      · rename_i uncancelled
        rw [if_neg uncancelled]
        cases ending : conditions.ending with
        | stalled =>
            rw [ending] at succeeds
            cases succeeds
        | broken reason =>
            rw [ending] at succeeds
            cases succeeds
        | closed =>
            rw [ending] at succeeds
            dsimp only at succeeds ⊢
            cases accepted : writeText conditions trail state.rest with
            | error error =>
                rw [accepted] at succeeds
                cases succeeds
            | ok after => exact (writeText_eq_ok accepted).1
  | cons line more ih =>
      intro state trail journal headed succeeds
      rw [readLines] at succeeds ⊢
      split at succeeds
      · cases succeeds
      · rename_i uncancelled
        rw [if_neg uncancelled]
        cases understood : readLine line with
        | error error =>
            rw [understood] at succeeds
            cases succeeds
        | ok message =>
            rw [understood] at succeeds
            dsimp only at succeeds ⊢
            cases taken : state.take passthrough message with
            | error cause =>
                rw [taken] at succeeds
                cases succeeds
            | ok result =>
                obtain ⟨after, told, text⟩ := result
                rw [taken] at succeeds
                dsimp only at succeeds ⊢
                cases accepted : writeText conditions (trail ++ told.map .event) text with
                | error error =>
                    rw [accepted] at succeeds
                    cases succeeds
                | ok behind =>
                    rw [accepted] at succeeds
                    refine ih ?_ succeeds
                    rw [(writeText_eq_ok accepted).1]
                    exact headed.take taken

/-- **Heads and reports.** When a response has been read to its end, each step that was reported
has its head in what was written. All reports show the step under one name or without a name,
and so does its head; if the head leaves the name out, so does one of the reports. -/
theorem read_heads {conditions : Conditions} {passthrough : Bool} {input : Bytes}
    (succeeds : (read conditions passthrough input).result = .ok ()) {number : Nat}
    {name : String} (reported : Reports (read conditions passthrough input).trail number name) :
    ∃ full head, HasPart (textOf (read conditions passthrough input).trail) (headLine number head) ∧
      (head = full ∨ head = "") ∧
      (∀ other, Reports (read conditions passthrough input).trail number other →
        other = full ∨ other = "") ∧
      (head ≠ full → Reports (read conditions passthrough input).trail number "") := by
  obtain ⟨after, upTo, headed, ends⟩ := headed_readLines .start succeeds
  change (read conditions passthrough input).trail = _ at ends
  rw [ends] at reported ⊢
  have earlier : ∀ other, Reports (upTo ++ written after.rest) number other ↔
      Reports upTo number other := fun other => reports_append.trans (or_iff_left not_reports_written)
  obtain ⟨step, found, -⟩ := headed.told number name ((earlier name).mp reported)
  obtain ⟨head, has, named⟩ := headed.heads_rest found
  refine ⟨step.name, head, has, named.imp id And.left, ?_, fun differs => ?_⟩
  · intro other reports
    obtain ⟨same, present, shown⟩ := headed.told number other ((earlier other).mp reports)
    obtain rfl := Option.some.inj (found.symm.trans present)
    exact shown
  · rcases named with same | ⟨-, nameless | ⟨-, unreported⟩⟩
    · exact (differs same).elim
    · exact (earlier "").mpr nameless
    · exact (unreported name ((earlier name).mp reported)).elim

/-- A response in which a step begins and gets its name later. -/
def late : Bytes :=
  Text.Utf8.ofString
    ("\x7b\"id\":\"moby.buildkit.trace\",\"aux\":\"CgcKAWEqAggB\"\x7d\n" ++
      "\x7b\"id\":\"moby.buildkit.trace\",\"aux\":\"CgoKAWEaBWZpcnN0\"\x7d\n")

/-- Its head is written before it has the name. -/
theorem read_late :
    (read {} false late).trail =
        [.event (.progress [⟨1, "", none⟩]), .write "#1 \n",
          .event (.progress [⟨1, "first", none⟩]), .write "\n"] ∧
      (read {} false late).result = .ok () := by
  decide +kernel

theorem reports_late : Reports (read {} false late).trail 1 "first" := by
  rw [read_late.1]
  exact ⟨[⟨1, "first", none⟩], by decide, _, List.mem_singleton_self _, rfl, rfl⟩

theorem read_heads_late :
    (read {} false late).result = .ok () ∧ Reports (read {} false late).trail 1 "first" ∧
      ∃ head, HasPart (textOf (read {} false late).trail) (headLine 1 head) := by
  obtain ⟨full, head, has, -⟩ := read_heads read_late.2 reports_late
  exact ⟨read_late.2, reports_late, head, has⟩

/-- A step can be reported under a name that its head leaves out. -/
theorem report_without_head :
    ¬ ∀ (conditions : Conditions) (passthrough : Bool) (input : Bytes) (number : Nat)
      (name : String), (read conditions passthrough input).result = .ok () →
      Reports (read conditions passthrough input).trail number name →
      HasPart (textOf (read conditions passthrough input).trail) (headLine number name) := by
  intro agree
  obtain ⟨before, after, text⟩ := agree {} false late 1 "first" read_late.2 reports_late
  rw [read_late.1] at text
  -- The text is shorter than the head.
  have length := congrArg String.length text
  rw [String.length_append, String.length_append] at length
  have short : (textOf [.event (.progress [⟨1, "", none⟩]), .write "#1 \n",
    .event (.progress [⟨1, "first", none⟩]), .write "\n"]).length = 5 := by decide
  have long : (headLine 1 "first").length = 9 := by decide
  omega

end Response

end ContainerTasks.Progress
