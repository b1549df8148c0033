import ContainerTasks.Proofs.Progress.Intake
import ContainerTasks.Proofs.Progress.MarkedLines

/-! # What is written of a step

A transcript shows of a step its name, its lines and the line that closes it. Output is cut at its
newlines before its lines are kept, so none of them has one. A name, an operation that is complete
and the message of an error are kept as a record brings them (`run_fitting`).
-/

namespace ContainerTasks.Progress

theorem oneLine_secondsText (millis : Nat) : OneLine (secondsText millis) := by
  have zeros :
      OneLine (if millis % 1000 < 10 then "00" else if millis % 1000 < 100 then "0" else "") := by
    split
    · decide
    · split <;> decide
  exact ((oneLine_toString _).append (by decide)).append (zeros.append (oneLine_toString _))

/-- The pieces of a text that is cut at its newlines have none. -/
theorem newline_notMem_of_mem_splitLines {chars line : List Char}
    (member : line ∈ Step.splitLines chars) : '\n' ∉ line := by
  induction chars generalizing line with
  | nil =>
      rw [List.mem_singleton.mp member]
      exact List.not_mem_nil
  | cons c rest ih =>
      rw [Step.splitLines] at member
      split at member
      · rcases List.mem_cons.mp member with rfl | later
        · exact List.not_mem_nil
        · exact ih later
      · rename_i other
        cases split : Step.splitLines rest with
        | nil =>
            rw [split] at member
            rw [List.mem_singleton.mp member, List.mem_singleton]
            exact Ne.symm other
        | cons first more =>
            rw [split] at member ih
            rcases List.mem_cons.mp member with rfl | later
            · rw [List.mem_cons, not_or]
              exact ⟨Ne.symm other, ih List.mem_cons_self⟩
            · exact ih (List.mem_cons_of_mem _ later)

theorem oneLine_outputLines (step : Step) (time : Instant) (data : Bytes) :
    ∀ line ∈ step.outputLines time data, OneLine line := by
  intro line member
  obtain ⟨piece, cut, rfl⟩ := List.mem_map.mp member
  refine ((oneLine_secondsText _).append (by decide)).append ?_
  rw [OneLine, String.toList_ofList]
  exact newline_notMem_of_mem_splitLines cut

/-- What a record brings that is written as it is: a name, an operation that is complete, or the
message of an error. -/
def Record.entry? : Record → Option String
  | .declared _ name => some name
  | .completed _ _ error => error.map ("ERROR: " ++ ·)
  | .operated _ text _ _ _ isCompleted => if isCompleted then some (text ++ ": done") else none
  | .started .. | .printed .. => none

/-- What is written of a step satisfies a condition. -/
structure Step.Fitting (fits : String → Prop) (step : Step) : Prop where
  name : fits step.name
  lines : ∀ line ∈ step.lines, fits line
  ending : ∀ line ∈ step.status.terminalLine, fits line

variable {fits : String → Prop} (oneLine : ∀ entry, OneLine entry → fits entry)

namespace Step.Fitting

variable {step : Step} (fitting : step.Fitting fits)

include fitting

theorem rename {name : String} (brought : fits name) : (step.rename name).Fitting fits := by
  unfold Step.rename
  split
  · exact ⟨brought, fitting.lines, fitting.ending⟩
  · exact fitting

theorem operate {text : String} {current total : Int64} {isCompleted : Bool}
    (brought : isCompleted = true → fits (text ++ ": done")) :
    (step.operate text current total isCompleted).Fitting fits := by
  rw [Step.operate_fields]
  refine ⟨fitting.name, fun line member => ?_, fitting.ending⟩
  rcases List.mem_append.mp member with former | new
  · exact fitting.lines line former
  · split at new
    · rename_i first
      rw [List.mem_singleton.mp new]
      exact brought (Bool.and_eq_true_iff.mp first).1
    · cases new

include oneLine

theorem complete {cached : Bool} {error : Option String}
    (brought : ∀ message ∈ error, fits ("ERROR: " ++ message)) :
    (step.complete cached error).Fitting fits := by
  refine ⟨fitting.name, fitting.lines, fun line ends => ?_⟩
  dsimp only [Step.complete] at ends
  cases error with
  | some message =>
      obtain rfl := Option.some.inj ends
      exact brought message rfl
  | none =>
      cases status : step.status with
      | errored message =>
          rw [status] at ends
          exact fitting.ending line (status ▸ ends)
      | cached =>
          rw [status] at ends
          exact fitting.ending line (status ▸ ends)
      | active | done =>
          rw [status] at ends
          cases cached <;>
          · obtain rfl := Option.some.inj ends
            exact oneLine _ (by decide)

theorem print (time : Instant) (data : Bytes) : (step.print time data).Fitting fits := by
  unfold Step.print
  split
  · exact fitting
  · refine ⟨fitting.name, fun line member => ?_, fitting.ending⟩
    rcases List.mem_append.mp member with former | new
    · exact fitting.lines line former
    · exact oneLine line (oneLine_outputLines step time data line new)

theorem take {record : Record} (brought : ∀ entry ∈ record.entry?, fits entry) :
    (step.take record).Fitting fits := by
  cases record with
  | declared vertex name => exact fitting.rename (brought name rfl)
  | started vertex time => exact ⟨fitting.name, fitting.lines, fitting.ending⟩
  | completed vertex cached error =>
      dsimp only [Step.take]
      split
      · exact fitting
      · exact fitting.complete oneLine fun message member =>
          brought _ (Option.mem_map_of_mem _ member)
  | operated vertex text current total isStarted isCompleted =>
      dsimp only [Step.take]
      split
      · exact fitting
      · exact fitting.operate fun completed => brought _ (if_pos completed)
  | printed vertex time data =>
      dsimp only [Step.take]
      split
      · exact fitting
      · exact fitting.print oneLine time data

theorem undergo {change : Tracker.Change}
    (brought : ∀ record, change = .apply record → ∀ entry ∈ record.entry?, fits entry) :
    (step.undergo change).Fitting fits := by
  cases change with
  | sealStep index =>
      dsimp only [Step.undergo]
      split
      · exact ⟨fitting.name, fitting.lines, fitting.ending⟩
      · exact fitting
  | apply record =>
      dsimp only [Step.undergo]
      split
      · exact fitting.take oneLine (brought record rfl)
      · exact fitting

end Step.Fitting

namespace Tracker

include oneLine

/-- The names of declarations come from records. -/
theorem fits_declared_change {tracker : Tracker} (booked : tracker.Booked) {change : Change}
    (brought : ∀ record, change = .apply record → ∀ entry ∈ record.entry?, fits entry)
    (fitting : ∀ vertex name : String, tracker.declared[vertex]? = some name → fits name)
    (vertex name : String) (declared : (tracker.change change).declared[vertex]? = some name) :
    fits name := by
  cases change with
  | sealStep index =>
      rw [Tracker.change, declared_sealStep] at declared
      exact fitting vertex name declared
  | apply record =>
      have told := congrArg Account.declared (booked.account_apply record vertex)
      have own := declared.symm.trans told
      split at own
      · cases record with
        | declared other given =>
            have former : fits (tracker.declared[vertex]?.getD "") := by
              cases known : tracker.declared[vertex]? with
              | none => exact oneLine "" (by decide)
              | some first => exact fitting vertex first known
            rw [Option.some.inj own]
            split
            · exact brought _ rfl _ rfl
            · exact former
        | started | completed | operated | printed => exact fitting vertex name own.symm
      · exact fitting vertex name own.symm

/-- **Entries.** Whatever is written of a step is a line without a newline or is brought by a
record. -/
theorem run_fitting {changes : List Change}
    (brought : ∀ record, .apply record ∈ changes → ∀ entry ∈ record.entry?, fits entry) :
    (∀ step ∈ (run changes).steps, step.Fitting fits) ∧
      ∀ vertex name : String, (run changes).declared[vertex]? = some name → fits name := by
  induction changes using List.reverseRecOn with
  | nil => exact ⟨fun step member => absurd member List.not_mem_nil, by simp [run]⟩
  | append_singleton changes change ih =>
      obtain ⟨steps, declared⟩ := ih fun record member =>
        brought record (List.mem_append_left _ member)
      have broughtLast : ∀ record, change = .apply record →
          ∀ entry ∈ record.entry?, fits entry := by
        rintro record rfl
        exact brought record (List.mem_append_right _ (List.mem_singleton_self _))
      rw [run_concat]
      refine ⟨fun later member => ?_,
        fits_declared_change oneLine (booked_run changes) broughtLast declared⟩
      obtain ⟨step, old | new, rfl⟩ := (booked_run changes).mem_change.mp member
      · exact (steps step old).undergo oneLine broughtLast
      · obtain ⟨record, name, -, -, -, known, rfl⟩ := newcomer?_eq_some_iff.mp new
        refine Step.Fitting.undergo oneLine ⟨declared _ name known, ?_, ?_⟩ broughtLast
        · exact fun line among => absurd among List.not_mem_nil
        · exact fun line among => (Option.not_mem_none line among).elim

end Tracker

end ContainerTasks.Progress
