import ContainerTasks.Proofs.Progress.Intake

/-! # How a step ends

A vertex may be reported complete several times, and later reports may revise earlier ones.
The status of its step is that of the strongest report it has taken in (`strongest`): the last
error if there is any, else the cache if any report names it, else the ordinary end. So it
does not matter in which order the reports come, but for the last error, and the status only
moves up (`run_strongest`).
-/

namespace ContainerTasks.Progress

/-- A report that a vertex is complete: whether it was found in the cache, and why it failed if
it did. -/
structure Completion where
  cached : Bool
  error : Option String
deriving DecidableEq

namespace Status

/-- Where a status stands among those that a step goes through. -/
def rank : Status → Nat
  | active => 0
  | done => 1
  | cached => 2
  | errored _ => 3

theorem rank_le_complete (status : Status) (isCached : Bool) (error : Option String) :
    status.rank ≤ (status.complete isCached error).rank := by
  cases error with
  | some message => cases status <;> simp [rank, complete]
  | none => cases status <;> cases isCached <;> simp [rank, complete]

end Status

namespace Completion

/-- The report that a record makes. -/
def ofRecord? : Record → Option Completion
  | .completed _ cached error => some ⟨cached, error⟩
  | .declared .. | .started .. | .operated .. | .printed .. => none

/-- The error that was reported last. -/
def lastError (reports : List Completion) : Option String :=
  (reports.filterMap Completion.error).getLast?

/-- The status that all reports together give a step. -/
def strongest (reports : List Completion) : Status :=
  match lastError reports with
  | some message => .errored message
  | none =>
    if reports.any Completion.cached then .cached else if reports = [] then .active else .done

theorem lastError_concat (reports : List Completion) (report : Completion) :
    lastError (reports ++ [report]) = report.error.or (lastError reports) := by
  unfold lastError
  rw [List.filterMap_append]
  cases failed : report.error with
  | none =>
      rw [List.filterMap_cons_none failed, List.filterMap_nil, List.append_nil, Option.none_or]
  | some message =>
      rw [List.filterMap_cons_some failed, List.filterMap_nil, List.getLast?_concat, Option.some_or]

/-- One more report revises the status. -/
theorem strongest_concat (reports : List Completion) (report : Completion) :
    strongest (reports ++ [report]) = (strongest reports).complete report.cached report.error := by
  unfold strongest
  rw [lastError_concat, List.any_append, List.any_cons, List.any_nil, Bool.or_false,
    if_neg (List.append_ne_nil_of_right_ne_nil reports (List.cons_ne_nil report []))]
  cases report.error with
  | some message => rfl
  | none =>
      rw [Option.none_or]
      cases lastError reports with
      | some message => rfl
      | none =>
          by_cases hit : reports.any Completion.cached
          · rw [if_pos hit, hit, Bool.true_or]
            rfl
          · rw [if_neg hit, Bool.eq_false_of_not_eq_true hit, Bool.false_or]
            by_cases first : reports = []
            · rw [if_pos first]
              rfl
            · rw [if_neg first]
              rfl

/-- The order of the reports counts for the last error only. -/
theorem strongest_of_perm {reports other : List Completion} (same : other.Perm reports)
    (error : lastError other = lastError reports) : strongest other = strongest reports := by
  have cached : other.any Completion.cached = reports.any Completion.cached := same.any_eq
  have none : other = [] ↔ reports = [] := by
    rw [← List.length_eq_zero_iff, same.length_eq, List.length_eq_zero_iff]
  unfold strongest
  rw [error, cached]
  simp only [none]

theorem strongest_eq_active_iff {reports : List Completion} :
    strongest reports = .active ↔ reports = [] := by
  constructor
  · intro active
    unfold strongest at active
    split at active
    · cases active
    · split at active
      · cases active
      · split at active
        · assumption
        · cases active
  · rintro rfl
    rfl

end Completion

/-- A record changes the status of a step that is not sealed by the report it makes. -/
theorem Step.status_take (step : Step) (record : Record) :
    (step.take record).status =
      match Completion.ofRecord? record with
      | some report =>
        if step.isSealed then step.status else step.status.complete report.cached report.error
      | none => step.status := by
  cases record with
  | declared vertex name =>
      dsimp only [take, rename, Completion.ofRecord?]
      split <;> rfl
  | started vertex time => rfl
  | completed vertex cached error => exact apply_ite Step.status _ _ _
  | operated vertex text current total isStarted isCompleted =>
      obtain ⟨lines, finished, downloads, result⟩ :=
        step.operate_eq text current total isCompleted
      dsimp only [take, Completion.ofRecord?]
      rw [result]
      split <;> rfl
  | printed vertex time data =>
      obtain ⟨lines, result⟩ := step.print_eq time data
      dsimp only [take, Completion.ofRecord?]
      rw [result]
      split <;> rfl

namespace Tracker

open Completion (strongest lastError)

/-- The reports that a step has taken in about the end of its vertex. -/
def reportsOf (step : Step) (changes : List Change) : List Completion :=
  (intake step.vertex step.index changes).filterMap Completion.ofRecord?

theorem kept_status :
    Kept fun step records => step.status = strongest (records.filterMap Completion.ofRecord?) where
  begins := fun _ _ _ => rfl
  takes := by
    intro step records record unsealed _ status
    rw [Step.status_take, List.filterMap_append]
    cases reports : Completion.ofRecord? record with
    | none =>
        rw [List.filterMap_cons_none reports, List.filterMap_nil, List.append_nil]
        exact status
    | some report =>
        rw [List.filterMap_cons_some reports, List.filterMap_nil, Completion.strongest_concat,
          ← status]
        exact if_neg (Bool.eq_false_iff.mp unsealed)
  renamed := by
    intro step records name status
    unfold Step.rename
    split <;> exact status
  closed := id
  startedLate := fun _ _ => id

theorem Valid.mem_active_of_mem {tracker : Tracker} (valid : tracker.Valid) {step : Step}
    (member : step ∈ tracker.steps) : step.index ∈ tracker.active ↔ step.status = .active := by
  rw [valid.mem_active_iff]
  constructor
  · rintro ⟨other, present, same, active⟩
    have found := valid.step?_index present
    rw [same, valid.step?_index member] at found
    rw [Option.some.inj found, active]
  · intro active
    exact ⟨step, member, rfl, active⟩

/-- A status never moves down. -/
theorem rank_le_undergo (step : Step) (change : Change) :
    step.status.rank ≤ (step.undergo change).status.rank := by
  cases change with
  | sealStep index =>
      dsimp only [Step.undergo]
      split <;> exact Nat.le_refl _
  | apply record =>
      dsimp only [Step.undergo]
      split
      · rw [Step.status_take]
        split
        · split
          · exact Nat.le_refl _
          · exact Status.rank_le_complete ..
        · exact Nat.le_refl _
      · exact Nat.le_refl _

/-- **The strongest report.** The status of a step comes from the reports about the end of its
vertex that it has taken in: it failed with the last error if any report has one, else it
comes from the cache if any report says so, else it is done if there is a report at all. So
any two steps with the same reports and the same last error have the same status. A step is
active as long as there is no report, and whatever is done next its status does not move down. -/
theorem run_strongest (changes : List Change) :
    ∀ step ∈ (run changes).steps,
      step.status = strongest (reportsOf step changes) ∧
        (∀ (history : List Change), ∀ other ∈ (run history).steps,
          (reportsOf other history).Perm (reportsOf step changes) →
          lastError (reportsOf other history) = lastError (reportsOf step changes) →
            other.status = step.status) ∧
        (step.index ∈ (run changes).active ↔ reportsOf step changes = []) ∧
        ∀ next : Change, ∃ later ∈ (run (changes ++ [next])).steps,
          later.vertex = step.vertex ∧ later.index = step.index ∧
            step.status.rank ≤ later.status.rank := by
  intro step member
  have status := kept_status.run changes step member
  refine ⟨status, ?_, ?_, ?_⟩
  · intro history other present same error
    rw [status, kept_status.run history other present]
    exact Completion.strongest_of_perm same error
  · rw [(booked_run changes).valid.mem_active_of_mem member, status]
    exact Completion.strongest_eq_active_iff
  · intro next
    exact ⟨step.undergo next, undergo_mem_run member next, step.vertex_undergo next,
      step.index_undergo next, rank_le_undergo step next⟩

/-- A vertex that ends, is found to have been cached, and fails twice, the second time when its
step is sealed already. -/
def revised : List Change :=
  [.apply (.declared "a" "build"), .sealStep 1, .apply (.completed "a" false none),
    .apply (.completed "a" true none), .apply (.completed "a" false (some "exit code: 1")),
    .apply (.completed "a" false none), .sealStep 1,
    .apply (.completed "a" false (some "exit code: 2"))]

theorem run_strongest_revised :
    ∃ step ∈ (run revised).steps,
      reportsOf step revised =
          [⟨false, none⟩, ⟨true, none⟩, ⟨false, some "exit code: 1"⟩, ⟨false, none⟩] ∧
        step.status = .errored "exit code: 1" ∧ step.index ∉ (run revised).active := by
  have only : (run revised).steps.map (fun step => (step.vertex, step.index)) = [("a", 1)] := by
    decide +kernel
  obtain ⟨step, member, same⟩ := List.mem_map.mp (only ▸ List.mem_singleton_self ("a", 1))
  have reports : reportsOf step revised =
      [⟨false, none⟩, ⟨true, none⟩, ⟨false, some "exit code: 1"⟩, ⟨false, none⟩] := by
    rw [reportsOf, (Prod.mk.inj same).1, (Prod.mk.inj same).2]
    decide +kernel
  obtain ⟨status, -, active, -⟩ := run_strongest revised step member
  refine ⟨step, member, reports, ?_, ?_⟩
  · rw [status, reports]
    decide
  · rw [active, reports]
    exact List.cons_ne_nil _ _

end Tracker

end ContainerTasks.Progress
