/-! # Outcomes of computations that may fail

A computation settles when its result is as wanted or its error is a justified one.
The outcome of taking steps one after another follows from what each step does to an
invariant over the items that have been dealt with.
-/

namespace ContainerTasks

variable {ε α β : Type}

/-- What succeeds in two parts succeeds in both. -/
theorem exists_of_bind_eq_ok {outcome : Except ε α} {rest : α → Except ε β}
    {result : β} (succeeds : outcome >>= rest = .ok result) :
    ∃ middle, outcome = .ok middle ∧ rest middle = .ok result := by
  cases outcome with
  | ok middle => exact ⟨middle, rfl, succeeds⟩
  | error fault => cases succeeds

theorem ok_of_mapError {ω : Type} {outcome : Except ε α} {change : ε → ω} {result : α}
    (succeeds : outcome.mapError change = .ok result) : outcome = .ok result := by
  cases outcome with
  | ok other =>
      cases succeeds
      rfl
  | error fault => cases succeeds

theorem ok_of_toOption {outcome : Except ε α} {result : α}
    (succeeds : outcome.toOption = some result) : outcome = .ok result := by
  cases outcome with
  | ok other => rw [Option.some.inj succeeds]
  | error fault => cases succeeds

/-- The outcome satisfies one property if it is a result and the other if it is an
error. -/
def Settles (good : α → Prop) (bad : ε → Prop) : Except ε α → Prop
  | .ok result => good result
  | .error error => bad error

namespace Settles

variable {good : α → Prop} {bad : ε → Prop}

theorem mono {better : α → Prop} {outcome : Except ε α} (settles : Settles good bad outcome)
    (implies : ∀ result, good result → better result) : Settles better bad outcome := by
  cases outcome with
  | ok result => exact implies result settles
  | error error => exact settles

/-- A justified error ends a computation; otherwise it goes on from the result. -/
theorem bind {best : β → Prop} {outcome : Except ε α} {rest : α → Except ε β}
    (settles : Settles good bad outcome)
    (next : ∀ result, good result → Settles best bad (rest result)) :
    Settles best bad (outcome >>= rest) := by
  cases outcome with
  | ok result => exact next result settles
  | error error => exact settles

/-- An invariant of the items dealt with so far that every step keeps holds of all
items in the end. -/
theorem foldlM {step : β → α → Except ε β} (kept : List α → β → Prop) :
    ∀ (rest done : List α) (state : β), kept done state →
      (∀ done item state, item ∈ rest → kept done state →
        Settles (kept (done ++ [item])) bad (step state item)) →
      Settles (kept (done ++ rest)) bad (rest.foldlM step state) := by
  intro rest
  induction rest with
  | nil =>
      intro done state holds _
      change kept (done ++ []) state
      rwa [List.append_nil]
  | cons item rest ih =>
      intro done state holds steps
      rw [List.foldlM_cons]
      refine (steps done item state List.mem_cons_self holds).bind ?_
      intro after keeps
      have later := ih (done ++ [item]) after keeps fun done other state member =>
        steps done other state (List.mem_cons_of_mem _ member)
      simpa using later

end Settles

end ContainerTasks
