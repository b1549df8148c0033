/-! # Histories of actions

What happens between two states can be seen as a sequence of items, such as the calls
that were made or the requests that were sent. An action records items if it adds such
to every state it begins in that they fit its answer; what a composite action records
follows from what its parts do.
-/

namespace ContainerTasks

variable {S ε ω α β : Type}

/-- The answer of an action and the state it leaves. -/
def outcome (action : StateM S α) (before : S) : α × S :=
  Id.run (action.run before)

/-- An action goes on from the answer of its first part and the state that this leaves. -/
theorem outcome_seq (first : StateM S α) (rest : α → StateM S β) (before : S) :
    outcome (first >>= rest) before =
      outcome (rest (outcome first before).1) (outcome first before).2 :=
  rfl

/-- What may fail goes on from its answer and the state it leaves, unless it fails. -/
theorem outcome_bind (first : ExceptT ω (StateM S) α) (rest : α → ExceptT ω (StateM S) β)
    (before : S) :
    outcome (first >>= rest).run before =
      match (outcome first.run before).1 with
      | .ok answer => outcome (rest answer).run (outcome first.run before).2
      | .error error => (.error error, (outcome first.run before).2) := by
  change outcome (match (outcome first.run before).1 with
    | .ok answer => (rest answer).run
    | .error error => pure (.error error)) (outcome first.run before).2 = _
  cases (outcome first.run before).1 with
  | ok answer => rfl
  | error error => rfl

/-- What is answered in the end depends on the last part of an attempt by its answers
only. -/
theorem answer_bind_congr {first : ExceptT ω (StateM S) α}
    {rest other : α → ExceptT ω (StateM S) β}
    (same : ∀ answer state,
      (outcome (rest answer).run state).1 = (outcome (other answer).run state).1) (before : S) :
    (outcome (first >>= rest).run before).1 = (outcome (first >>= other).run before).1 := by
  rw [outcome_bind, outcome_bind]
  cases (outcome first.run before).1 with
  | ok answer => exact same answer _
  | error error => rfl

/-- A view of what happens between two states as a sequence of items. -/
structure History (S ε : Type) where
  Adds : S → List ε → S → Prop
  refl : ∀ state, Adds state [] state
  append : ∀ {first middle last : S} {items more : List ε},
    Adds first items middle → Adds middle more last → Adds first (items ++ more) last

namespace History

/-- From every state an action adds items, which satisfy a condition together with its
answer. -/
def Records (history : History S ε) (action : StateM S α) (holds : α → List ε → Prop) : Prop :=
  ∀ before, ∃ items, history.Adds before items (outcome action before).2 ∧
    holds (outcome action before).1 items

/-- An action adds nothing but items of one kind. -/
def Confines (history : History S ε) (good : ε → Prop) (action : StateM S α) : Prop :=
  history.Records action fun _ items => ∀ item ∈ items, good item

namespace Records

variable {history : History S ε} {holds : α → List ε → Prop} {best : β → List ε → Prop}

theorem mono {action : StateM S α} {better : α → List ε → Prop}
    (records : history.Records action holds)
    (implies : ∀ answer items, holds answer items → better answer items) :
    history.Records action better := by
  intro before
  obtain ⟨items, adds, holding⟩ := records before
  exact ⟨items, adds, implies _ _ holding⟩

theorem pure {answer : α} (holding : holds answer []) : history.Records (pure answer) holds :=
  fun before => ⟨[], history.refl before, holding⟩

theorem bind {first : StateM S α} {rest : α → StateM S β}
    (records : history.Records first holds)
    (next : ∀ answer items, holds answer items →
      history.Records (rest answer) fun result more => best result (items ++ more)) :
    history.Records (first >>= rest) best := by
  intro before
  obtain ⟨items, adds, holding⟩ := records before
  obtain ⟨more, addsMore, reached⟩ := next _ items holding (outcome first before).2
  exact ⟨items ++ more, history.append adds addsMore, reached⟩

/-- What cannot fail does not, where it could. -/
theorem lifted {action : StateM S α} {best : Except ω α → List ε → Prop}
    (records : history.Records action fun answer => best (.ok answer)) :
    history.Records (ExceptT.lift action : ExceptT ω (StateM S) α).run best :=
  records

/-- After an action that cannot fail what may fail goes on from its answer. -/
theorem lift {action : StateM S α} {rest : α → ExceptT ω (StateM S) β}
    {best : Except ω β → List ε → Prop} (records : history.Records action holds)
    (next : ∀ answer items, holds answer items →
      history.Records (rest answer).run fun result more => best result (items ++ more)) :
    history.Records (ExceptT.lift action >>= rest).run best :=
  records.bind next

theorem throw {error : ω} {holds : Except ω α → List ε → Prop} (holding : holds (.error error) []) :
    history.Records (throw error : ExceptT ω (StateM S) α).run holds :=
  fun before => ⟨[], history.refl before, holding⟩

/-- An error ends what may fail; otherwise it goes on from the answer. -/
theorem attempt {first : ExceptT ω (StateM S) α} {rest : α → ExceptT ω (StateM S) β}
    {holds : Except ω α → List ε → Prop} {best : Except ω β → List ε → Prop}
    (records : history.Records first.run holds)
    (next : ∀ answer items, holds (.ok answer) items →
      history.Records (rest answer).run fun result more => best result (items ++ more))
    (stops : ∀ error items, holds (.error error) items → best (.error error) items) :
    history.Records (first >>= rest).run best := by
  rw [ExceptT.run_bind]
  refine records.bind ?_
  intro answer items holding
  cases answer with
  | ok answer => exact next answer items holding
  | error error =>
      refine .pure ?_
      rw [List.append_nil]
      exact stops error items holding

end Records

namespace Confines

variable {history : History S ε} {good : ε → Prop}

theorem pure {answer : α} : history.Confines good (pure answer) :=
  Records.pure (by simp)

theorem throw {error : ω} : history.Confines good (throw error : ExceptT ω (StateM S) α).run :=
  Records.throw (by simp)

theorem bind {first : StateM S α} {rest : α → StateM S β} (confines : history.Confines good first)
    (next : ∀ answer, history.Confines good (rest answer)) :
    history.Confines good (first >>= rest) := by
  refine Records.bind confines fun answer items within => (next answer).mono ?_
  exact fun _ more moreWithin => List.forall_mem_append.mpr ⟨within, moreWithin⟩

theorem attempt {first : ExceptT ω (StateM S) α} {rest : α → ExceptT ω (StateM S) β}
    (confines : history.Confines good first.run)
    (next : ∀ answer, history.Confines good (rest answer).run) :
    history.Confines good (first >>= rest).run := by
  rw [ExceptT.run_bind]
  refine confines.bind fun answer => ?_
  cases answer with
  | ok answer => exact next answer
  | error error => exact .pure

end Confines

end History

end ContainerTasks
