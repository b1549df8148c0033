import ContainerTasks.Proofs.History
import ContainerTasks.Run.State

/-! # What calls to the engine add

Nothing but a call to the engine adds to a view of a run (`CallHistory`): first what the
engine does, then the marks that the call leaves in the trace. All else that happens in a
run is silent (`Silent`).
-/

namespace ContainerTasks.Run

variable {σ ε α β : Type}

/-- A view of runs that only calls to the engine add to. -/
structure CallHistory (σ ε : Type) extends History (State σ) ε where
  /-- What a mark in the trace adds. -/
  marks : Mark → List ε
  marked : ∀ (before : State σ) (entry : Mark),
    Adds before (marks entry) { before with trace := before.trace ++ [entry] }
  idle : ∀ {before after : State σ}, after.engine = before.engine → after.trace = before.trace →
    Adds before [] after

/-- An action makes no call to the engine. -/
def Silent (action : Action σ α) : Prop :=
  ∀ before, (outcome action before).2.engine = before.engine ∧
    (outcome action before).2.trace = before.trace

namespace Silent

theorem records {action : Action σ α} {history : CallHistory σ ε} {holds : α → List ε → Prop}
    (silent : Silent action) (holding : ∀ answer, holds answer []) :
    history.Records action holds :=
  fun before => ⟨[], history.idle (silent before).1 (silent before).2, holding _⟩

theorem confines {action : Action σ α} {history : CallHistory σ ε} {good : ε → Prop}
    (silent : Silent action) : history.Confines good action :=
  silent.records (by simp)

/-- What follows on a silent action adds all that both do. -/
theorem bind_records {first : Action σ α} {rest : α → Action σ β} {history : CallHistory σ ε}
    {holds : β → List ε → Prop} (silent : Silent first)
    (next : ∀ answer, history.Records (rest answer) holds) :
    history.Records (first >>= rest) holds := by
  have nothing : history.Records first fun _ items => items = [] := silent.records fun _ => rfl
  refine nothing.bind ?_
  rintro answer _ rfl
  exact next answer

theorem lift_records {action : Action σ α} {rest : α → Attempt σ β} {history : CallHistory σ ε}
    {holds : Except Error β → List ε → Prop} (silent : Silent action)
    (next : ∀ answer, history.Records (rest answer).run holds) :
    history.Records (Run.perform action >>= rest).run holds :=
  silent.bind_records next

/-- A silent action adds nothing to what the one before it adds. -/
theorem after_records {first : Action σ α} {rest : α → Action σ β} {history : CallHistory σ ε}
    {holds : List ε → Prop} (records : history.Records first fun _ => holds)
    (silent : ∀ answer, Silent (rest answer)) : history.Records (first >>= rest) fun _ => holds := by
  refine records.bind fun answer items holding => (silent answer).records fun _ => ?_
  rwa [List.append_nil]

theorem pure {answer : α} : Silent (σ := σ) (pure answer) :=
  fun _ => ⟨rfl, rfl⟩

theorem bind {first : Action σ α} {rest : α → Action σ β} (silent : Silent first)
    (next : ∀ answer, Silent (rest answer)) : Silent (first >>= rest) := by
  intro before
  obtain ⟨engine, trace⟩ := silent before
  obtain ⟨laterEngine, laterTrace⟩ := next (outcome first before).1 (outcome first before).2
  exact ⟨laterEngine.trans engine, laterTrace.trans trace⟩

theorem attempt {first : Attempt σ α} {rest : α → Attempt σ β} (silent : Silent first.run)
    (next : ∀ answer, Silent (rest answer).run) : Silent (first >>= rest).run := by
  rw [ExceptT.run_bind]
  refine silent.bind fun answer => ?_
  cases answer with
  | ok answer => exact next answer
  | error error => exact .pure

theorem perform {action : Action σ α} (silent : Silent action) : Silent (perform action).run :=
  silent

theorem throw {error : Error} : Silent (σ := σ) (throw error : Attempt σ α).run :=
  fun _ => ⟨rfl, rfl⟩

theorem get : Silent (σ := σ) MonadState.get :=
  fun _ => ⟨rfl, rfl⟩

/-- What looks at the state first only has to be silent from there. -/
theorem of_get {rest : State σ → Action σ α}
    (next : ∀ state, (outcome (rest state) state).2.engine = state.engine ∧
      (outcome (rest state) state).2.trace = state.trace) : Silent (MonadState.get >>= rest) :=
  next

end Silent

theorem note_silent (level : Journal.Level) (message : String) (fields : List (String × String)) :
    Silent (σ := σ) (note level message fields) :=
  fun _ => ⟨rfl, rfl⟩

theorem cancel_silent : Silent (σ := σ) cancel :=
  fun _ => ⟨rfl, rfl⟩

theorem write_silent (writeFault : Nat → Option String) (content : Bytes) :
    Silent (σ := σ) (write writeFault content) := by
  unfold write
  split
  · exact .pure
  · refine .of_get fun state => ?_
    cases writeFault state.output.length with
    | none => exact ⟨rfl, rfl⟩
    | some reason => exact ⟨rfl, rfl⟩

/-- The fault of an answer, if it is one. -/
def faultOf : Except Engine.Fault α → Option Engine.Fault
  | .ok _ => none
  | .error fault => some fault

namespace CallHistory

variable {history : CallHistory σ ε} {asked holds : α → List ε → Prop}

theorem mark_records (entry : Mark) :
    history.Records (mark entry) fun _ items => items = history.marks entry :=
  fun before => ⟨_, history.marked before entry, rfl⟩

/-- A call that begins work adds what the engine does, and a mark. -/
theorem beginCall_records {call : Call} {question : σ → Engine.Reply σ α}
    (asks : history.Records (ask question) asked)
    (fits : ∀ answer items cancelled, asked answer items →
      holds answer (items ++ history.marks (.began call cancelled))) :
    history.Records (beginCall call question) holds := by
  refine asks.bind fun answer items holding => Silent.get.bind_records fun state => ?_
  refine (mark_records _).bind ?_
  rintro _ _ rfl
  refine .pure ?_
  rw [List.append_nil]
  exact fits answer items _ holding

theorem answered_records (call : Call) (answer : Except Engine.Fault α) :
    history.Records
      (do
        match answer with
        | .ok _ => mark (.ended call none)
        | .error fault => mark (.ended call (some fault))
        return answer)
      fun result items => result = answer ∧ items = history.marks (.ended call (faultOf answer)) := by
  cases answer with
  | ok value =>
      refine (mark_records _).bind ?_
      rintro _ _ rfl
      exact .pure ⟨rfl, List.append_nil _⟩
  | error fault =>
      refine (mark_records _).bind ?_
      rintro _ _ rfl
      exact .pure ⟨rfl, List.append_nil _⟩

variable {told wanted : Except Engine.Fault α → List ε → Prop} {call : Call}
  {question : σ → Engine.Reply σ (Except Engine.Fault α)}

/-- The end of a call adds what the engine does, and a mark with the fault, if any. -/
theorem endCall_records (asks : history.Records (ask question) told)
    (fits : ∀ answer items, told answer items →
      wanted answer (items ++ history.marks (.ended call (faultOf answer)))) :
    history.Records (endCall call question) wanted := by
  refine asks.bind fun answer items holding => (answered_records call answer).mono ?_
  rintro _ _ ⟨rfl, rfl⟩
  exact fits _ items holding

/-- A call adds what the engine does and two marks, whatever it is answered. -/
theorem call_records (asks : history.Records (ask question) told)
    (fits : ∀ answer items cancelled, told answer items →
      wanted answer (items ++ (history.marks (.began call cancelled) ++
        history.marks (.ended call (faultOf answer))))) :
    history.Records (Run.call call question) wanted := by
  have begins : history.Records (beginCall call question) fun answer items =>
      ∃ said cancelled, told answer said ∧
        items = said ++ history.marks (.began call cancelled) :=
    beginCall_records asks fun answer said cancelled holding => ⟨said, cancelled, holding, rfl⟩
  refine begins.bind ?_
  rintro answer _ ⟨said, cancelled, holding, rfl⟩
  refine (answered_records call answer).mono ?_
  rintro _ _ ⟨rfl, rfl⟩
  rw [List.append_assoc]
  exact fits _ said cancelled holding

end CallHistory

end ContainerTasks.Run
