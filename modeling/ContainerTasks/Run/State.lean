import ContainerTasks.Engine.Basic
import ContainerTasks.Journal
import ContainerTasks.Run.Error

/-! # The state of a run

A run changes the state of the engine, writes output and the journal, and may be
cancelled. Its trace holds every call to the engine, when it began and when it
ended, in the order in which this happened.
-/

namespace ContainerTasks.Run

/-- A call to the engine. -/
inductive Call
  | pull (image : String)
  | build (request : Engine.BuildRequest)
  | start (request : Engine.StartRequest)
  | logs (name : String)
  | wait (name : String)
  | stop (name : String) (timeout : Int)
  | remove (name : String)

/-- What a trace holds. -/
inductive Mark
  /-- A call was made; the truth value says whether the run was cancelled by then. -/
  | began (call : Call) (cancelled : Bool)
  /-- A call was answered, with a fault if it failed. -/
  | ended (call : Call) (fault : Option Engine.Fault)

/-- The state of a run on an engine with states `σ`. -/
structure State (σ : Type) where
  engine : σ
  cancelled : Bool := false
  trace : List Mark := []
  /-- What was written to the output, write by write. -/
  output : List Bytes := []
  journal : List Journal.Entry := []

/-- Something that happens in a run. -/
abbrev Action (σ α : Type) := StateM (State σ) α

/-- Something in a run that may end it. -/
abbrev Attempt (σ α : Type) := ExceptT Error (StateM (State σ)) α

variable {σ α : Type}

/-- Lets something happen that does not end the run. -/
def perform (action : Action σ α) : Attempt σ α :=
  ExceptT.lift action

/-- Adds an entry to the journal. -/
def note (level : Journal.Level) (message : String) (fields : List (String × String)) :
    Action σ Unit :=
  modify fun state => { state with journal := state.journal ++ [⟨level, message, fields⟩] }

/-- Adds a mark to the trace. -/
def mark (mark : Mark) : Action σ Unit :=
  modify fun state => { state with trace := state.trace ++ [mark] }

/-- Cancels the run. -/
def cancel : Action σ Unit :=
  modify fun state => { state with cancelled := true }

/-- Takes an answer from the engine. -/
def ask (question : σ → Engine.Reply σ α) : Action σ α := do
  let state ← get
  let reply := question state.engine
  set { state with engine := reply.state, cancelled := state.cancelled || reply.cancels }
  return reply.value

/-- Makes a call that begins work. -/
def beginCall (call : Call) (question : σ → Engine.Reply σ α) : Action σ α := do
  let answer ← ask question
  mark (.began call (← get).cancelled)
  return answer

/-- Takes the answer that ends a call. -/
def endCall (call : Call) (question : σ → Engine.Reply σ (Except Engine.Fault α)) :
    Action σ (Except Engine.Fault α) := do
  let answer ← ask question
  match answer with
  | .ok _ => mark (.ended call none)
  | .error fault => mark (.ended call (some fault))
  return answer

/-- Makes a call and takes its answer. -/
def call (call : Call) (question : σ → Engine.Reply σ (Except Engine.Fault α)) :
    Action σ (Except Engine.Fault α) := do
  let answer ← beginCall call question
  match answer with
  | .ok _ => mark (.ended call none)
  | .error fault => mark (.ended call (some fault))
  return answer

/-- Writes to the output unless there is nothing to write; the answer is the reason
why it could not be written. `writeFault` gives it by the number of writes before. -/
def write (writeFault : Nat → Option String) (content : Bytes) : Action σ (Option String) := do
  if content.isEmpty then return none
  let state ← get
  match writeFault state.output.length with
  | some reason => return some reason
  | none =>
    set { state with output := state.output ++ [content] }
    return none

end ContainerTasks.Run
