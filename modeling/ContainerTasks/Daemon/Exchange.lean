import ContainerTasks.Daemon.Query
import ContainerTasks.Daemon.StatusCode
import ContainerTasks.Engine.Fault
import ContainerTasks.Files.FileStore
import ContainerTasks.Json.Basic

/-! # Exchanges with a daemon

The daemon that runs containers takes requests and answers each of them; it is a
state machine. A session keeps its state and all requests in order. Where an answer
is of no use, a trouble says why.
-/

namespace ContainerTasks.Daemon

/-- What a request is sent with. -/
inductive Content
  | nothing
  | json (value : Json)
  /-- An archive of files and directories. -/
  | archive (entries : List (String × Files.Entry))

/-- A request. -/
structure Request where
  verb : String
  path : String
  parameters : List (String × String) := []
  content : Content := .nothing

namespace Request

/-- What a request goes by: its verb and its path. -/
def name (request : Request) : String :=
  request.verb ++ " " ++ request.path

/-- The address of a request: its path and its parameters. -/
def address (request : Request) : String :=
  if request.parameters.isEmpty then request.path
  else request.path ++ "?" ++ encodeQuery request.parameters

end Request

/-- What comes back for a request. -/
inductive Answer
  /-- The connection was closed without an answer. -/
  | dropped
  /-- An answer; `isCut` if the connection was closed before its end. -/
  | received (status : Nat) (body : Bytes) (isCut : Bool)
deriving DecidableEq, Repr

/-- An answer as it arrives. What a daemon sends with a status that has no body is
not read. -/
def Answer.arrived : Answer → Answer
  | .received status body isCut =>
    if StatusCode.hasBody status then .received status body isCut
    else .received status [] false
  | .dropped => .dropped

/-- How a daemon answers, given its state. -/
abbrev Behaviour (δ : Type) := Request → δ → Answer × δ

/-- A daemon's state and what it was sent. -/
structure Session (δ : Type) where
  state : δ
  sent : List Request := []

/-- Why an answer is of no use. -/
inductive Trouble
  | noConnection
  /-- Reading broke off. -/
  | brokenOff
  /-- The answer cannot be understood. -/
  | undecodable
  /-- The daemon refused. -/
  | status (code : Nat) (text : String)
  /-- The daemon reported an error in the course of its answer. -/
  | stream
deriving DecidableEq, Repr

/-- The wording of a trouble. -/
def Trouble.message : Trouble → String
  | noConnection => "connection closed before message completed"
  | brokenOff => "error reading a body from connection"
  | undecodable => "the answer of the daemon cannot be understood"
  | .status code text => "Docker responded with status code " ++ toString code ++ ": " ++ text
  | stream => "Docker stream error"

/-- Why a call to the daemon failed, and the trouble that it comes from, if any. -/
structure Failure where
  fault : Engine.Fault
  trouble : Option Trouble := none
deriving DecidableEq, Repr

/-- A conversation with a daemon. -/
abbrev Talk (δ α : Type) := StateM (Session δ) α

/-- A conversation that may get into trouble. -/
abbrev Errand (δ α : Type) := ExceptT Trouble (StateM (Session δ)) α

variable {δ α : Type}

/-- Sends a request. -/
def send (behaviour : Behaviour δ) (request : Request) : Talk δ Answer := do
  let session ← get
  let (answer, state) := behaviour request session.state
  set { state, sent := session.sent ++ [request] : Session δ }
  return answer.arrived

/-- The failure that a trouble means. -/
def blame (fault : String → Engine.Fault) (trouble : Trouble) : Failure :=
  ⟨fault trouble.message, some trouble⟩

/-- Runs an errand; a trouble becomes a failure. -/
def Errand.settle (errand : Errand δ α) (fault : String → Engine.Fault) :
    Talk δ (Except Failure α) := do
  return (← errand.run).mapError (blame fault)

end ContainerTasks.Daemon
