import ContainerTasks.Daemon.Engine
import ContainerTasks.Program.Complaint

/-! # The state of the program

What the program works on and what it has printed so far.
-/

namespace ContainerTasks.Program

/-- What the program finds when it starts. -/
structure Surroundings (δ : Type) where
  /-- The directory that relative paths are seen from. -/
  directory : String
  home : Option String
  environment : List (String × String)
  /-- The daemon that listens on a socket. -/
  daemon? : (socket : String) → Option (Daemon.Behaviour δ)

/-- The state of the program on a daemon with states `δ`. -/
structure State (δ : Type) where
  store : Files.FileStore
  session : Daemon.Session δ
  /-- What was printed, text by text. -/
  printed : List Bytes := []
  /-- What was printed to the error output. -/
  warned : String := ""

/-- Why the program ends before it has done what it was asked for. -/
inductive Stop
  | complaint (said : Complaint)
  | breakdown (cause : Breakdown)
deriving DecidableEq, Repr

namespace Stop

/-- The exit status. -/
def status : Stop → Nat
  | complaint _ => 1
  | breakdown _ => 101

/-- What is printed about it. -/
def text : Stop → String
  | complaint said => said.text
  | breakdown cause => cause.message ++ "\n"

end Stop

/-- A part of what the program does. -/
abbrev Step (δ α : Type) := ExceptT Stop (StateM (State δ)) α

variable {δ α : Type}

/-- Changes the state. -/
def change (update : State δ → State δ) : Step δ Unit :=
  ExceptT.lift (modify update)

/-- The state. -/
def current : Step δ (State δ) :=
  ExceptT.lift get

/-- Prints a text. -/
def print (text : String) : Step δ Unit :=
  change fun state => { state with printed := state.printed ++ [Text.Utf8.ofString text] }

/-- Prints a text to the error output. -/
def warn (text : String) : Step δ Unit :=
  change fun state => { state with warned := state.warned ++ text }

/-- Has a conversation with the daemon. -/
def converse (talk : Daemon.Talk δ α) : Step δ α := do
  let state ← current
  let (answer, session) := Id.run (talk.run state.session)
  change fun state => { state with session }
  return answer

/-- Ends with a complaint. -/
def complain (complaint : Complaint) : Step δ α :=
  throw (.complaint complaint)

/-- Goes on with a result, or ends as what went wrong has it. -/
def orStop {ε : Type} (stop : ε → Stop) (result : Except ε α) : Step δ α :=
  ExceptT.mk (pure (result.mapError stop))

/-- Goes on with a result, or ends with a complaint about what went wrong. -/
def orComplain {ε : Type} (describe : ε → Complaint) (result : Except ε α) : Step δ α :=
  orStop (fun error => .complaint (describe error)) result

end ContainerTasks.Program
