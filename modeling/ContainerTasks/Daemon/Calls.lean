import ContainerTasks.Daemon.LogFrames

/-! # Calls to a daemon

What an engine is asked for, as requests to a daemon and readings of its answers.
-/

namespace ContainerTasks.Daemon

variable {δ : Type}

/-- The version that a daemon reports. -/
def version? (json : Json) : Option (Option String) := do
  Json.optional? Json.text? (Json.lookup "Version" (← json.objectFields? ["Version"]))

/-- The name that a daemon gives to an image. -/
def imageId? (json : Json) : Option (Option String) := do
  Json.optional? Json.text? (Json.lookup "Id" (← json.objectFields? ["Id"]))

/-- The name that a daemon gives to a container it has created. -/
def createdId? (json : Json) : Option String := do
  let fields ← json.fields? ["Id", "Warnings"]
  let id ← (Json.lookup "Id" fields).bind Json.text?
  match ← Json.lookup "Warnings" fields with
  | .null => return id
  | .array warnings => if warnings.all fun warning => warning.text?.isSome then return id else none
  | _ => none

/-- The exit code in the state of a container. -/
def stateExitCode? (json : Json) : Option (Option Int) := do
  Json.optional? Json.signed? (Json.lookup "ExitCode" (← json.objectFields? ["ExitCode"]))

/-- The exit code of a container. -/
def exitCode? (json : Json) : Option (Option Int) := do
  let state ← Json.optional? stateExitCode? (Json.lookup "State" (← json.objectFields? ["State"]))
  return state.join

/-- The detail of an error. -/
def errorDetail? (json : Json) : Option Unit := do
  let fields ← json.fields? ["code", "message"]
  let _ ← Json.optional? Json.signed? (Json.lookup "code" fields)
  let _ ← Json.optional? Json.text? (Json.lookup "message" fields)

/-- The detail of a progress report. -/
def progressDetail? (json : Json) : Option Unit := do
  let fields ← json.fields? ["current", "total"]
  let _ ← Json.optional? Json.signed? (Json.lookup "current" fields)
  let _ ← Json.optional? Json.signed? (Json.lookup "total" fields)

/-- What a line about a pull reports: an error, if any. -/
def pullLine? (json : Json) : Option (Option String) := do
  let fields ← json.fields? ["id", "error", "errorDetail", "status", "progress", "progressDetail"]
  let text (name : String) := Json.optional? Json.text? (Json.lookup name fields)
  let _ ← text "id"
  let error ← text "error"
  let _ ← Json.optional? errorDetail? (Json.lookup "errorDetail" fields)
  let _ ← text "status"
  let _ ← text "progress"
  let _ ← Json.optional? progressDetail? (Json.lookup "progressDetail" fields)
  return error

/-- An outcome as an errand. -/
def outcome {α : Type} (result : Except Trouble α) : Errand δ α :=
  ExceptT.mk (pure result)

/-- What is said about a daemon that cannot be reached. -/
def unreachable (reason : String) : Engine.Fault :=
  .connection (reason ++ "; Make sure the Docker daemon is installed and running.")

/-- Finds out whether a daemon can be reached. -/
def connect (behaviour : Behaviour δ) : Talk δ (Except Failure Unit) :=
  Errand.settle
    (do
      let delivery ← request behaviour { verb := "GET", path := "/version" }
      let _ ← outcome (delivery.json version?))
    unreachable

/-- Pulls an image; the answer names it. -/
def pull (behaviour : Behaviour δ) (image : String) : Talk δ (Except Failure String) :=
  Errand.settle
    (do
      let delivery ← request behaviour
        { verb := "POST", path := "/images/create", parameters := [("fromImage", image)] }
      let lines ← outcome ((delivery.lines pullLine?).mapM id)
      if lines.any Option.isSome then throw .stream
      let delivery ← request behaviour { verb := "GET", path := "/images/" ++ image ++ "/json" }
      return (← outcome (delivery.json imageId?)).getD image)
    fun reason => .noSuchImage (image ++ "; " ++ reason)

/-- The path of a container. -/
def containerPath (name : String) : String :=
  "/containers/" ++ name

/-- The request to remove a container. -/
def removal (name : String) : Request where
  verb := "DELETE"
  path := containerPath name
  parameters := [("force", "true"), ("v", "true")]

/-- The request to create a container. -/
def creation (start : Engine.StartRequest) : Request where
  verb := "POST"
  path := "/containers/create"
  parameters := [("name", start.name)]
  content := .json (.object (
    [("Image", .string start.image),
      ("Env", .array (start.environment.toList.map fun (name, value) =>
        .string (environmentEntry name value)))] ++
    (start.command.toList.map fun command => ("Cmd", .array (command.map .string))) ++
    (start.workingDirectory.toList.map fun directory => ("WorkingDir", .string directory))))

/-- Creates and starts a container in place of one of the same name; the answer is the
daemon's name for it. -/
def start (behaviour : Behaviour δ) (start : Engine.StartRequest) :
    Talk δ (Except Failure String) := do
  let _ ← (request behaviour (removal start.name)).run
  Errand.settle
    (do
      let delivery ← request behaviour (creation start)
      let id ← outcome (delivery.json createdId?)
      let _ ← request behaviour { verb := "POST", path := containerPath start.name ++ "/start" }
      return id)
    .unknown

/-- Waits for a container to exit; the answer is its exit code. How the waiting ends
does not matter, since the container knows the code. -/
def wait (behaviour : Behaviour δ) (name : String) : Talk δ (Except Failure Int) := do
  let _ ← (request behaviour { verb := "POST", path := containerPath name ++ "/wait" }).run
  let code ← Errand.settle
    (do
      let delivery ← request behaviour { verb := "GET", path := containerPath name ++ "/json" }
      outcome (delivery.json exitCode?))
    .noSuchContainer
  match code with
  | .error failure => return .error failure
  | .ok (some code) => return .ok code
  | .ok none => return .error ⟨.unknown ("container " ++ name ++ " has no exit code"), none⟩

/-- Stops a container, which has some seconds before it is killed. -/
def stop (behaviour : Behaviour δ) (name : String) (timeout : Int) :
    Talk δ (Except Failure Unit) :=
  Errand.settle
    (do
      let _ ← request behaviour
        { verb := "POST", path := containerPath name ++ "/stop"
          parameters := [("t", toString timeout)] })
    .unknown

/-- Removes a container. -/
def remove (behaviour : Behaviour δ) (name : String) : Talk δ (Except Failure Unit) :=
  Errand.settle (do let _ ← request behaviour (removal name)) .noSuchContainer

/-- The logs of a container until it exits. -/
def logs (behaviour : Behaviour δ) (name : String) :
    Talk δ (List (Except Failure Engine.LogItem)) := do
  let delivery ← (request behaviour
    { verb := "GET", path := containerPath name ++ "/logs"
      parameters := [("follow", "true"), ("stderr", "true"), ("stdout", "true")] }).run
  let items : List (Except Trouble Engine.LogItem) :=
    match delivery with
    | .error trouble => [.error trouble]
    | .ok delivery => delivery.logs
  return items.map fun item => item.mapError (blame .noSuchContainer)

end ContainerTasks.Daemon
