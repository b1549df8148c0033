import ContainerTasks.Daemon.BuildContext
import ContainerTasks.Daemon.Calls
import ContainerTasks.Engine.Basic
import ContainerTasks.Progress.Response

/-! # Building images

A build request carries an archive of the directory to build from. The daemon has
two builders. The answer of the newer one reports the steps of a build and is read
by `Progress.Response`; the answer of the older one is lines of text that ends with
the name of the image. How the lines of the older builder are handed over is left to the
client: usually a line that reports an error comes as a trouble.
-/

namespace ContainerTasks.Daemon

open Engine (BuildRequest Fault)
open Progress (Effect Event)
open Progress.Response (Conditions writeCount)

/-- A line from the older builder. -/
structure BuildLine where
  text : String
  error : Option String
  image : Option String
deriving DecidableEq, Repr

/-- The name of an image in a line from the older builder. -/
def builtImage? (json : Json) : Option (Option String) := do
  Json.optional? Json.text? (Json.lookup "ID" (← json.fields? ["ID"]))

/-- What a line from the older builder says. -/
def buildLine? (json : Json) : Option BuildLine := do
  let fields ← json.fields?
    ["id", "stream", "error", "errorDetail", "status", "progress", "progressDetail", "aux"]
  let text (name : String) := Json.optional? Json.text? (Json.lookup name fields)
  let _ ← text "id"
  let stream ← text "stream"
  let error ← text "error"
  let _ ← Json.optional? errorDetail? (Json.lookup "errorDetail" fields)
  let _ ← text "status"
  let _ ← text "progress"
  let _ ← Json.optional? progressDetail? (Json.lookup "progressDetail" fields)
  let image ← Json.optional? builtImage? (Json.lookup "aux" fields)
  return { text := stream.getD "", error, image := image.join }

/-- A line that reports no error. -/
def soundLine (line : Except Trouble BuildLine) : Except Trouble BuildLine :=
  match line with
  | .ok line => if line.error.isSome then .error .stream else .ok line
  | .error trouble => .error trouble

/-- Access to a daemon. -/
structure Client (δ : Type) where
  behaviour : Behaviour δ
  /-- The files that images are built from. -/
  store : Files.FileStore
  /-- Uses the newer builder. -/
  buildkit : Bool := true
  /-- Writes text from the newer builder as it is. -/
  passthrough : Bool := false
  /-- What is handed over of a line from the older builder. -/
  handed : Except Trouble BuildLine → Except Trouble BuildLine := soundLine

/-- The outcome of a build: what was written and which events were raised, in order,
and the image. -/
structure BuildReport where
  trail : List Effect := []
  result : Except Failure String

/-- A build that failed before anything happened. -/
def BuildReport.failed (fault : Fault) (trouble : Option Trouble := none) : BuildReport :=
  { result := .error ⟨fault, trouble⟩ }

/-- The fault of a build that ends without an image. -/
def noImage : Fault :=
  .unknown "build finished without the daemon reporting an image"

/-- The arguments of a build as one parameter. -/
def argumentsText (arguments : TextMap) : String :=
  (Json.object (arguments.toList.map fun (name, value) => (name, .string value))).render

/-- The request for a build by the newer builder. -/
def stepBuild (build : BuildRequest) (context : List (String × Files.Entry)) : Request where
  verb := "POST"
  path := "/build"
  parameters :=
    [("version", "2"), ("t", build.tag), ("dockerfile", build.dockerfile),
      ("buildargs", argumentsText build.arguments), ("rm", "1")]
  content := .archive context

/-- The request for a build by the older builder. -/
def textBuild (build : BuildRequest) (context : List (String × Files.Entry)) : Request where
  verb := "POST"
  path := "/build"
  parameters :=
    [("dockerfile", build.dockerfile), ("t", build.tag),
      ("buildargs", argumentsText build.arguments), ("rm", "true"), ("version", "1")]
  content := .archive context

/-- How many bytes the address of a request may have. -/
def maxAddress : Nat := 65534

/-- The fault of a build whose request has too long an address. -/
def longAddress : Fault :=
  .unknown "uri too long"

/-- The fault of a build that the daemon refused. -/
def rejection (status : Nat) (body : Bytes) (isCut : Bool) : Fault :=
  let body := if isCut then [] else body
  let message :=
    match (Text.Utf8.decode? body).map Refusal.ofChars with
    | some (.message message) => message
    | _ => Text.Utf8.toStringLossy body
  .unknown ("daemon rejected build request (" ++ StatusCode.describe status ++ "); " ++ message)

/-- The failure that an error in a response means. -/
def responseFailure (error : Progress.ResponseError) : Failure :=
  match error with
  | .cancelled => ⟨.cancelled, none⟩
  | .io reason =>
    ⟨.unknown error.message,
      if reason = Trouble.brokenOff.message then some .brokenOff else none⟩
  | .brokenDown cause => ⟨.brokenDown cause, none⟩
  | .malformedLine _ | .malformedUpdate _ _ => ⟨.unknown error.message, none⟩

/-- What the first last event of a trail says about the image. -/
def imageOf : List Effect → Except Failure String
  | [] => .error ⟨noImage, none⟩
  | .event (.built image) :: _ => .ok image
  | .event (.failed message) :: _ => .error ⟨.buildFailed message, none⟩
  | _ :: rest => imageOf rest

/-- Reads the answer of the newer builder. -/
def readSteps (conditions : Conditions) (passthrough : Bool) (delivery : Delivery) : BuildReport :=
  let ending := if delivery.isCut then .broken Trouble.brokenOff.message else .closed
  let report := Progress.Response.read { conditions with ending } passthrough delivery.body
  match report.result with
  | .error error => { trail := report.trail, result := .error (responseFailure error) }
  | .ok () => { trail := report.trail, result := imageOf report.trail }

/-- Reads the lines of the older builder, given the image named so far. Cancellation
is noticed before each of them and at their end, where the output is flushed before
the image is looked at. -/
def readText (conditions : Conditions) : (image : Option String) → (trail : List Effect) →
    List (Except Trouble BuildLine) → BuildReport
  | image, trail, [] =>
    if conditions.isCancelled trail then { trail, result := .error ⟨.cancelled, none⟩ }
    else
      match conditions.flushFault with
      | some reason => { trail, result := .error ⟨.unknown reason, none⟩ }
      | none =>
        match image with
        | none => { trail, result := .error ⟨noImage, none⟩ }
        | some image => { trail := trail ++ [.event (.built image)], result := .ok image }
  | image, trail, line :: rest =>
    if conditions.isCancelled trail then { trail, result := .error ⟨.cancelled, none⟩ }
    else
      match line with
      | .error trouble => { trail, result := .error (blame .unknown trouble) }
      | .ok line =>
        match line.error with
        | some message =>
          { trail := trail ++ [.event (.failed message)]
            result := .error ⟨.buildFailed message, none⟩ }
        | none =>
          if line.text.isEmpty then readText conditions (line.image.or image) trail rest
          else
            match conditions.writeFault (writeCount trail) with
            | some reason => { trail, result := .error ⟨.unknown reason, none⟩ }
            | none =>
              readText conditions (line.image.or image) (trail ++ [.write line.text]) rest

namespace Client

variable {δ : Type} (client : Client δ)

/-- Has the newer builder build an image. -/
def buildInSteps (conditions : Conditions) (build : BuildRequest)
    (context : List (String × Files.Entry)) : Talk δ BuildReport := do
  let request := stepBuild build context
  if maxAddress < request.address.utf8ByteSize then return .failed longAddress
  match ← send client.behaviour request with
  | .dropped => return .failed (.connection Trouble.noConnection.message) (some .noConnection)
  | .received status body isCut =>
    if status = 200 then return readSteps conditions client.passthrough ⟨body, isCut⟩
    else return .failed (rejection status body isCut)

/-- Has the older builder build an image. -/
def buildAsText (conditions : Conditions) (build : BuildRequest)
    (context : List (String × Files.Entry)) : Talk δ BuildReport := do
  if conditions.isCancelled [] then return .failed .cancelled
  match ← (request client.behaviour (textBuild build context)).run with
  | .error trouble => return readText conditions none [] [.error trouble]
  | .ok delivery =>
    return readText conditions none [] ((delivery.lines buildLine?).map client.handed)

/-- Builds an image. -/
def build (conditions : Conditions) (build : BuildRequest) : Talk δ BuildReport :=
  match buildContext client.store build.directory with
  | .error fault => return .failed fault
  | .ok context =>
    if client.buildkit then client.buildInSteps conditions build context
    else client.buildAsText conditions build context

end Client

end ContainerTasks.Daemon
