import ContainerTasks.Json.Parser
import ContainerTasks.Progress.Transcript

/-! # The response to a build request

A daemon answers a build request with lines of JSON. A line reports a failure of
the build, the image that was built, an update about the steps, or text. Reading
the response gives a trail of what was written and which events were raised, in
order, and ends well unless a line cannot be understood, reading or writing
fails, the reading is cancelled, or the program breaks down over the sizes of
downloads. `Conditions` says what happens from outside while the response is read.
-/

namespace ContainerTasks.Progress

/-- What is told while a response is read. -/
inductive Event
  /-- The running steps, when they have changed. -/
  | progress (steps : List ActiveStep)
  | failed (message : String)
  | built (image : String)
deriving DecidableEq, Repr

/-- Whether an event is the last of its build. -/
def Event.isTerminal : Event → Bool
  | progress _ => false
  | failed _ | built _ => true

/-- What reading a response does to the outside. -/
inductive Effect
  | write (text : String)
  | event (event : Event)
deriving DecidableEq, Repr

/-- Why a response could not be read to its end. -/
inductive ResponseError
  | malformedLine (content : String)
  | malformedUpdate (content : String) (cause : DecodeError)
  | cancelled
  | io (reason : String)
  | brokenDown (cause : Breakdown)
deriving DecidableEq, Repr

/-- The wording of an error. -/
def ResponseError.message : ResponseError → String
  | malformedLine content | malformedUpdate content _ =>
    "Received malformed response from Docker daemon during build: " ++ content
  | cancelled => "Processing of the build response was cancelled"
  | io reason => "Could not read build response or write build output; " ++ reason
  | brokenDown cause => cause.message

namespace Response

/-- What a line says. -/
inductive Message
  | failure (text : String)
  | image (id : String)
  | update (records : List Record)
  | output (text : String)
  | nothing
deriving DecidableEq, Repr

/-- What is wrong with a line. -/
inductive Fault
  | line
  | update (cause : DecodeError)
deriving DecidableEq, Repr

/-- A member that may be missing or null and is a string otherwise. -/
def optionalText (value : Option Json) : Option (Option String) :=
  match value with
  | none | some .null => some none
  | some (.string text) => some (some text)
  | some _ => none

/-- The message of the detail of an error, given as an object or as an array of
one item. -/
def detailMessage (value : Option Json) : Option (Option String) :=
  match value with
  | none | some .null => some none
  | some (.object members) => optionalText (Json.lookup "message" members)
  | some (.array [item]) => optionalText (some item)
  | some _ => none

/-- The id in the report of an image, given as an object or as an array of one
item. -/
def imageId? : Json → Option String
  | .object members => (Json.lookup "ID" members).bind Json.text?
  | .array [item] => item.text?
  | _ => none

/-- The kind of line that reports an image. -/
def imageKind : String := "moby.image.id"

/-- The kind of line that carries an update. -/
def updateKind : String := "moby.buildkit.trace"

/-- What a line says, given its members. A failure comes before everything
else. -/
def messageOfMembers (members : List (String × Json)) : Except Fault Message :=
  let get (name : String) := Json.lookup name members
  match optionalText (get "id"), optionalText (get "stream"), optionalText (get "error"),
    detailMessage (get "errorDetail") with
  | some kind, some stream, some error, some detail =>
    match detail.or error with
    | some text => .ok (.failure text)
    | none =>
      if kind = some imageKind then
        match (get "aux").bind imageId? with
        | some id => .ok (.image id)
        | none => .error .line
      else if kind = some updateKind then
        match (get "aux").bind Json.text? with
        | none => .error .line
        | some payload =>
          match Record.decode payload with
          | .ok records => .ok (.update records)
          | .error cause => .error (.update cause)
      else
        match stream with
        | some text => .ok (.output text)
        | none => .ok .nothing
  | _, _, _, _ => .error .line

/-- What a line says. -/
def messageOf (line : List Char) : Except Fault Message :=
  match Json.parseChars? line with
  | some (.object members) => messageOfMembers members
  | _ => .error .line

/-- The error for a line with a fault. -/
def Fault.toError (content : String) : Fault → ResponseError
  | line => .malformedLine content
  | update cause => .malformedUpdate content cause

/-- What a line of bytes says. A line that is not well-formed text is reported
with replacement characters. -/
def readLine (bytes : Bytes) : Except ResponseError Message :=
  match Text.Utf8.decode? bytes with
  | none => .error (.malformedLine (Json.quote (Text.Utf8.toStringLossy bytes)))
  | some line =>
    match messageOf line with
    | .ok message => .ok message
    | .error fault => .error (fault.toError (Json.quote (String.ofList line)))

/-- What is known in the course of a response. -/
structure State where
  tracker : Tracker := {}
  cursor : Cursor := {}
  /-- The running steps after the last update. -/
  lastActive : List ActiveStep := []
  /-- Set once the build has failed or an image was reported. -/
  isTerminated : Bool := false

namespace State

/-- Raises an event unless the build has been terminated. -/
def emit (state : State) (event : Event) : State × List Event :=
  if state.isTerminated then (state, [])
  else ({ state with isTerminated := event.isTerminal }, [event])

/-- Takes in an update: the text that can be written, and an event if other
steps are running than before. -/
def update (state : State) (records : List Record) :
    Except Breakdown (State × List Event × String) := do
  let (text, cursor, tracker) :=
    Transcript.write false state.cursor (state.tracker.applyAll records)
  let active ← tracker.activeSteps
  let (after, events) :=
    if !active.isEmpty && active != state.lastActive then state.emit (.progress active)
    else (state, [])
  return ({ after with tracker, cursor, lastActive := active }, events, text)

/-- Takes in what a line says. With `passthrough` text from the daemon is written
as it is. -/
def take (passthrough : Bool) (state : State) (message : Message) :
    Except Breakdown (State × List Event × String) :=
  match message with
  | .failure text =>
    let (state, events) := state.emit (.failed text)
    .ok (state, events, "")
  | .image id =>
    let (state, events) := state.emit (.built id)
    .ok (state, events, "")
  | .update records => state.update records
  | .output text => .ok (state, [], if passthrough then text else "")
  | .nothing => .ok (state, [], "")

/-- What taking in a line leaves in the journal. -/
def journal (passthrough : Bool) (state : State) : Message → List Journal.Entry
  | .failure text => [⟨.debug, "Daemon reported build failure", [("error", text)]⟩]
  | .image id => [⟨.debug, "Image built", [("image", id)]⟩]
  | .update records => state.tracker.journalAll records
  | .output text =>
    if passthrough then [] else [⟨.debug, "Daemon output", [("output", Text.trimEnd text)]⟩]
  | .nothing => []

/-- What is left to write when the response has ended. -/
def rest (state : State) : String :=
  (Transcript.write true state.cursor state.tracker).1

end State

/-- The end of what can be read. -/
inductive Ending
  | closed
  /-- Reading fails for a reason. -/
  | broken (reason : String)
  /-- Nothing more arrives, and the reading is cancelled. -/
  | stalled
deriving DecidableEq, Repr

/-- What happens from outside while a response is read: how it ends, after which
effects the reading has been cancelled, given how many writes have been accepted,
why the next one fails, and why the output cannot be flushed at the end. A write is
accepted once it has been flushed as well, except for the last one. -/
structure Conditions where
  ending : Ending := .closed
  isCancelled : List Effect → Bool := fun _ => false
  writeFault : Nat → Option String := fun _ => none
  flushFault : Option String := none

/-- How many writes were accepted. -/
def writeCount (trail : List Effect) : Nat :=
  trail.countP fun effect => match effect with
    | .write _ => true
    | .event _ => false

/-- The outcome of reading a response. -/
structure Report where
  trail : List Effect
  journal : List Journal.Entry
  result : Except ResponseError Unit

/-- Cuts bytes at newlines: the lines that end in one, without it, and what
remains behind the last. -/
def cutLines : Bytes → List Bytes × Bytes
  | [] => ([], [])
  | byte :: rest =>
    let (lines, last) := cutLines rest
    if byte = 10 then ([] :: lines, last)
    else
      match lines with
      | [] => ([], byte :: last)
      | line :: more => ((byte :: line) :: more, last)

/-- A line without one carriage return at its end. -/
def dropReturn (line : Bytes) : Bytes :=
  if line.getLast? = some 13 then line.dropLast else line

/-- The lines of a response. A last line without newline counts only if the
response was closed, and only if it is not empty. -/
def linesOf (ending : Ending) (input : Bytes) : List Bytes :=
  let (lines, last) := cutLines input
  (lines ++ if ending = .closed && !last.isEmpty then [last] else []).map dropReturn

/-- Writes a text that is not empty. -/
def writeText (conditions : Conditions) (trail : List Effect) (text : String) :
    Except ResponseError (List Effect) :=
  if text.isEmpty then .ok trail
  else
    match conditions.writeFault (writeCount trail) with
    | some reason => .error (.io reason)
    | none => .ok (trail ++ [.write text])

/-- What comes of flushing the output at the end. -/
def flushed (conditions : Conditions) : Except ResponseError Unit :=
  match conditions.flushFault with
  | some reason => .error (.io reason)
  | none => .ok ()

/-- The entry a cancelled reading leaves. -/
def cancelledEntry : Journal.Entry :=
  ⟨.debug, "Build response processing cancelled", []⟩

/-- Ends a response whose lines have been read. -/
def finish (conditions : Conditions) (state : State) (trail : List Effect)
    (journal : List Journal.Entry) : Report :=
  if conditions.isCancelled trail then ⟨trail, journal ++ [cancelledEntry], .error .cancelled⟩
  else
    match conditions.ending with
    | .stalled => ⟨trail, journal ++ [cancelledEntry], .error .cancelled⟩
    | .broken reason => ⟨trail, journal, .error (.io reason)⟩
    | .closed =>
      match writeText conditions trail state.rest with
      | .error error => ⟨trail, journal, .error error⟩
      | .ok trail => ⟨trail, journal, flushed conditions⟩

/-- Reads lines one after another. Cancellation is noticed before each of them;
the events of a line come before its text. -/
def readLines (conditions : Conditions) (passthrough : Bool) :
    State → List Effect → List Journal.Entry → List Bytes → Report
  | state, trail, journal, [] => finish conditions state trail journal
  | state, trail, journal, line :: more =>
    if conditions.isCancelled trail then ⟨trail, journal ++ [cancelledEntry], .error .cancelled⟩
    else
      match readLine line with
      | .error error => ⟨trail, journal, .error error⟩
      | .ok message =>
        let journal := journal ++ state.journal passthrough message
        match state.take passthrough message with
        | .error cause => ⟨trail, journal, .error (.brokenDown cause)⟩
        | .ok (state, events, text) =>
          let trail := trail ++ events.map .event
          match writeText conditions trail text with
          | .error error => ⟨trail, journal, .error error⟩
          | .ok trail => readLines conditions passthrough state trail journal more

/-- Reads a response. -/
def read (conditions : Conditions) (passthrough : Bool) (input : Bytes) : Report :=
  readLines conditions passthrough {} [] [] (linesOf conditions.ending input)

end Response

end ContainerTasks.Progress
