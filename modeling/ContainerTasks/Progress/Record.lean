import ContainerTasks.Codec.Base64
import ContainerTasks.Progress.Update
import ContainerTasks.Text.Blank

/-! # Records about vertices

What a status update says, as single facts in the order in which they take
effect: the vertices first, then their operations, then their output. What names
no vertex is dropped. `Record.decode` reads the facts from the text form in which
a daemon sends an update.
-/

namespace ContainerTasks.Progress

/-- One fact about a vertex of the build graph. -/
inductive Record
  /-- The vertex exists. Repeated with every fact about the vertex. -/
  | declared (vertex name : String)
  | started (vertex : String) (time : Instant)
  /-- The vertex finished: found in the cache, done, or failed with a message. -/
  | completed (vertex : String) (cached : Bool) (error : Option String)
  | operated (vertex text : String) (current total : Int64) (isStarted isCompleted : Bool)
  | printed (vertex : String) (time : Instant) (data : Bytes)
deriving DecidableEq, Repr

/-- Why the text of an update cannot be read. -/
inductive DecodeError
  | encoding
  | message
deriving DecidableEq, Repr

namespace Record

/-- The vertex a record is about. -/
def vertex : Record → String
  | declared vertex _ | started vertex _ | completed vertex _ _ | operated vertex ..
  | printed vertex _ _ => vertex

/-- What a vertex says about itself. -/
def ofVertex (vertex : Vertex) : List Record :=
  if vertex.digest.isEmpty then []
  else
    [declared vertex.digest vertex.name] ++
    (match vertex.started with
      | some time => [started vertex.digest time.sinceEpoch]
      | none => []) ++
    (match vertex.completed with
      | some _ =>
        [completed vertex.digest vertex.cached
          (if vertex.error.isEmpty then none else some vertex.error)]
      | none => [])

/-- What an operation says about its vertex. It goes by its id, or else by its
name. -/
def ofOperation (operation : Operation) : List Record :=
  if operation.vertex.isEmpty then []
  else
    [operated operation.vertex
      (if operation.id.isEmpty then operation.name else operation.id)
      operation.current operation.total operation.started.isSome operation.completed.isSome]

/-- What a piece of output says about its vertex. -/
def ofPrinted (output : Printed) : List Record :=
  if output.vertex.isEmpty then []
  else
    [printed output.vertex ((output.timestamp.map Timestamp.sinceEpoch).getD {}) output.message]

/-- All facts of an update. -/
def ofUpdate (update : Update) : List Record :=
  update.vertices.flatMap ofVertex ++ update.operations.flatMap ofOperation ++
    update.printed.flatMap ofPrinted

/-- Reads the records from an update in base64; blanks around it do not count. -/
def decode (payload : String) : Except DecodeError (List Record) :=
  match Codec.Base64.decode? (Text.trimChars payload.toList) with
  | none => .error .encoding
  | some bytes =>
    match Update.ofBytes? bytes with
    | none => .error .message
    | some update => .ok (ofUpdate update)

end Record

end ContainerTasks.Progress
