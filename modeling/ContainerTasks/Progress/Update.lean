import ContainerTasks.Codec.Wire
import ContainerTasks.Progress.Instant

/-! # Status updates of a build

The message a builder sends about the progress of a build graph: vertices (the
steps of the build), operations of a vertex such as fetching a layer, and
output of the process a vertex runs. `Update.ofBytes?` reads the wire form.
Fields that are not part of the message are skipped, a field of the message
with another wire type is an error, a repeated single value keeps the last, and
a repeated single message is merged.
-/

namespace ContainerTasks.Progress

open Codec

/-- A point in time as it is sent: seconds from the epoch and a part of a
second, either of any sign. -/
structure Timestamp where
  seconds : Int64 := 0
  nanos : Int32 := 0
deriving DecidableEq, Repr, Inhabited

/-- A step of the build graph. -/
structure Vertex where
  digest : String := ""
  inputs : List String := []
  name : String := ""
  cached : Bool := false
  started : Option Timestamp := none
  completed : Option Timestamp := none
  error : String := ""
deriving DecidableEq, Repr, Inhabited

/-- A part of a vertex's work that is reported on its own. -/
structure Operation where
  id : String := ""
  vertex : String := ""
  name : String := ""
  current : Int64 := 0
  total : Int64 := 0
  timestamp : Option Timestamp := none
  started : Option Timestamp := none
  completed : Option Timestamp := none
deriving DecidableEq, Repr, Inhabited

/-- Output of the process a vertex runs. -/
structure Printed where
  vertex : String := ""
  timestamp : Option Timestamp := none
  stream : Int64 := 0
  message : Bytes := []
deriving DecidableEq, Repr, Inhabited

/-- One message about any number of vertices. -/
structure Update where
  vertices : List Vertex := []
  operations : List Operation := []
  printed : List Printed := []
deriving DecidableEq, Repr, Inhabited

/-- How deep groups may be nested in a message of the outermost level. -/
def groupDepth : Nat := 100

namespace Timestamp

/-- Takes one field into a timestamp. -/
def addField (time : Timestamp) (field : Wire.Field) : Option Timestamp :=
  match field.number with
  | 1 => field.value.int64?.map fun seconds => { time with seconds }
  | 2 => field.value.int32?.map fun nanos => { time with nanos }
  | _ => some time

/-- Takes the fields of a timestamp into one that may be there already. -/
def merge (depth : Nat) (time : Option Timestamp) (value : Wire.Value) :
    Option (Option Timestamp) := do
  let bytes ← value.bytes?
  let fields ← Wire.fields? depth bytes
  let merged ← fields.foldlM addField (time.getD {})
  return some merged

/-- The time since the epoch. Times before it count as the epoch itself, and the
part of a second is kept within a second. -/
def sinceEpoch (time : Timestamp) : Instant :=
  ⟨time.seconds.toInt.toNat, min time.nanos.toInt.toNat 999999999⟩

end Timestamp

namespace Vertex

/-- Takes one field into a vertex. -/
def addField (depth : Nat) (vertex : Vertex) (field : Wire.Field) : Option Vertex :=
  match field.number with
  | 1 => field.value.text?.map fun digest => { vertex with digest }
  | 2 => field.value.text?.map fun input => { vertex with inputs := vertex.inputs ++ [input] }
  | 3 => field.value.text?.map fun name => { vertex with name }
  | 4 => field.value.bool?.map fun cached => { vertex with cached }
  | 5 => (Timestamp.merge (depth - 1) vertex.started field.value).map
      fun started => { vertex with started }
  | 6 => (Timestamp.merge (depth - 1) vertex.completed field.value).map
      fun completed => { vertex with completed }
  | 7 => field.value.text?.map fun error => { vertex with error }
  | _ => some vertex

/-- Reads a vertex. -/
def ofValue? (depth : Nat) (value : Wire.Value) : Option Vertex := do
  let bytes ← value.bytes?
  let fields ← Wire.fields? depth bytes
  fields.foldlM (addField depth) {}

end Vertex

namespace Operation

/-- Takes one field into an operation. -/
def addField (depth : Nat) (operation : Operation) (field : Wire.Field) : Option Operation :=
  match field.number with
  | 1 => field.value.text?.map fun id => { operation with id }
  | 2 => field.value.text?.map fun vertex => { operation with vertex }
  | 3 => field.value.text?.map fun name => { operation with name }
  | 4 => field.value.int64?.map fun current => { operation with current }
  | 5 => field.value.int64?.map fun total => { operation with total }
  | 6 => (Timestamp.merge (depth - 1) operation.timestamp field.value).map
      fun timestamp => { operation with timestamp }
  | 7 => (Timestamp.merge (depth - 1) operation.started field.value).map
      fun started => { operation with started }
  | 8 => (Timestamp.merge (depth - 1) operation.completed field.value).map
      fun completed => { operation with completed }
  | _ => some operation

/-- Reads an operation. -/
def ofValue? (depth : Nat) (value : Wire.Value) : Option Operation := do
  let bytes ← value.bytes?
  let fields ← Wire.fields? depth bytes
  fields.foldlM (addField depth) {}

end Operation

namespace Printed

/-- Takes one field into a piece of output. -/
def addField (depth : Nat) (printed : Printed) (field : Wire.Field) : Option Printed :=
  match field.number with
  | 1 => field.value.text?.map fun vertex => { printed with vertex }
  | 2 => (Timestamp.merge (depth - 1) printed.timestamp field.value).map
      fun timestamp => { printed with timestamp }
  | 3 => field.value.int64?.map fun stream => { printed with stream }
  | 4 => field.value.bytes?.map fun message => { printed with message }
  | _ => some printed

/-- Reads a piece of output. -/
def ofValue? (depth : Nat) (value : Wire.Value) : Option Printed := do
  let bytes ← value.bytes?
  let fields ← Wire.fields? depth bytes
  fields.foldlM (addField depth) {}

end Printed

namespace Update

/-- Takes one field into an update. -/
def addField (update : Update) (field : Wire.Field) : Option Update :=
  match field.number with
  | 1 => (Vertex.ofValue? (groupDepth - 1) field.value).map fun vertex =>
      { update with vertices := update.vertices ++ [vertex] }
  | 2 => (Operation.ofValue? (groupDepth - 1) field.value).map fun operation =>
      { update with operations := update.operations ++ [operation] }
  | 3 => (Printed.ofValue? (groupDepth - 1) field.value).map fun printed =>
      { update with printed := update.printed ++ [printed] }
  | _ => some update

/-- Reads an update from its wire form. -/
def ofBytes? (bytes : Bytes) : Option Update := do
  let fields ← Wire.fields? groupDepth bytes
  fields.foldlM addField {}

end Update

end ContainerTasks.Progress
