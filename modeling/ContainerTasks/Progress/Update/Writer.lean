import ContainerTasks.Codec.Base64
import ContainerTasks.Codec.Wire.Writer
import ContainerTasks.Progress.Update

/-! # Writing status updates

The fields of an update by their numbers, its wire form, and the text form in which a
daemon sends it.
-/

namespace ContainerTasks.Progress

open Codec

def Timestamp.fields (time : Timestamp) : List Wire.Field :=
  Wire.int64Field 1 time.seconds ++ Wire.int32Field 2 time.nanos

/-- A timestamp that may be missing. -/
def timeField (number : Nat) (time : Option Timestamp) : List Wire.Field :=
  time.toList.map fun time => Wire.messageField number time.fields

def Vertex.fields (vertex : Vertex) : List Wire.Field :=
  Wire.textField 1 vertex.digest ++
    vertex.inputs.map (fun input => ⟨2, .delimited (Text.Utf8.ofString input)⟩) ++
    Wire.textField 3 vertex.name ++ Wire.boolField 4 vertex.cached ++
    timeField 5 vertex.started ++ timeField 6 vertex.completed ++ Wire.textField 7 vertex.error

def Operation.fields (operation : Operation) : List Wire.Field :=
  Wire.textField 1 operation.id ++ Wire.textField 2 operation.vertex ++
    Wire.textField 3 operation.name ++ Wire.int64Field 4 operation.current ++
    Wire.int64Field 5 operation.total ++ timeField 6 operation.timestamp ++
    timeField 7 operation.started ++ timeField 8 operation.completed

def Printed.fields (printed : Printed) : List Wire.Field :=
  Wire.textField 1 printed.vertex ++ timeField 2 printed.timestamp ++
    Wire.int64Field 3 printed.stream ++ Wire.bytesField 4 printed.message

namespace Update

def fields (update : Update) : List Wire.Field :=
  update.vertices.map (fun vertex => Wire.messageField 1 vertex.fields) ++
    update.operations.map (fun operation => Wire.messageField 2 operation.fields) ++
    update.printed.map (fun printed => Wire.messageField 3 printed.fields)

/-- The wire form of an update. -/
def toBytes (update : Update) : Bytes :=
  Wire.messageBytes update.fields

/-- The text form of an update. -/
def encode (update : Update) : List Char :=
  Base64.encode update.toBytes

end Update

end ContainerTasks.Progress
