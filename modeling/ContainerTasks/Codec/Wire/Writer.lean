import ContainerTasks.Codec.Wire

/-! # Writing tagged binary fields

The wire form of fields, one after another. Of a message the single values that have
their default are left out: empty texts and bytes, zero, and what does not hold.
-/

namespace ContainerTasks.Codec.Wire

/-- A number in base 128, low digits first. All bytes but the last have their top bit
set. -/
def varintBytes (value : Nat) : Bytes :=
  if value < 128 then [UInt8.ofNat value]
  else UInt8.ofNat (value % 128 + 128) :: varintBytes (value / 128)

/-- The number of a wire type. -/
def WireType.toNat : WireType → Nat
  | varint => 0
  | fixed64 => 1
  | delimited => 2
  | groupStart => 3
  | groupEnd => 4
  | fixed32 => 5

def Key.toBytes (key : Key) : Bytes :=
  varintBytes (key.number * 8 + key.wireType.toNat)

/-- A field with its key. A group is written without content. -/
def Field.toBytes (field : Field) : Bytes :=
  match field.value with
  | .varint value => Key.toBytes ⟨field.number, .varint⟩ ++ varintBytes value
  | .fixed64 bytes => Key.toBytes ⟨field.number, .fixed64⟩ ++ bytes
  | .delimited bytes =>
    Key.toBytes ⟨field.number, .delimited⟩ ++ (varintBytes bytes.length ++ bytes)
  | .group => Key.toBytes ⟨field.number, .groupStart⟩ ++ Key.toBytes ⟨field.number, .groupEnd⟩
  | .fixed32 bytes => Key.toBytes ⟨field.number, .fixed32⟩ ++ bytes

/-- The bytes of a message. -/
def messageBytes (fields : List Field) : Bytes :=
  fields.flatMap Field.toBytes

def numberField (number value : Nat) : List Field :=
  if value = 0 then [] else [⟨number, .varint value⟩]

/-- A signed number, as the number of 64 bits that has the same bits. -/
def int64Field (number : Nat) (value : Int64) : List Field :=
  numberField number value.toUInt64.toNat

/-- A signed number of 32 bits is written like the same number of 64 bits. -/
def int32Field (number : Nat) (value : Int32) : List Field :=
  int64Field number value.toInt64

def boolField (number : Nat) (value : Bool) : List Field :=
  numberField number value.toNat

def bytesField (number : Nat) (bytes : Bytes) : List Field :=
  if bytes.isEmpty then [] else [⟨number, .delimited bytes⟩]

def textField (number : Nat) (text : String) : List Field :=
  bytesField number (Text.Utf8.ofString text)

/-- A message within a message. It is written even if it has no fields. -/
def messageField (number : Nat) (fields : List Field) : Field :=
  ⟨number, .delimited (messageBytes fields)⟩

end ContainerTasks.Codec.Wire
