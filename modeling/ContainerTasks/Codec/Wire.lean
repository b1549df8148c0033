import ContainerTasks.Text.Utf8

/-! # Tagged binary fields

The wire form of a message: fields one after another, each a key (field number
and wire type) and a value. `fields?` splits a message into the fields that
carry a value. Groups are an obsolete way to nest fields: they are checked for
balance, nesting and well-formed content, and appear as one field without
content.
-/

namespace ContainerTasks.Codec.Wire

/-- Base-128 number, low digits first, of at most `limit` bytes. A tenth byte
has room for one bit only. -/
def varintWithin : (limit : Nat) → Bytes → Option (Nat × Bytes)
  | _, [] => none
  | 0, _ :: _ => none
  | 1, byte :: rest => if byte.toNat < 2 then some (byte.toNat, rest) else none
  | limit + 2, byte :: rest =>
    if byte.toNat < 128 then some (byte.toNat, rest)
    else
      match varintWithin (limit + 1) rest with
      | none => none
      | some (high, rest) => some (byte.toNat - 128 + 128 * high, rest)

/-- A 64-bit number at the front of a byte string. -/
def varint? (bytes : Bytes) : Option (Nat × Bytes) :=
  varintWithin 10 bytes

theorem varintWithin_length {limit : Nat} {bytes rest : Bytes} {value : Nat}
    (read : varintWithin limit bytes = some (value, rest)) : rest.length < bytes.length := by
  fun_induction varintWithin limit bytes generalizing value rest with
  | case1 | case2 | case4 => simp at read
  | case3 byte tail _ | case5 byte tail _ =>
    simp only [Option.some.injEq, Prod.mk.injEq] at read
    simp [← read.2]
  | case6 _ byte tail _ _ _ => simp at read
  | case7 limit byte tail _ high after found ih =>
    simp only [Option.some.injEq, Prod.mk.injEq] at read
    have := ih found
    simp only [List.length_cons, ← read.2]
    omega

theorem varint?_length {bytes rest : Bytes} {value : Nat}
    (read : varint? bytes = some (value, rest)) : rest.length < bytes.length :=
  varintWithin_length read

/-- How the value of a field is laid out. -/
inductive WireType
  | varint
  | fixed64
  | delimited
  | groupStart
  | groupEnd
  | fixed32
deriving DecidableEq, Repr

/-- The wire types by number; six and seven are none. -/
def WireType.ofNat? : Nat → Option WireType
  | 0 => some .varint
  | 1 => some .fixed64
  | 2 => some .delimited
  | 3 => some .groupStart
  | 4 => some .groupEnd
  | 5 => some .fixed32
  | _ => none

/-- A field's number and wire type. -/
structure Key where
  number : Nat
  wireType : WireType
deriving DecidableEq, Repr

/-- Reads a key: a number of 32 bits whose low three name the wire type. Field
number zero is reserved. -/
def key? (bytes : Bytes) : Option (Key × Bytes) :=
  match varint? bytes with
  | none => none
  | some (value, rest) =>
    if value < Nat.pow 2 32 ∧ 8 ≤ value then
      match WireType.ofNat? (value % 8) with
      | none => none
      | some wireType => some (⟨value / 8, wireType⟩, rest)
    else none

theorem key?_length {bytes rest : Bytes} {key : Key} (read : key? bytes = some (key, rest)) :
    rest.length < bytes.length := by
  unfold key? at read
  split at read
  · simp at read
  · rename_i found
    split at read
    · split at read
      · simp at read
      · simp only [Option.some.injEq, Prod.mk.injEq] at read
        exact read.2 ▸ varint?_length found
    · simp at read

/-- The value of a field as it stands on the wire. -/
inductive Value
  | varint (value : Nat)
  | fixed64 (bytes : Bytes)
  | delimited (bytes : Bytes)
  | group
  | fixed32 (bytes : Bytes)
deriving DecidableEq, Repr

namespace Value

/-- A length-delimited value. -/
def bytes? : Value → Option Bytes
  | delimited bytes => some bytes
  | _ => none

/-- A text; it must be well formed. -/
def text? (value : Value) : Option String :=
  value.bytes?.bind Text.Utf8.toString?

/-- A number as it is written, below two to the 64th. -/
def natural? : Value → Option Nat
  | varint value => some value
  | _ => none

/-- A signed number of 64 bits. -/
def int64? (value : Value) : Option Int64 :=
  value.natural?.map fun n => Int64.ofNat n

/-- A signed number of 32 bits; higher bits are dropped. -/
def int32? (value : Value) : Option Int32 :=
  value.natural?.map fun n => Int32.ofNat n

/-- A truth value: anything but zero holds. -/
def bool? (value : Value) : Option Bool :=
  value.natural?.map (· != 0)

end Value

/-- A field of a message. -/
structure Field where
  number : Nat
  value : Value
deriving DecidableEq, Repr

/-- The first `count` bytes and the rest, if there are so many. -/
def take? (count : Nat) (bytes : Bytes) : Option (Bytes × Bytes) :=
  if count ≤ bytes.length then some (bytes.take count, bytes.drop count) else none

/-- Reads the value of a field that is no group. -/
def scalar? (wireType : WireType) (bytes : Bytes) : Option (Value × Bytes) :=
  match wireType with
  | .varint => (varint? bytes).map fun (value, rest) => (.varint value, rest)
  | .fixed64 => (take? 8 bytes).map fun (value, rest) => (.fixed64 value, rest)
  | .fixed32 => (take? 4 bytes).map fun (value, rest) => (.fixed32 value, rest)
  | .delimited => do
    let (size, rest) ← varint? bytes
    let (value, rest) ← take? size rest
    return (.delimited value, rest)
  | .groupStart | .groupEnd => none

theorem take?_length {count : Nat} {bytes value rest : Bytes}
    (read : take? count bytes = some (value, rest)) : rest.length ≤ bytes.length := by
  unfold take? at read
  split at read
  · simp only [Option.some.injEq, Prod.mk.injEq] at read
    simp [← read.2]
  · simp at read

theorem scalar?_length {wireType : WireType} {bytes rest : Bytes} {value : Value}
    (read : scalar? wireType bytes = some (value, rest)) : rest.length ≤ bytes.length := by
  cases wireType with
  | groupStart | groupEnd => simp [scalar?] at read
  | varint =>
    simp only [scalar?, Option.map_eq_some_iff, Prod.mk.injEq, Prod.exists] at read
    obtain ⟨v, r, found, _, rfl⟩ := read
    exact Nat.le_of_lt (varint?_length found)
  | fixed64 | fixed32 =>
    simp only [scalar?, Option.map_eq_some_iff, Prod.mk.injEq, Prod.exists] at read
    obtain ⟨v, r, found, _, rfl⟩ := read
    exact take?_length found
  | delimited =>
    simp only [scalar?, bind, Option.bind_eq_some_iff, pure, Option.some.injEq, Prod.mk.injEq,
      Prod.exists] at read
    obtain ⟨size, r, foundSize, v, r', found, _, rfl⟩ := read
    exact Nat.le_trans (take?_length found) (Nat.le_of_lt (varint?_length foundSize))

/-- Reads fields to the end of the input. `opened` holds the numbers of the
groups around the next field, innermost first, and `depth` says how many groups
may be nested. What stands in the innermost group allowed is refused unless it
ends that group; fields inside a group are checked and dropped. -/
def fieldsFrom (depth : Nat) (opened : List Nat) (bytes : Bytes) : Option (List Field) :=
  if bytes.isEmpty then
    if opened.isEmpty then some [] else none
  else
    match _read : key? bytes with
    | none => none
    | some (key, rest) =>
      match key.wireType with
      | .groupEnd =>
        match opened with
        | [] => none
        | number :: outer => if key.number = number then fieldsFrom depth outer rest else none
      | .groupStart =>
        if depth ≤ opened.length then none
        else if opened.isEmpty then
          (fieldsFrom depth [key.number] rest).map (⟨key.number, .group⟩ :: ·)
        else fieldsFrom depth (key.number :: opened) rest
      | wireType =>
        if depth ≤ opened.length then none
        else
          match _scalar : scalar? wireType rest with
          | none => none
          | some (value, after) =>
            if opened.isEmpty then (fieldsFrom depth [] after).map (⟨key.number, value⟩ :: ·)
            else fieldsFrom depth opened after
termination_by bytes.length
decreasing_by
  all_goals
    have := key?_length _read
    try have := scalar?_length _scalar
    omega

/-- The fields of a message in which `depth` groups may be nested. -/
def fields? (depth : Nat) (bytes : Bytes) : Option (List Field) :=
  fieldsFrom depth [] bytes

end ContainerTasks.Codec.Wire
