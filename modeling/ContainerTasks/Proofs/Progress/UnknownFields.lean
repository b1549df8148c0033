import ContainerTasks.Proofs.Codec.Grammar
import ContainerTasks.Progress.Record

/-! # Fields that are not part of a message

A builder may send more than the messages of an update declare. Whatever well-formed field of
another number stands at whatever place of a message, it is passed over (`Extends.read_eq`), and so
are the fields of groups and messages inside it. So a payload with such a field gives the same
records as the payload without it.
-/

namespace ContainerTasks.Progress

open Codec
open Codec.Wire (Spells Keyed Numeral)

/-- The messages that an update is made of. -/
inductive Message
  | update
  | vertex
  | operation
  | printed
  | timestamp

namespace Message

/-- The field numbers that a message declares. -/
def numbers : Message → List Nat
  | update => [1, 2, 3]
  | vertex => [1, 2, 3, 4, 5, 6, 7]
  | operation => [1, 2, 3, 4, 5, 6, 7, 8]
  | printed => [1, 2, 3, 4]
  | timestamp => [1, 2]

/-- The message in a field of a message, if one stands there. -/
def part? : Message → Nat → Option Message
  | update, 1 => some vertex
  | update, 2 => some operation
  | update, 3 => some printed
  | vertex, 5 => some timestamp
  | vertex, 6 => some timestamp
  | operation, 6 => some timestamp
  | operation, 7 => some timestamp
  | operation, 8 => some timestamp
  | printed, 2 => some timestamp
  | _, _ => none

/-- How deep groups may be nested in a message. -/
def depth : Message → Nat
  | update => groupDepth
  | vertex | operation | printed => groupDepth - 1
  | timestamp => groupDepth - 1 - 1

/-- What a message is read into. -/
abbrev State : Message → Type
  | update => Update
  | vertex => Vertex
  | operation => Operation
  | printed => Printed
  | timestamp => Timestamp

/-- Takes one field into a message. -/
def addField : (message : Message) → message.State → Wire.Field → Option message.State
  | update => Update.addField
  | vertex => Vertex.addField vertex.depth
  | operation => Operation.addField operation.depth
  | printed => Printed.addField printed.depth
  | timestamp => Timestamp.addField

/-- Takes the fields of a message into what has been read of it. -/
def read (message : Message) (start : message.State) (bytes : Bytes) : Option message.State :=
  (Wire.fields? message.depth bytes).bind fun fields => fields.foldlM message.addField start

/-- A field of another number leaves what has been read as it is. -/
theorem addField_of_undeclared {message : Message} {field : Wire.Field}
    (undeclared : field.number ∉ message.numbers) (state : message.State) :
    message.addField state field = some state := by
  cases message <;>
    simp only [numbers, List.mem_cons, List.not_mem_nil, or_false, not_or] at undeclared
  case update => simp [addField, Update.addField, undeclared]
  case vertex => simp [addField, Vertex.addField, undeclared]
  case operation => simp [addField, Operation.addField, undeclared]
  case printed => simp [addField, Printed.addField, undeclared]
  case timestamp => simp [addField, Timestamp.addField, undeclared]

/-- A timestamp is merged into the one that is there. -/
theorem merge_eq_read (time : Option Timestamp) (bytes : Bytes) :
    Timestamp.merge timestamp.depth time (.delimited bytes) =
      (timestamp.read (time.getD {}) bytes).map some := by
  simp only [Timestamp.merge, Wire.Value.bytes?, Option.bind_eq_bind, Option.bind_some, read,
    Option.map_bind, Option.pure_def]
  exact congrArg _ (funext fun fields => Option.map_eq_bind.symm)

/-- Messages that are read alike may stand in each other's place. -/
theorem addField_part {message part : Message} {number : Nat}
    (inside : message.part? number = some part) {first second : Bytes}
    (alike : ∀ start, part.read start first = part.read start second) (state : message.State) :
    message.addField state ⟨number, .delimited first⟩ =
      message.addField state ⟨number, .delimited second⟩ := by
  have times (alike : ∀ start, timestamp.read start first = timestamp.read start second)
      (time : Option Timestamp) : Timestamp.merge timestamp.depth time (.delimited first) =
        Timestamp.merge timestamp.depth time (.delimited second) := by
    rw [merge_eq_read, merge_eq_read, alike]
  unfold part? at inside
  split at inside <;> cases inside
  · exact congrArg (Option.map _) (alike {})
  · exact congrArg (Option.map _) (alike {})
  · exact congrArg (Option.map _) (alike {})
  all_goals exact congrArg (Option.map _) (times alike _)

/-- What is read behind whole fields is taken in after them. -/
theorem read_append {message : Message} {before : List Wire.Field} {front : Bytes}
    (fields : Spells message.depth before front) (start : message.State) (back : Bytes) :
    message.read start (front ++ back) =
      (before.foldlM message.addField start).bind fun state => message.read state back := by
  unfold read
  rw [fields.fields?_append, Option.bind_map]
  cases Wire.fields? message.depth back with
  | none => simp
  | some after =>
      simp only [Option.bind_some, Function.comp_apply, List.foldlM_append, Option.bind_eq_bind]

end Message

/-- The second byte string is the first one with one more field, which is well formed and has a
number that the message does not declare: between two fields of the message, or within a message
that one of its fields holds, whose length is adjusted. -/
inductive Extends : Message → Bytes → Bytes → Prop
  | here {message : Message} {before : List Wire.Field} {unknown : Wire.Field}
      {front extra back : Bytes} (fields : Spells message.depth before front)
      (field : Spells message.depth [unknown] extra)
      (undeclared : unknown.number ∉ message.numbers) :
      Extends message (front ++ back) (front ++ (extra ++ back))
  | within {message part : Message} {before : List Wire.Field} {number : Nat}
      {front key size content size' longer back : Bytes}
      (fields : Spells message.depth before front) (inside : message.part? number = some part)
      (keyed : Keyed key ⟨number, .delimited⟩) (length : Numeral size content.length)
      (extends' : Extends part content longer) (length' : Numeral size' longer.length) :
      Extends message (front ++ (key ++ (size ++ (content ++ back))))
        (front ++ (key ++ (size' ++ (longer ++ back))))

/-- **Fields of other numbers.** A message is read alike with and without them. -/
theorem Extends.read_eq {message : Message} {bytes longer : Bytes}
    (extend : Extends message bytes longer) (start : message.State) :
    message.read start longer = message.read start bytes := by
  induction extend with
  | @here message before unknown front extra back fields field undeclared =>
      rw [Message.read_append fields, Message.read_append fields]
      congr 1
      funext state
      rw [Message.read_append field]
      simp only [List.foldlM_cons, List.foldlM_nil, Message.addField_of_undeclared undeclared,
        Option.bind_eq_bind, Option.bind_some, Option.pure_def]
  | @within message part before number front key size content size' longer back fields inside keyed
      length extend length' ih =>
      have field {size content : Bytes} (length : Numeral size content.length) :
          Spells message.depth [⟨number, .delimited content⟩] (key ++ (size ++ content)) := by
        have room : message.depth = message.depth - 1 + 1 := by cases message <;> rfl
        have written : Spells (message.depth - 1 + 1) [⟨number, .delimited content⟩]
            (key ++ (size ++ content ++ [])) := .scalar keyed (.delimited length) .nil
        rwa [List.append_nil, ← room] at written
      have split (size content : Bytes) :
          key ++ (size ++ (content ++ back)) = key ++ (size ++ content) ++ back := by
        simp only [List.append_assoc]
      rw [Message.read_append fields, Message.read_append fields]
      congr 1
      funext state
      rw [split, split, Message.read_append (field length), Message.read_append (field length')]
      simp only [List.foldlM_cons, Message.addField_part inside ih]

/-- **Unknown fields are skipped.** Base64 of an update that holds one more field, which is well
formed and has a number that is not declared where it stands, gives the same records. -/
theorem Record.decode_extended {payload longer : String} {bytes bytes' : Bytes}
    (raw : Base64.decode? (Text.trimChars payload.toList) = some bytes)
    (raw' : Base64.decode? (Text.trimChars longer.toList) = some bytes')
    (extend : Extends .update bytes bytes') : Record.decode longer = Record.decode payload := by
  have same : Update.ofBytes? bytes' = Update.ofBytes? bytes := extend.read_eq {}
  simp only [Record.decode, raw, raw', same]

/-- A number is written in a form in which it can be read. -/
theorem numeral_of_read {bytes : Bytes} {value : Nat}
    (read : Wire.varint? bytes = some (value, [])) : Numeral bytes value := by
  obtain ⟨numeral, rfl, written⟩ := Wire.varint?_eq_some_iff.mp read
  rwa [List.append_nil]

theorem keyed_of_read {bytes : Bytes} {key : Wire.Key}
    (read : Wire.key? bytes = some (key, [])) : Keyed bytes key := by
  obtain ⟨front, rfl, keyed⟩ := Wire.key?_eq_some_iff.mp read
  rwa [List.append_nil]

/-- An update with a vertex that has started. -/
def startedBytes : Bytes :=
  [10, 9, 10, 1, 118, 42, 4, 8, 1, 16, 5]

/-- The same update with a group in the start of the vertex. The group holds a group and a number
with more digits than it needs, and so has the length of the start. -/
def groupedBytes : Bytes :=
  [10, 23, 10, 1, 118, 42, 145, 0, 8, 1, 27, 11, 21, 1, 2, 3, 4, 12, 72, 128, 128, 0, 28, 16, 5]

theorem extends_started : Extends .update startedBytes groupedBytes := by
  have spells {depth : Nat} {fields : List Wire.Field} {bytes : Bytes}
      (read : Wire.fields? depth bytes = some fields) : Spells depth fields bytes :=
    Wire.fields?_eq_some_iff.mp read
  have time : Extends .timestamp [8, 1, 16, 5]
      [8, 1, 27, 11, 21, 1, 2, 3, 4, 12, 72, 128, 128, 0, 28, 16, 5] :=
    @Extends.here .timestamp [⟨1, .varint 1⟩] ⟨3, .group⟩ [8, 1]
      [27, 11, 21, 1, 2, 3, 4, 12, 72, 128, 128, 0, 28] [16, 5] (spells (by decide +kernel))
      (spells (by decide +kernel)) (by decide)
  have vertex : Extends .vertex [10, 1, 118, 42, 4, 8, 1, 16, 5]
      [10, 1, 118, 42, 145, 0, 8, 1, 27, 11, 21, 1, 2, 3, 4, 12, 72, 128, 128, 0, 28, 16, 5] :=
    @Extends.within .vertex .timestamp [⟨1, .delimited [118]⟩] 5 [10, 1, 118] [42] [4] _ [145, 0] _
      [] (spells (by decide +kernel)) rfl (keyed_of_read (by decide)) (numeral_of_read (by decide))
      time (numeral_of_read (by decide))
  exact @Extends.within .update .vertex [] 1 [] [10] [9] _ [23] _ [] .nil rfl
    (keyed_of_read (by decide)) (numeral_of_read (by decide)) vertex (numeral_of_read (by decide))

theorem Record.decode_extended_started :
    Base64.decode? (Text.trimChars "CgkKAXYqBAgBEAU=".toList) = some startedBytes ∧
      Base64.decode? (Text.trimChars "ChcKAXYqkQAIARsLFQECAwQMSICAABwQBQ==".toList) =
        some groupedBytes ∧
      Extends .update startedBytes groupedBytes ∧
      Record.decode "ChcKAXYqkQAIARsLFQECAwQMSICAABwQBQ==" = Record.decode "CgkKAXYqBAgBEAU=" ∧
      Record.decode "CgkKAXYqBAgBEAU=" = .ok [.declared "v" "", .started "v" ⟨1, 5⟩] := by
  have raw : Base64.decode? (Text.trimChars "CgkKAXYqBAgBEAU=".toList) = some startedBytes := by
    decide +kernel
  have raw' : Base64.decode? (Text.trimChars "ChcKAXYqkQAIARsLFQECAwQMSICAABwQBQ==".toList) =
      some groupedBytes := by
    decide +kernel
  exact ⟨raw, raw', extends_started, Record.decode_extended raw raw' extends_started,
    by decide +kernel⟩

end ContainerTasks.Progress
