import Mathlib.Data.List.DropRight
import ContainerTasks.Progress.Record
import ContainerTasks.Progress.Update.Writer
import ContainerTasks.Proofs.Codec.Base64
import ContainerTasks.Proofs.Codec.Wire

/-! # Reading back status updates

An update that a daemon writes, field by field, as bytes and as base64, is read back as
it was, and so are its records. Each message is read back from its own fields
(`foldlM_fields`), and then from its bytes inside the message around it.
-/

namespace ContainerTasks.Text

/-- Trimming takes off exactly the blanks around a text without blanks. -/
theorem trimChars_surrounded {before middle after : List Char}
    (leading : ∀ c ∈ before, isBlank c) (solid : ∀ c ∈ middle, isBlank c = false)
    (trailing : ∀ c ∈ after, isBlank c) : trimChars (before ++ middle ++ after) = middle := by
  have trailing' : ∀ c ∈ after.reverse, isBlank c :=
    fun c member => trailing c (List.mem_reverse.mp member)
  have kept (chars : List Char) (solid : ∀ c ∈ chars, isBlank c = false) :
      chars.dropWhile isBlank = chars := by
    cases chars with
    | nil => rfl
    | cons c rest => rw [List.dropWhile_cons_of_neg (by simp [solid c])]
  rw [trimChars, List.append_assoc, List.dropWhile_append_of_pos leading]
  cases middle with
  | nil =>
      have blank : after.dropWhile isBlank = [] := List.dropWhile_eq_nil_iff.mpr trailing
      rw [List.nil_append, blank]
      rfl
  | cons c rest =>
      have solid' : ∀ d ∈ (c :: rest).reverse, isBlank d = false :=
        fun d member => solid d (List.mem_reverse.mp member)
      rw [List.cons_append, List.dropWhile_cons_of_neg (by simp [solid c]), ← List.cons_append,
        dropWhileEnd, List.reverse_append, List.dropWhile_append_of_pos trailing', kept _ solid',
        List.reverse_reverse]

end ContainerTasks.Text

namespace ContainerTasks.Progress

open Codec
open Codec.Wire (messageBytes)

namespace Timestamp

theorem fits_fields (time : Timestamp) : ∀ field ∈ time.fields, field.Fits := by
  simp only [fields, List.forall_mem_append]
  exact ⟨Wire.fits_int64Field (by decide) _, Wire.fits_int32Field (by decide) _⟩

theorem foldlM_fields (time : Timestamp) : time.fields.foldlM addField {} = some time := by
  obtain ⟨seconds, nanos⟩ := time
  refine Wire.foldlM_next (Wire.foldlM_int64Field seconds
    (fun seconds => ({ seconds } : Timestamp)) fun _ => rfl) ?_
  exact Wire.foldlM_int32Field nanos (fun nanos => ({ seconds, nanos } : Timestamp)) fun _ => rfl

theorem merge_written {depth : Nat} (room : 0 < depth) {time : Timestamp}
    (short : (messageBytes time.fields).length < 2 ^ 64) :
    merge depth none (.delimited (messageBytes time.fields)) = some (some time) := by
  have read := Wire.fields?_messageBytes room time.fits_fields short
  simp only [merge, Wire.Value.bytes?, Option.bind_eq_bind, Option.bind_some, read,
    Option.getD_none, foldlM_fields, Option.pure_def]

end Timestamp

theorem fits_timeField {number : Nat} (known : 0 < number ∧ number < 2 ^ 29)
    (time : Option Timestamp) : ∀ field ∈ timeField number time, field.Fits := by
  cases time with
  | none => simp [timeField]
  | some time =>
      intro field member
      cases List.mem_singleton.mp member
      exact Wire.fits_delimited known _

theorem foldlM_timeField {α : Type} {add : α → Wire.Field → Option α} {number depth : Nat}
    (room : 0 < depth) {time : Option Timestamp} (state : Option Timestamp → α)
    (takes : ∀ value, add (state none) ⟨number, value⟩ =
      (Timestamp.merge depth none value).map state)
    (short : (messageBytes (timeField number time)).length < 2 ^ 64) :
    (timeField number time).foldlM add (state none) = some (state time) := by
  cases time with
  | none => rfl
  | some time =>
      have inside : (messageBytes time.fields).length < 2 ^ 64 :=
        Nat.lt_of_le_of_lt (Wire.length_le_messageBytes List.mem_cons_self) short
      simp only [timeField, Option.toList_some, List.map_cons, List.map_nil, List.foldlM_cons,
        List.foldlM_nil, Wire.messageField, takes, Timestamp.merge_written room inside,
        Option.map_some, Option.bind_eq_bind, Option.bind_some, Option.pure_def]

namespace Vertex

theorem fits_fields (vertex : Vertex) : ∀ field ∈ vertex.fields, field.Fits := by
  simp only [fields, List.forall_mem_append, List.forall_mem_map]
  refine ⟨⟨⟨⟨⟨⟨?_, ?_⟩, ?_⟩, ?_⟩, ?_⟩, ?_⟩, ?_⟩
  · exact Wire.fits_textField (by decide) _
  · exact fun input _ => Wire.fits_delimited (by decide) _
  · exact Wire.fits_textField (by decide) _
  · exact Wire.fits_boolField (by decide) _
  · exact fits_timeField (by decide) _
  · exact fits_timeField (by decide) _
  · exact Wire.fits_textField (by decide) _

theorem foldlM_fields {depth : Nat} (room : 1 < depth) {vertex : Vertex}
    (short : (messageBytes vertex.fields).length < 2 ^ 64) :
    vertex.fields.foldlM (addField depth) {} = some vertex := by
  obtain ⟨digest, inputs, name, cached, started, completed, error⟩ := vertex
  have inner : 0 < depth - 1 := by omega
  simp only [fields, Wire.messageBytes_append, List.length_append] at short
  simp only [fields, List.append_assoc]
  -- Each step goes from the vertex with the fields so far to the vertex with one more.
  refine Wire.foldlM_next (Wire.foldlM_textField digest
    (fun digest => ({ digest } : Vertex)) fun _ => rfl) ?_
  refine Wire.foldlM_next (Wire.foldlM_repeated
    (fun inputs => ({ digest, inputs } : Vertex)) fun done input _ => ?_) ?_
  · simp only [addField, Wire.Value.text?_written, Option.map_some]
  refine Wire.foldlM_next (Wire.foldlM_textField name
    (fun name => ({ digest, inputs, name } : Vertex)) fun _ => rfl) ?_
  refine Wire.foldlM_next (Wire.foldlM_boolField cached
    (fun cached => ({ digest, inputs, name, cached } : Vertex)) fun _ => rfl) ?_
  refine Wire.foldlM_next (foldlM_timeField inner
    (fun started => ({ digest, inputs, name, cached, started } : Vertex))
    (fun _ => rfl) (by omega)) ?_
  refine Wire.foldlM_next (foldlM_timeField inner
    (fun completed => ({ digest, inputs, name, cached, started, completed } : Vertex))
    (fun _ => rfl) (by omega)) ?_
  exact Wire.foldlM_textField error
    (fun error => ({ digest, inputs, name, cached, started, completed, error } : Vertex))
    fun _ => rfl

theorem ofValue?_written {depth : Nat} (room : 1 < depth) {vertex : Vertex}
    (short : (messageBytes vertex.fields).length < 2 ^ 64) :
    ofValue? depth (.delimited (messageBytes vertex.fields)) = some vertex :=
  Wire.read_messageBytes (Nat.zero_lt_of_lt room) vertex.fits_fields short
    (foldlM_fields room short)

end Vertex

namespace Operation

theorem fits_fields (operation : Operation) : ∀ field ∈ operation.fields, field.Fits := by
  simp only [fields, List.forall_mem_append]
  refine ⟨⟨⟨⟨⟨⟨⟨?_, ?_⟩, ?_⟩, ?_⟩, ?_⟩, ?_⟩, ?_⟩, ?_⟩
  · exact Wire.fits_textField (by decide) _
  · exact Wire.fits_textField (by decide) _
  · exact Wire.fits_textField (by decide) _
  · exact Wire.fits_int64Field (by decide) _
  · exact Wire.fits_int64Field (by decide) _
  · exact fits_timeField (by decide) _
  · exact fits_timeField (by decide) _
  · exact fits_timeField (by decide) _

theorem foldlM_fields {depth : Nat} (room : 1 < depth) {operation : Operation}
    (short : (messageBytes operation.fields).length < 2 ^ 64) :
    operation.fields.foldlM (addField depth) {} = some operation := by
  obtain ⟨id, vertex, name, current, total, timestamp, started, completed⟩ := operation
  have inner : 0 < depth - 1 := by omega
  simp only [fields, Wire.messageBytes_append, List.length_append] at short
  simp only [fields, List.append_assoc]
  refine Wire.foldlM_next (Wire.foldlM_textField id
    (fun id => ({ id } : Operation)) fun _ => rfl) ?_
  refine Wire.foldlM_next (Wire.foldlM_textField vertex
    (fun vertex => ({ id, vertex } : Operation)) fun _ => rfl) ?_
  refine Wire.foldlM_next (Wire.foldlM_textField name
    (fun name => ({ id, vertex, name } : Operation)) fun _ => rfl) ?_
  refine Wire.foldlM_next (Wire.foldlM_int64Field current
    (fun current => ({ id, vertex, name, current } : Operation)) fun _ => rfl) ?_
  refine Wire.foldlM_next (Wire.foldlM_int64Field total
    (fun total => ({ id, vertex, name, current, total } : Operation)) fun _ => rfl) ?_
  refine Wire.foldlM_next (foldlM_timeField inner
    (fun timestamp => ({ id, vertex, name, current, total, timestamp } : Operation))
    (fun _ => rfl) (by omega)) ?_
  refine Wire.foldlM_next (foldlM_timeField inner
    (fun started => ({ id, vertex, name, current, total, timestamp, started } : Operation))
    (fun _ => rfl) (by omega)) ?_
  exact foldlM_timeField inner
    (fun completed =>
      ({ id, vertex, name, current, total, timestamp, started, completed } : Operation))
    (fun _ => rfl) (by omega)

theorem ofValue?_written {depth : Nat} (room : 1 < depth) {operation : Operation}
    (short : (messageBytes operation.fields).length < 2 ^ 64) :
    ofValue? depth (.delimited (messageBytes operation.fields)) = some operation :=
  Wire.read_messageBytes (Nat.zero_lt_of_lt room) operation.fits_fields short
    (foldlM_fields room short)

end Operation

namespace Printed

theorem fits_fields (printed : Printed) : ∀ field ∈ printed.fields, field.Fits := by
  simp only [fields, List.forall_mem_append]
  refine ⟨⟨⟨?_, ?_⟩, ?_⟩, ?_⟩
  · exact Wire.fits_textField (by decide) _
  · exact fits_timeField (by decide) _
  · exact Wire.fits_int64Field (by decide) _
  · exact Wire.fits_bytesField (by decide) _

theorem foldlM_fields {depth : Nat} (room : 1 < depth) {printed : Printed}
    (short : (messageBytes printed.fields).length < 2 ^ 64) :
    printed.fields.foldlM (addField depth) {} = some printed := by
  obtain ⟨vertex, timestamp, stream, message⟩ := printed
  have inner : 0 < depth - 1 := by omega
  simp only [fields, Wire.messageBytes_append, List.length_append] at short
  simp only [fields, List.append_assoc]
  refine Wire.foldlM_next (Wire.foldlM_textField vertex
    (fun vertex => ({ vertex } : Printed)) fun _ => rfl) ?_
  refine Wire.foldlM_next (foldlM_timeField inner
    (fun timestamp => ({ vertex, timestamp } : Printed)) (fun _ => rfl) (by omega)) ?_
  refine Wire.foldlM_next (Wire.foldlM_int64Field stream
    (fun stream => ({ vertex, timestamp, stream } : Printed)) fun _ => rfl) ?_
  exact Wire.foldlM_bytesField message
    (fun message => ({ vertex, timestamp, stream, message } : Printed)) fun _ => rfl

theorem ofValue?_written {depth : Nat} (room : 1 < depth) {printed : Printed}
    (short : (messageBytes printed.fields).length < 2 ^ 64) :
    ofValue? depth (.delimited (messageBytes printed.fields)) = some printed :=
  Wire.read_messageBytes (Nat.zero_lt_of_lt room) printed.fits_fields short
    (foldlM_fields room short)

end Printed

namespace Update

theorem fits_fields (update : Update) : ∀ field ∈ update.fields, field.Fits := by
  simp only [fields, List.forall_mem_append, List.forall_mem_map]
  refine ⟨⟨?_, ?_⟩, ?_⟩
  · exact fun vertex _ => Wire.fits_delimited (by decide) _
  · exact fun operation _ => Wire.fits_delimited (by decide) _
  · exact fun printed _ => Wire.fits_delimited (by decide) _

theorem foldlM_fields {update : Update} (short : update.toBytes.length < 2 ^ 64) :
    update.fields.foldlM addField {} = some update := by
  have room : 1 < groupDepth - 1 := by decide
  -- The lengths of the messages inside are bounded by the length of the whole.
  have inside (number : Nat) {fields : List Wire.Field}
      (member : Wire.messageField number fields ∈ update.fields) :
      (messageBytes fields).length < 2 ^ 64 :=
    Nat.lt_of_le_of_lt (Wire.length_le_messageBytes member) short
  obtain ⟨vertices, operations, printed⟩ := update
  simp only [fields, List.append_assoc] at inside ⊢
  refine Wire.foldlM_next (Wire.foldlM_repeated
    (fun vertices => ({ vertices } : Update)) fun done vertex member => ?_) ?_
  · have short' := inside 1 (List.mem_append_left _ (List.mem_map_of_mem member))
    simp only [addField, Wire.messageField, Vertex.ofValue?_written room short', Option.map_some]
  refine Wire.foldlM_next (Wire.foldlM_repeated
    (fun operations => ({ vertices, operations } : Update)) fun done operation member => ?_) ?_
  · have short' := inside 2 (List.mem_append_right _
      (List.mem_append_left _ (List.mem_map_of_mem member)))
    simp only [addField, Wire.messageField, Operation.ofValue?_written room short',
      Option.map_some]
  refine Wire.foldlM_repeated
    (fun printed => ({ vertices, operations, printed } : Update)) fun done item member => ?_
  have short' := inside 3 (List.mem_append_right _
    (List.mem_append_right _ (List.mem_map_of_mem member)))
  simp only [addField, Wire.messageField, Printed.ofValue?_written room short', Option.map_some]

/-- An update is read back from its bytes. -/
theorem ofBytes?_toBytes {update : Update} (short : update.toBytes.length < 2 ^ 64) :
    ofBytes? update.toBytes = some update :=
  Wire.read_messageBytes (by decide) update.fits_fields short (foldlM_fields short)

end Update

/-- **Sent updates are read back.** Whatever an update says, the records read from the
text in which it is sent are its records, with any blanks around that text. The length
of the update must be one that can be sent: lengths are written as numbers of 64 bits. -/
theorem Record.decode_sent (update : Update) {before after : List Char}
    (leading : ∀ c ∈ before, Text.isBlank c) (trailing : ∀ c ∈ after, Text.isBlank c)
    (short : update.toBytes.length < 2 ^ 64) :
    Record.decode (String.ofList (before ++ update.encode ++ after)) =
      .ok (Record.ofUpdate update) := by
  have trimmed : Text.trimChars (String.ofList (before ++ update.encode ++ after)).toList =
      Base64.encode update.toBytes := by
    rw [String.toList_ofList]
    exact Text.trimChars_surrounded leading (Base64.encode_not_blank update.toBytes) trailing
  simp only [Record.decode, trimmed, Base64.decode?_encode, Update.ofBytes?_toBytes short]

/-- An update with times before the epoch, a time that is written without fields, and the
least number. -/
theorem Record.decode_sent_signed :
    Record.decode (String.ofList (['\n', '\u3000'] ++
      Update.encode
        { vertices :=
            [{ digest := "v", inputs := ["", "ü"], cached := true,
               started := some ⟨-1, -1⟩, completed := some {}, error := "no 🐳" }],
          operations := [{ vertex := "v", name := "pull", current := -9223372036854775808 }],
          printed := [{ vertex := "v", timestamp := some ⟨1, -5⟩, message := [0, 255] }] } ++
      [' '])) =
    .ok
      [.declared "v" "", .started "v" ⟨0, 0⟩, .completed "v" true (some "no 🐳"),
       .operated "v" "pull" (-9223372036854775808) 0 false false,
       .printed "v" ⟨1, 0⟩ [0, 255]] :=
  Record.decode_sent _ (List.all_eq_true.mp (by decide)) (List.all_eq_true.mp (by decide))
    (by decide +kernel)

/-- A payload as a daemon sent it. -/
example :
    String.ofList (Update.encode
      { vertices :=
          [{ digest := "sha256:b0d05de0f7e63ee6dac9a3f05318ef2fc57203a3acc9438b95d0a550cd4be8ce",
             name := "[internal] load remote build context",
             started := some ⟨1600937634, 881842715⟩ }] }) =
      "Cn0KR3NoYTI1NjpiMGQwNWRlMGY3ZTYzZWU2ZGFjOWEzZjA1MzE4ZWYyZmM1NzIwM2EzYWNjOTQzOGI5NWQ" ++
      "wYTU1MGNkNGJlOGNlGiRbaW50ZXJuYWxdIGxvYWQgcmVtb3RlIGJ1aWxkIGNvbnRleHQqDAiivbH7BRCbtL+kAw==" :=
  by decide +kernel

end ContainerTasks.Progress
