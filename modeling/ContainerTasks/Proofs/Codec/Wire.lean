import ContainerTasks.Proofs.Codec.Grammar
import ContainerTasks.Proofs.Text.Utf8

/-! # Reading back written fields

Numbers, keys and fields are written in one of the forms in which they may stand in a message.
So fields that keep the bounds of the wire form (`Field.Fits`) are read back from the bytes
they were written to.
-/

namespace ContainerTasks.Codec.Wire

theorem digits_varintBytes (value : Nat) : Digits (varintBytes value) value := by
  induction value using Nat.strong_induction_on with
  | _ value ih =>
      rw [varintBytes]
      split
      · rename_i last
        have byte : (UInt8.ofNat value).toNat = value := by
          rw [UInt8.toNat_ofNat', Nat.mod_eq_of_lt (by omega)]
        have digits := @Digits.last (UInt8.ofNat value) (by omega)
        rwa [byte] at digits
      · have byte : (UInt8.ofNat (value % 128 + 128)).toNat = value % 128 + 128 := by
          rw [UInt8.toNat_ofNat', Nat.mod_eq_of_lt (by omega)]
        have whole : value % 128 + 128 - 128 + 128 * (value / 128) = value := by omega
        have digits := @Digits.more (UInt8.ofNat (value % 128 + 128)) _ _ (by omega)
          (ih (value / 128) (by omega))
        rwa [byte, whole] at digits

theorem length_varintBytes {limit value : Nat} (bound : value < 128 ^ (limit + 1)) :
    (varintBytes value).length ≤ limit + 1 := by
  induction limit generalizing value with
  | zero =>
      rw [varintBytes, if_pos (by omega)]
      exact Nat.le_refl 1
  | succ limit ih =>
      rw [varintBytes]
      split
      · exact Nat.le_add_left 1 _
      · have high : value / 128 < 128 ^ (limit + 1) := by
          rw [pow_succ] at bound
          omega
        exact Nat.succ_le_succ (ih high)

theorem numeral_varintBytes {value : Nat} (bound : value < 2 ^ 64) :
    Numeral (varintBytes value) value :=
  ⟨digits_varintBytes value, length_varintBytes (by norm_num at bound ⊢; omega), bound⟩

theorem keyed_toBytes (key : Key) (positive : 0 < key.number) (bound : key.number < 2 ^ 29) :
    Keyed key.toBytes key := by
  have small : key.wireType.toNat < 8 := by cases key.wireType <;> decide
  exact ⟨numeral_varintBytes (by omega), positive, bound⟩

/-- A field within the bounds of the wire form. The length of a delimited value is
bounded with the length of the message. -/
structure Field.Fits (field : Field) : Prop where
  positive : 0 < field.number
  bound : field.number < 2 ^ 29
  value : match field.value with
    | .varint value => value < 2 ^ 64
    | .fixed64 bytes => bytes.length = 8
    | .delimited _ | .group => True
    | .fixed32 bytes => bytes.length = 4

/-- A field is written in one of its forms. -/
theorem Field.Fits.spells {depth : Nat} {field : Field} (fits : field.Fits)
    (short : field.toBytes.length < 2 ^ 64) {fields : List Field} {more : Bytes}
    (later : Spells (depth + 1) fields more) :
    Spells (depth + 1) (field :: fields) (field.toBytes ++ more) := by
  obtain ⟨number, value⟩ := field
  have keyed (wireType : WireType) := keyed_toBytes ⟨number, wireType⟩ fits.positive fits.bound
  have inside := fits.value
  cases value with
  | varint value =>
      rw [Field.toBytes, List.append_assoc]
      exact .scalar (keyed _) (.varint (numeral_varintBytes inside)) later
  | fixed64 bytes =>
      rw [Field.toBytes, List.append_assoc]
      exact .scalar (keyed _) (.fixed64 inside) later
  | delimited bytes =>
      have size : bytes.length < 2 ^ 64 := by
        simp only [Field.toBytes, List.length_append] at short
        omega
      rw [Field.toBytes, List.append_assoc]
      exact .scalar (keyed _) (.delimited (numeral_varintBytes size)) later
  | group =>
      rw [Field.toBytes, List.append_assoc]
      exact .group (keyed _) .nil (keyed _) later
  | fixed32 bytes =>
      rw [Field.toBytes, List.append_assoc]
      exact .scalar (keyed _) (.fixed32 inside) later

theorem spells_messageBytes {depth : Nat} {fields : List Field}
    (fits : ∀ field ∈ fields, field.Fits)
    (short : (messageBytes fields).length < 2 ^ 64) :
    Spells (depth + 1) fields (messageBytes fields) := by
  induction fields with
  | nil => exact .nil
  | cons field rest ih =>
      have split : messageBytes (field :: rest) = field.toBytes ++ messageBytes rest :=
        List.flatMap_cons
      rw [split, List.length_append] at short
      rw [split]
      refine (fits field List.mem_cons_self).spells (by omega) (ih ?_ (by omega))
      exact fun later member => fits later (List.mem_cons_of_mem field member)

/-- Written fields are read back. -/
theorem fields?_messageBytes {depth : Nat} (room : 0 < depth) {fields : List Field}
    (fits : ∀ field ∈ fields, field.Fits) (short : (messageBytes fields).length < 2 ^ 64) :
    fields? depth (messageBytes fields) = some fields := by
  obtain ⟨depth, rfl⟩ := Nat.exists_eq_add_one.mpr room
  exact fields?_eq_some_iff.mpr (spells_messageBytes fits short)

/-! ### The fields of a message with known numbers -/

section Writers

variable {number : Nat}

theorem fits_numberField (known : 0 < number ∧ number < 2 ^ 29) {value : Nat}
    (bound : value < 2 ^ 64) : ∀ field ∈ numberField number value, field.Fits := by
  intro field member
  unfold numberField at member
  split at member
  · cases member
  · cases List.mem_singleton.mp member
    exact ⟨known.1, known.2, bound⟩

theorem fits_int64Field (known : 0 < number ∧ number < 2 ^ 29) (value : Int64) :
    ∀ field ∈ int64Field number value, field.Fits :=
  fits_numberField known value.toUInt64.toNat_lt

theorem fits_int32Field (known : 0 < number ∧ number < 2 ^ 29) (value : Int32) :
    ∀ field ∈ int32Field number value, field.Fits :=
  fits_int64Field known value.toInt64

theorem fits_boolField (known : 0 < number ∧ number < 2 ^ 29) (value : Bool) :
    ∀ field ∈ boolField number value, field.Fits :=
  fits_numberField known (by cases value <;> decide)

theorem fits_delimited (known : 0 < number ∧ number < 2 ^ 29) (bytes : Bytes) :
    Field.Fits ⟨number, .delimited bytes⟩ :=
  ⟨known.1, known.2, trivial⟩

theorem fits_bytesField (known : 0 < number ∧ number < 2 ^ 29) (bytes : Bytes) :
    ∀ field ∈ bytesField number bytes, field.Fits := by
  intro field member
  unfold bytesField at member
  split at member
  · cases member
  · cases List.mem_singleton.mp member
    exact fits_delimited known bytes

theorem fits_textField (known : 0 < number ∧ number < 2 ^ 29) (text : String) :
    ∀ field ∈ textField number text, field.Fits :=
  fits_bytesField known (Text.Utf8.ofString text)

end Writers

theorem messageBytes_append (first second : List Field) :
    messageBytes (first ++ second) = messageBytes first ++ messageBytes second :=
  List.flatMap_append

/-- What a field holds is no longer than the message. -/
theorem length_le_messageBytes {number : Nat} {bytes : Bytes} {fields : List Field}
    (member : ⟨number, .delimited bytes⟩ ∈ fields) :
    bytes.length ≤ (messageBytes fields).length := by
  obtain ⟨before, after, rfl⟩ := List.append_of_mem member
  rw [messageBytes_append]
  simp only [messageBytes, List.flatMap_cons, Field.toBytes, List.length_append]
  omega

/-! ### Taking the fields in

A message is read by taking its fields into a state, one after another. The following
add the fields of one value of the message: `state` is the state with a value in that
place, which holds the default before, so that what is not written is not missed.
-/

namespace Value

theorem int64?_written (value : Int64) :
    (varint value.toUInt64.toNat).int64? = some value := by
  have same : Int64.ofNat value.toUInt64.toNat = value := by
    rw [← Int64.toBitVec_inj]
    change BitVec.ofNat 64 value.toBitVec.toNat = value.toBitVec
    rw [BitVec.ofNat_toNat, BitVec.setWidth_eq]
  rw [int64?, natural?, Option.map_some, same]

theorem int32?_written (value : Int32) :
    (varint value.toInt64.toUInt64.toNat).int32? = some value := by
  have same : Int32.ofNat value.toInt64.toUInt64.toNat = value := by
    rw [← Int32.toBitVec_inj]
    change BitVec.ofNat 32 value.toInt64.toBitVec.toNat = value.toBitVec
    rw [BitVec.ofNat_toNat, ← BitVec.signExtend_eq_setWidth_of_le _ (by decide),
      ← Int64.toBitVec_toInt32, Int32.toInt32_toInt64]
  rw [int32?, natural?, Option.map_some, same]

theorem text?_written (text : String) :
    (delimited (Text.Utf8.ofString text)).text? = some text := by
  rw [text?, bytes?, Option.bind_some, Text.Utf8.toString?_ofString]

end Value

section TakingIn

variable {α : Type} {add : α → Field → Option α} {number : Nat}

/-- A message with one part behind another. -/
theorem foldlM_next {first second : List Field} {start middle final : α}
    (taken : first.foldlM add start = some middle)
    (rest : second.foldlM add middle = some final) :
    (first ++ second).foldlM add start = some final := by
  rw [List.foldlM_append, taken, Option.bind_eq_bind, Option.bind_some, rest]

/-- A written message is read by taking in the fields it was written from. -/
theorem read_messageBytes {depth : Nat} (room : 0 < depth) {fields : List Field}
    (fits : ∀ field ∈ fields, field.Fits) (short : (messageBytes fields).length < 2 ^ 64)
    {start final : α} (taken : fields.foldlM add start = some final) :
    ((fields? depth (messageBytes fields)).bind fun fields => fields.foldlM add start) =
      some final := by
  rw [fields?_messageBytes room fits short, Option.bind_some, taken]

theorem foldlM_numberField {β : Type} {read : Value → Option β} {value initial : β}
    {code : Nat} (state : β → α) (written : read (.varint code) = some value)
    (unset : read (.varint 0) = some initial)
    (takes : ∀ value, add (state initial) ⟨number, value⟩ = (read value).map state) :
    (numberField number code).foldlM add (state initial) = some (state value) := by
  unfold numberField
  split
  · rename_i zero
    rw [zero, unset] at written
    cases written
    rfl
  · simp [takes, written]

theorem foldlM_int64Field (value : Int64) (state : Int64 → α)
    (takes : ∀ value, add (state 0) ⟨number, value⟩ = value.int64?.map state) :
    (int64Field number value).foldlM add (state 0) = some (state value) :=
  foldlM_numberField state (Value.int64?_written value) rfl takes

theorem foldlM_int32Field (value : Int32) (state : Int32 → α)
    (takes : ∀ value, add (state 0) ⟨number, value⟩ = value.int32?.map state) :
    (int32Field number value).foldlM add (state 0) = some (state value) :=
  foldlM_numberField state (Value.int32?_written value) rfl takes

theorem foldlM_boolField (value : Bool) (state : Bool → α)
    (takes : ∀ value, add (state false) ⟨number, value⟩ = value.bool?.map state) :
    (boolField number value).foldlM add (state false) = some (state value) :=
  foldlM_numberField state (by cases value <;> rfl) rfl takes

theorem foldlM_delimited {β : Type} {read : Value → Option β} {value initial : β}
    {bytes : Bytes} (state : β → α) (written : read (.delimited bytes) = some value)
    (unset : read (.delimited []) = some initial)
    (takes : ∀ value, add (state initial) ⟨number, value⟩ = (read value).map state) :
    (bytesField number bytes).foldlM add (state initial) = some (state value) := by
  cases bytes with
  | nil =>
      rw [unset] at written
      cases written
      rfl
  | cons byte rest => simp [bytesField, takes, written]

theorem foldlM_bytesField (bytes : Bytes) (state : Bytes → α)
    (takes : ∀ value, add (state []) ⟨number, value⟩ = value.bytes?.map state) :
    (bytesField number bytes).foldlM add (state []) = some (state bytes) :=
  foldlM_delimited state rfl rfl takes

theorem foldlM_textField (text : String) (state : String → α)
    (takes : ∀ value, add (state "") ⟨number, value⟩ = value.text?.map state) :
    (textField number text).foldlM add (state "") = some (state text) :=
  foldlM_delimited state (Value.text?_written text) (Value.text?_written "") takes

/-- Values that may be repeated are taken in at the end, one after another. -/
theorem foldlM_repeated {ι : Type} {write : ι → Field} {items : List ι} (state : List ι → α)
    (takes : ∀ done, ∀ item ∈ items,
      add (state done) (write item) = some (state (done ++ [item]))) :
    (items.map write).foldlM add (state []) = some (state items) := by
  suffices onwards : ∀ done, (items.map write).foldlM add (state done) =
      some (state (done ++ items)) from onwards []
  induction items with
  | nil =>
      intro done
      rw [List.append_nil]
      rfl
  | cons item rest ih =>
      intro done
      rw [List.map_cons, List.foldlM_cons, takes done item List.mem_cons_self,
        Option.bind_eq_bind, Option.bind_some,
        ih (fun done later member => takes done later (List.mem_cons_of_mem item member)),
        List.append_assoc, List.singleton_append]

end TakingIn

end ContainerTasks.Codec.Wire
