import Mathlib.Tactic.NormNum
import Mathlib.Tactic.Positivity
import ContainerTasks.Codec.Wire.Writer

/-! # What a message spells

The bytes of a message, as any writer may put them: a number need not have its shortest form,
and a group may hold fields and further groups (`Spells`). Reading finds exactly the fields that
the bytes spell (`fields?_eq_some_iff`), and whole fields at the front of a message are read
before the rest (`Spells.fields?_append`).
-/

namespace ContainerTasks.Codec.Wire

/-- A number in base 128, low digits first: all bytes but the last have their top bit set.
There may be more digits than are needed. -/
inductive Digits : Bytes → Nat → Prop
  | last {byte : UInt8} (low : byte.toNat < 128) : Digits [byte] byte.toNat
  | more {byte : UInt8} {rest : Bytes} {value : Nat} (high : 128 ≤ byte.toNat)
      (digits : Digits rest value) : Digits (byte :: rest) (byte.toNat - 128 + 128 * value)

/-- A number of 64 bits in ten bytes at most. -/
structure Numeral (bytes : Bytes) (value : Nat) : Prop where
  digits : Digits bytes value
  length : bytes.length ≤ 10
  bound : value < 2 ^ 64

theorem Digits.read {bytes : Bytes} {value limit : Nat} (digits : Digits bytes value)
    (length : bytes.length ≤ limit + 1) (bound : value < 2 * 128 ^ limit) (rest : Bytes) :
    varintWithin (limit + 1) (bytes ++ rest) = some (value, rest) := by
  induction digits generalizing limit with
  | last low =>
      cases limit with
      | zero => rw [List.singleton_append, varintWithin, if_pos (by omega)]
      | succ limit => rw [List.singleton_append, varintWithin, if_pos low]
  | @more byte bytes value high digits ih =>
      cases limit with
      | zero =>
          cases digits <;> simp at length
      | succ limit =>
          have high' : value < 2 * 128 ^ limit := by
            rw [pow_succ] at bound
            omega
          rw [List.cons_append, varintWithin, if_neg (by omega),
            ih (Nat.le_of_succ_le_succ length) high']

theorem exists_digits_of_read {limit : Nat} {bytes rest : Bytes} {value : Nat}
    (read : varintWithin (limit + 1) bytes = some (value, rest)) :
    ∃ front, bytes = front ++ rest ∧ Digits front value ∧ front.length ≤ limit + 1 ∧
      value < 2 * 128 ^ limit := by
  induction limit generalizing bytes value with
  | zero =>
      cases bytes with
      | nil => cases read
      | cons byte tail =>
          rw [varintWithin, Option.ite_none_right_eq_some] at read
          obtain ⟨low, same⟩ := read
          cases same
          exact ⟨[byte], rfl, .last (by omega), Nat.le_refl 1, low⟩
  | succ limit ih =>
      cases bytes with
      | nil => cases read
      | cons byte tail =>
          rw [varintWithin] at read
          by_cases low : byte.toNat < 128
          · rw [if_pos low] at read
            cases read
            have positive : 0 < 128 ^ limit := by positivity
            exact ⟨[byte], rfl, .last low, Nat.le_add_left 1 _, by rw [pow_succ]; omega⟩
          · rw [if_neg low] at read
            cases further : varintWithin (limit + 1) tail with
            | none =>
                rw [further] at read
                cases read
            | some found =>
                obtain ⟨high, after⟩ := found
                rw [further] at read
                cases read
                obtain ⟨front, rfl, digits, length, bound⟩ := ih further
                refine ⟨byte :: front, rfl, .more (by omega) digits,
                  Nat.succ_le_succ length, ?_⟩
                have small := byte.toNat_lt
                rw [pow_succ]
                omega

/-- A number is read from the front of a byte string if it is written there. -/
theorem varint?_eq_some_iff {bytes rest : Bytes} {value : Nat} :
    varint? bytes = some (value, rest) ↔
      ∃ numeral, bytes = numeral ++ rest ∧ Numeral numeral value := by
  have bits : 2 * 128 ^ 9 = 2 ^ 64 := by norm_num
  constructor
  · intro read
    obtain ⟨front, whole, digits, length, bound⟩ := exists_digits_of_read read
    exact ⟨front, whole, digits, length, bits ▸ bound⟩
  · rintro ⟨numeral, rfl, digits, length, bound⟩
    exact digits.read length (bits ▸ bound) rest

/-- A key as it may be written. -/
structure Keyed (bytes : Bytes) (key : Key) : Prop where
  numeral : Numeral bytes (key.number * 8 + key.wireType.toNat)
  positive : 0 < key.number
  bound : key.number < 2 ^ 29

theorem WireType.ofNat?_toNat (wireType : WireType) :
    WireType.ofNat? wireType.toNat = some wireType := by
  cases wireType <;> rfl

theorem WireType.ofNat?_eq_some_iff {number : Nat} {wireType : WireType} :
    WireType.ofNat? number = some wireType ↔ number = wireType.toNat := by
  constructor
  · intro named
    unfold WireType.ofNat? at named
    split at named <;> cases named <;> rfl
  · rintro rfl
    exact ofNat?_toNat wireType

theorem key?_eq_some_iff {bytes rest : Bytes} {key : Key} :
    key? bytes = some (key, rest) ↔ ∃ front, bytes = front ++ rest ∧ Keyed front key := by
  have small : key.wireType.toNat < 8 := by cases key.wireType <;> decide
  constructor
  · intro read
    unfold key? at read
    split at read
    · cases read
    · rename_i value after found
      rw [Option.ite_none_right_eq_some] at read
      obtain ⟨⟨below, above⟩, read⟩ := read
      split at read
      · cases read
      · rename_i wireType named
        cases read
        obtain ⟨front, rfl, numeral⟩ := varint?_eq_some_iff.mp found
        have low := WireType.ofNat?_eq_some_iff.mp named
        have same : value / 8 * 8 + wireType.toNat = value := by omega
        have bits : Nat.pow 2 32 = 2 ^ 32 := rfl
        exact ⟨front, rfl, same.symm ▸ numeral, by dsimp only; omega, by dsimp only; omega⟩
  · rintro ⟨front, rfl, numeral, positive, bound⟩
    have low : (key.number * 8 + key.wireType.toNat) % 8 = key.wireType.toNat := by omega
    have high : (key.number * 8 + key.wireType.toNat) / 8 = key.number := by omega
    have fits : key.number * 8 + key.wireType.toNat < Nat.pow 2 32 ∧
        8 ≤ key.number * 8 + key.wireType.toNat := by
      norm_num at bound ⊢
      omega
    rw [key?, varint?_eq_some_iff.mpr ⟨front, rfl, numeral⟩]
    simp only [if_pos fits, low, high, WireType.ofNat?_toNat]

/-- What follows the key of a field that is no group. -/
inductive Content : WireType → Value → Bytes → Prop
  | varint {bytes : Bytes} {value : Nat} (numeral : Numeral bytes value) :
      Content .varint (.varint value) bytes
  | fixed64 {bytes : Bytes} (length : bytes.length = 8) : Content .fixed64 (.fixed64 bytes) bytes
  | delimited {size bytes : Bytes} (numeral : Numeral size bytes.length) :
      Content .delimited (.delimited bytes) (size ++ bytes)
  | fixed32 {bytes : Bytes} (length : bytes.length = 4) : Content .fixed32 (.fixed32 bytes) bytes

theorem take?_eq_some_iff {count : Nat} {bytes value rest : Bytes} :
    take? count bytes = some (value, rest) ↔ bytes = value ++ rest ∧ value.length = count := by
  constructor
  · intro read
    rw [take?, Option.ite_none_right_eq_some, Option.some.injEq, Prod.mk.injEq] at read
    obtain ⟨enough, rfl, rfl⟩ := read
    exact ⟨(List.take_append_drop count bytes).symm, List.length_take_of_le enough⟩
  · rintro ⟨rfl, length⟩
    rw [take?, if_pos (by simp [length]), List.take_left' length, List.drop_left' length]

theorem scalar?_eq_some_iff {wireType : WireType} {bytes rest : Bytes} {value : Value} :
    scalar? wireType bytes = some (value, rest) ↔
      ∃ content, bytes = content ++ rest ∧ Content wireType value content := by
  constructor
  · intro read
    cases wireType with
    | groupStart | groupEnd => cases read
    | varint =>
        rw [scalar?, Option.map_eq_some_iff] at read
        obtain ⟨⟨number, after⟩, found, same⟩ := read
        cases same
        obtain ⟨numeral, rfl, written⟩ := varint?_eq_some_iff.mp found
        exact ⟨numeral, rfl, .varint written⟩
    | fixed64 =>
        rw [scalar?, Option.map_eq_some_iff] at read
        obtain ⟨⟨taken, after⟩, found, same⟩ := read
        cases same
        obtain ⟨rfl, length⟩ := take?_eq_some_iff.mp found
        exact ⟨taken, rfl, .fixed64 length⟩
    | fixed32 =>
        rw [scalar?, Option.map_eq_some_iff] at read
        obtain ⟨⟨taken, after⟩, found, same⟩ := read
        cases same
        obtain ⟨rfl, length⟩ := take?_eq_some_iff.mp found
        exact ⟨taken, rfl, .fixed32 length⟩
    | delimited =>
        simp only [scalar?, Option.bind_eq_bind, Option.bind_eq_some_iff, Option.pure_def,
          Option.some.injEq, Prod.exists] at read
        obtain ⟨count, middle, foundSize, taken, after, found, same⟩ := read
        cases same
        obtain ⟨size, rfl, written⟩ := varint?_eq_some_iff.mp foundSize
        obtain ⟨rfl, rfl⟩ := take?_eq_some_iff.mp found
        exact ⟨size ++ taken, (List.append_assoc ..).symm, .delimited written⟩
  · rintro ⟨content, rfl, written⟩
    cases written with
    | varint numeral =>
        rw [scalar?, varint?_eq_some_iff.mpr ⟨content, rfl, numeral⟩, Option.map_some]
    | fixed64 length => rw [scalar?, take?_eq_some_iff.mpr ⟨rfl, length⟩, Option.map_some]
    | fixed32 length => rw [scalar?, take?_eq_some_iff.mpr ⟨rfl, length⟩, Option.map_some]
    | @delimited size bytes numeral =>
        have count := varint?_eq_some_iff.mpr ⟨size, List.append_assoc size bytes rest, numeral⟩
        have taken : take? bytes.length (bytes ++ rest) = some (bytes, rest) :=
          take?_eq_some_iff.mpr ⟨rfl, rfl⟩
        simp only [scalar?, count, taken, Option.bind_eq_bind, Option.bind_some, Option.pure_def]

theorem isEmpty_of_key? {bytes rest : Bytes} {key : Key} (read : key? bytes = some (key, rest)) :
    bytes.isEmpty = false := by
  cases bytes with
  | nil => cases read
  | cons byte bytes => rfl

theorem fieldsFrom_nil (depth : Nat) (opened : List Nat) :
    fieldsFrom depth opened [] = if opened.isEmpty then some [] else none := by
  rw [fieldsFrom]
  rfl

/-- One step of reading: what becomes of the fields behind a key. -/
theorem fieldsFrom_of_key {depth : Nat} {opened : List Nat} {bytes rest : Bytes} {key : Key}
    (readKey : key? bytes = some (key, rest)) :
    fieldsFrom depth opened bytes =
      match key.wireType, opened with
      | .groupEnd, [] => none
      | .groupEnd, number :: outer =>
        if key.number = number then fieldsFrom depth outer rest else none
      | .groupStart, _ =>
        if depth ≤ opened.length then none
        else if opened.isEmpty then
          (fieldsFrom depth [key.number] rest).map (⟨key.number, .group⟩ :: ·)
        else fieldsFrom depth (key.number :: opened) rest
      | wireType, _ =>
        if depth ≤ opened.length then none
        else
          (scalar? wireType rest).bind fun (value, after) =>
            if opened.isEmpty then (fieldsFrom depth [] after).map (⟨key.number, value⟩ :: ·)
            else fieldsFrom depth opened after := by
  have filled := isEmpty_of_key? readKey
  obtain ⟨number, wireType⟩ := key
  rw [fieldsFrom, if_neg (by simp [filled])]
  split
  · rename_i unread
    rw [readKey] at unread
    cases unread
  · rename_i found
    rw [readKey] at found
    cases found
    cases wireType with
    | groupEnd => cases opened <;> rfl
    | groupStart => rfl
    | varint | fixed64 | delimited | fixed32 =>
        dsimp only
        split
        · rfl
        · split
          · rename_i unread
            rw [unread]
            rfl
          · rename_i taken
            rw [taken]
            rfl

/-- Bytes that spell fields in which `depth` groups may be nested. A group stands between two
keys of its number, and what it holds does not count. -/
inductive Spells : (depth : Nat) → List Field → Bytes → Prop
  | nil {depth : Nat} : Spells depth [] []
  | scalar {depth number : Nat} {wireType : WireType} {value : Value} {fields : List Field}
      {key content more : Bytes} (keyed : Keyed key ⟨number, wireType⟩)
      (holds : Content wireType value content) (later : Spells (depth + 1) fields more) :
      Spells (depth + 1) (⟨number, value⟩ :: fields) (key ++ (content ++ more))
  | group {depth number : Nat} {inner fields : List Field} {start content stop more : Bytes}
      (starts : Keyed start ⟨number, .groupStart⟩) (holds : Spells depth inner content)
      (stops : Keyed stop ⟨number, .groupEnd⟩) (later : Spells (depth + 1) fields more) :
      Spells (depth + 1) (⟨number, .group⟩ :: fields) (start ++ (content ++ (stop ++ more)))

theorem fieldsFrom_scalar {depth : Nat} {opened : List Nat} (room : opened.length < depth)
    {number : Nat} {wireType : WireType} {value : Value} {key content : Bytes}
    (keyed : Keyed key ⟨number, wireType⟩) (holds : Content wireType value content) (rest : Bytes) :
    fieldsFrom depth opened (key ++ (content ++ rest)) =
      if opened.isEmpty then (fieldsFrom depth [] rest).map (⟨number, value⟩ :: ·)
      else fieldsFrom depth opened rest := by
  have readValue : scalar? wireType (content ++ rest) = some (value, rest) :=
    scalar?_eq_some_iff.mpr ⟨content, rfl, holds⟩
  rw [fieldsFrom_of_key (key?_eq_some_iff.mpr ⟨key, rfl, keyed⟩)]
  cases holds <;> simp only [if_neg (Nat.not_le_of_gt room), readValue, Option.bind_some]

/-- Fields are read from the front of a byte string, and dropped inside a group. -/
theorem Spells.read {depth : Nat} {fields : List Field} {bytes : Bytes}
    (spells : Spells depth fields bytes) (opened : List Nat) (rest : Bytes) :
    fieldsFrom (depth + opened.length) opened (bytes ++ rest) =
      if opened.isEmpty then (fieldsFrom (depth + opened.length) [] rest).map (fields ++ ·)
      else fieldsFrom (depth + opened.length) opened rest := by
  induction spells generalizing opened rest with
  | nil =>
      cases opened <;> simp
  | @scalar depth number wireType value fields key content more keyed holds later ih =>
      have room : opened.length < depth + 1 + opened.length := by omega
      rw [List.append_assoc, List.append_assoc, fieldsFrom_scalar room keyed holds]
      cases opened with
      | nil =>
          have further := ih [] rest
          rw [if_pos List.isEmpty_nil] at further ⊢
          rw [if_pos List.isEmpty_nil, further, Option.map_map]
          rfl
      | cons outermost outer => exact ih _ rest
  | @group depth number inner fields start content stop more starts holds stops later ihInner ih =>
      have room : ¬ depth + 1 + opened.length ≤ opened.length := by omega
      have level : depth + 1 + opened.length = depth + (number :: opened).length := by
        rw [List.length_cons]
        omega
      simp only [List.append_assoc]
      rw [fieldsFrom_of_key (key?_eq_some_iff.mpr ⟨start, rfl, starts⟩)]
      have inside : fieldsFrom (depth + 1 + opened.length) (number :: opened)
          (content ++ (stop ++ (more ++ rest))) =
            fieldsFrom (depth + 1 + opened.length) opened (more ++ rest) := by
        rw [level, ihInner, if_neg (by simp),
          fieldsFrom_of_key (key?_eq_some_iff.mpr ⟨stop, rfl, stops⟩)]
        exact if_pos rfl
      cases opened with
      | nil =>
          have further := ih [] rest
          rw [if_pos List.isEmpty_nil] at further ⊢
          dsimp only at inside ⊢
          rw [if_neg room, if_pos List.isEmpty_nil, inside, further, Option.map_map]
          rfl
      | cons outermost outer =>
          dsimp only
          rw [if_neg room, if_neg (by simp), inside]
          exact ih _ rest

/-- What is left to read inside groups: the rest of the innermost one, its end, and so on
outwards. -/
def Closes (depth : Nat) : List Nat → Bytes → List Field → Prop
  | [], bytes, fields => Spells depth fields bytes
  | number :: outer, bytes, fields =>
    ∃ inner content stop rest, bytes = content ++ (stop ++ rest) ∧
      Spells (depth - (outer.length + 1)) inner content ∧ Keyed stop ⟨number, .groupEnd⟩ ∧
      Closes depth outer rest fields

/-- A field that is read inside a group belongs to what the group holds. -/
theorem Closes.scalar {depth number : Nat} {opened : List Nat} {wireType : WireType} {value : Value}
    {key content rest : Bytes} {fields : List Field} (room : opened.length < depth)
    (keyed : Keyed key ⟨number, wireType⟩) (holds : Content wireType value content)
    (closes : Closes depth opened rest fields) :
    Closes depth opened (key ++ (content ++ rest))
      (if opened.isEmpty then ⟨number, value⟩ :: fields else fields) := by
  cases opened with
  | nil =>
      obtain ⟨depth, rfl⟩ := Nat.exists_eq_add_one.mpr room
      exact Spells.scalar keyed holds closes
  | cons outermost outer =>
      obtain ⟨inner, before, stop, after, rfl, spells, stops, outside⟩ := closes
      have level : depth - (outer.length + 1) = depth - (outer.length + 2) + 1 := by
        rw [List.length_cons] at room
        omega
      refine ⟨⟨number, value⟩ :: inner, key ++ (content ++ before), stop, after, ?_, ?_, stops,
        outside⟩
      · simp only [List.append_assoc]
      · rw [level] at spells ⊢
        exact .scalar keyed holds spells

/-- A group that is opened has to be closed before the one around it. -/
theorem Closes.group {depth number : Nat} {opened : List Nat} {start rest : Bytes}
    {fields : List Field} (room : opened.length < depth)
    (starts : Keyed start ⟨number, .groupStart⟩)
    (closes : Closes depth (number :: opened) rest fields) :
    Closes depth opened (start ++ rest)
      (if opened.isEmpty then ⟨number, .group⟩ :: fields else fields) := by
  obtain ⟨inner, content, stop, after, rfl, spells, stops, outside⟩ := closes
  cases opened with
  | nil =>
      obtain ⟨depth, rfl⟩ := Nat.exists_eq_add_one.mpr room
      exact Spells.group starts spells stops outside
  | cons outermost outer =>
      obtain ⟨later, before, end', beyond, rfl, spellsLater, stopsOuter, outside⟩ := outside
      have level : depth - (outer.length + 1) = depth - (outer.length + 1 + 1) + 1 := by
        rw [List.length_cons] at room
        omega
      refine ⟨⟨number, .group⟩ :: later, start ++ (content ++ (stop ++ before)), end', beyond,
        ?_, ?_, stopsOuter, outside⟩
      · simp only [List.append_assoc]
      · rw [level] at spellsLater ⊢
        exact .group starts spells stops spellsLater

theorem closes_of_read {depth : Nat} {opened : List Nat} {bytes : Bytes} {fields : List Field}
    (room : opened.length ≤ depth) (read : fieldsFrom depth opened bytes = some fields) :
    Closes depth opened bytes fields := by
  fun_induction fieldsFrom depth opened bytes generalizing fields with
  | case1 opened bytes ended outside =>
      cases read
      rw [List.isEmpty_iff.mp ended, List.isEmpty_iff.mp outside]
      exact .nil
  | case2 | case3 | case4 | case6 | case7 | case10 | case11 => cases read
  | case5 bytes _ key rest readKey stops outer ih =>
      obtain ⟨stop, rfl, keyed⟩ := key?_eq_some_iff.mp readKey
      obtain ⟨number, wireType⟩ := key
      cases stops
      exact ⟨[], [], stop, rest, rfl, .nil, keyed, ih (Nat.le_of_succ_le room) read⟩
  | case8 opened bytes _ key rest readKey starts free outside ih =>
      obtain ⟨start, rfl, keyed⟩ := key?_eq_some_iff.mp readKey
      obtain ⟨number, wireType⟩ := key
      cases starts
      cases List.isEmpty_iff.mp outside
      obtain ⟨later, readLater, rfl⟩ := Option.map_eq_some_iff.mp read
      exact .group (Nat.lt_of_not_le free) keyed (ih (Nat.lt_of_not_le free) readLater)
  | case9 opened bytes _ key rest readKey starts free inside ih =>
      obtain ⟨start, rfl, keyed⟩ := key?_eq_some_iff.mp readKey
      obtain ⟨number, wireType⟩ := key
      cases starts
      have closes := Closes.group (Nat.lt_of_not_le free) keyed (ih (Nat.lt_of_not_le free) read)
      rwa [if_neg inside] at closes
  | case12 opened bytes _ key rest readKey free value after outside _ _ readValue ih =>
      obtain ⟨front, rfl, keyed⟩ := key?_eq_some_iff.mp readKey
      obtain ⟨content, rfl, holds⟩ := scalar?_eq_some_iff.mp readValue
      cases List.isEmpty_iff.mp outside
      obtain ⟨later, readLater, rfl⟩ := Option.map_eq_some_iff.mp read
      exact .scalar (Nat.lt_of_not_le free) keyed holds (ih (Nat.zero_le depth) readLater)
  | case13 opened bytes _ key rest readKey free value after inside _ _ readValue ih =>
      obtain ⟨front, rfl, keyed⟩ := key?_eq_some_iff.mp readKey
      obtain ⟨content, rfl, holds⟩ := scalar?_eq_some_iff.mp readValue
      have closes := Closes.scalar (Nat.lt_of_not_le free) keyed holds (ih room read)
      rwa [if_neg inside] at closes

/-- **What a message spells.** Reading gives the fields that the bytes spell, and nothing where
they spell none. -/
theorem fields?_eq_some_iff {depth : Nat} {bytes : Bytes} {fields : List Field} :
    fields? depth bytes = some fields ↔ Spells depth fields bytes := by
  constructor
  · exact closes_of_read (Nat.zero_le depth)
  · intro spells
    have read := spells.read [] []
    rw [List.append_nil, if_pos List.isEmpty_nil] at read
    refine read.trans ?_
    rw [fieldsFrom_nil, if_pos List.isEmpty_nil, Option.map_some, List.append_nil]

/-- Whole fields at the front are read before the rest. -/
theorem Spells.fields?_append {depth : Nat} {fields : List Field} {bytes : Bytes}
    (spells : Spells depth fields bytes) (rest : Bytes) :
    fields? depth (bytes ++ rest) = (fields? depth rest).map (fields ++ ·) :=
  spells.read [] rest

end ContainerTasks.Codec.Wire
