import Mathlib.Tactic.IntervalCases
import Mathlib.Tactic.SplitIfs
import ContainerTasks.Text.Utf8

/-! # Reading back written text

The bytes of a character lead the strict decoder through the forms of one to four
bytes: the first byte opens a character whose range for the second byte is wide
enough for every code point of that length, and each further byte adds six bits.
So the bytes of a text are decoded to that text. The ranges let no more in than
that, so bytes that are decoded are those of a text (`decode?_eq_some_iff`), and
there the lossy decoder finds the same text.
-/

namespace ContainerTasks.Text.Utf8

theorem lead_of_two {high : Nat} (low : 2 ≤ high) (bound : high < 32) :
    lead (UInt8.ofNat (high + 192)) = .opened ⟨high, 0x80, 0xBF, 0⟩ := by
  interval_cases high <;> rfl

theorem lead_of_three {high : Nat} (bound : high < 16) :
    lead (UInt8.ofNat (high + 224)) =
      .opened ⟨high, if high = 0 then 0xA0 else 0x80, if high = 13 then 0x9F else 0xBF, 1⟩ := by
  interval_cases high <;> rfl

theorem lead_of_four {high : Nat} (bound : high < 5) :
    lead (UInt8.ofNat (high + 240)) =
      .opened ⟨high, if high = 0 then 0x90 else 0x80, if high = 4 then 0x8F else 0xBF, 2⟩ := by
  interval_cases high <;> rfl

/-- A further byte with its six bits. -/
def further (digit : Nat) : UInt8 :=
  UInt8.ofNat (digit % 64 + 128)

theorem further_toNat (digit : Nat) : (further digit).toNat = digit % 64 + 128 := by
  rw [further, UInt8.toNat_ofNat', Nat.mod_eq_of_lt (by omega)]

theorem Opened.next_further {opened : Opened} {digit : Nat}
    (low : opened.low.toNat ≤ digit % 64 + 128) (high : digit % 64 + 128 ≤ opened.high.toNat) :
    opened.next (further digit) =
      match opened.after with
      | 0 => .scalar (Char.ofNat (opened.value * 64 + digit % 64))
      | after + 1 => .opened ⟨opened.value * 64 + digit % 64, 0x80, 0xBF, after⟩ := by
  have bits : (digit % 64 + 128) % 64 = digit % 64 := by omega
  have inside : (opened.low ≤ further digit && further digit ≤ opened.high) = true := by
    simp only [Bool.and_eq_true, decide_eq_true_eq, UInt8.le_iff_toNat_le, further_toNat]
    exact ⟨low, high⟩
  simp only [Opened.next, further_toNat, bits]
  exact if_pos inside

/-- The last byte of a character completes it. -/
theorem decodeFrom_last {value digit : Nat} {low high : UInt8} (rest : Bytes)
    (above : low.toNat ≤ digit % 64 + 128) (below : digit % 64 + 128 ≤ high.toNat) :
    decodeFrom (some ⟨value, low, high, 0⟩) (further digit :: rest) =
      (decodeFrom none rest).map (Char.ofNat (value * 64 + digit % 64) :: ·) := by
  rw [decodeFrom, Opened.next_further above below]

/-- A byte before the last is taken in. -/
theorem decodeFrom_further {value digit after : Nat} {low high : UInt8} (rest : Bytes)
    (above : low.toNat ≤ digit % 64 + 128) (below : digit % 64 + 128 ≤ high.toNat) :
    decodeFrom (some ⟨value, low, high, after + 1⟩) (further digit :: rest) =
      decodeFrom (some ⟨value * 64 + digit % 64, 0x80, 0xBF, after⟩) rest := by
  rw [decodeFrom, Opened.next_further above below]

theorem decodeFrom_one {code : Nat} (bound : code < 128) (rest : Bytes) :
    decodeFrom none (UInt8.ofNat code :: rest) =
      (decodeFrom none rest).map (Char.ofNat code :: ·) := by
  have byte : (UInt8.ofNat code).toNat = code := by
    rw [UInt8.toNat_ofNat', Nat.mod_eq_of_lt (by omega)]
  have first : lead (UInt8.ofNat code) = .scalar (Char.ofNat code) := by
    simp only [lead, byte]
    exact if_pos bound
  rw [decodeFrom, first]

theorem decodeFrom_two {code : Nat} (low : 128 ≤ code) (bound : code < 2048) (rest : Bytes) :
    decodeFrom none (UInt8.ofNat (code / 64 + 192) :: further code :: rest) =
      (decodeFrom none rest).map (Char.ofNat code :: ·) := by
  have whole : code / 64 * 64 + code % 64 = code := by omega
  rw [decodeFrom, lead_of_two (by omega) (by omega)]
  change decodeFrom (some _) _ = _
  rw [decodeFrom_last rest (by simp) (by simp; omega), whole]

/-- Surrogates have no place here: the range after the byte for them ends earlier. -/
theorem decodeFrom_three {code : Nat} (low : 2048 ≤ code) (bound : code < 65536)
    (noSurrogate : code < 55296 ∨ 57343 < code) (rest : Bytes) :
    decodeFrom none
        (UInt8.ofNat (code / 4096 + 224) :: further (code / 64) :: further code :: rest) =
      (decodeFrom none rest).map (Char.ofNat code :: ·) := by
  have whole : (code / 4096 * 64 + code / 64 % 64) * 64 + code % 64 = code := by omega
  rw [decodeFrom, lead_of_three (by omega)]
  change decodeFrom (some _) _ = _
  rw [decodeFrom_further _ (by split <;> simp; omega) (by split <;> simp <;> omega),
    decodeFrom_last rest (by simp) (by simp; omega), whole]

theorem decodeFrom_four {code : Nat} (low : 65536 ≤ code) (bound : code < 1114112)
    (rest : Bytes) :
    decodeFrom none
        (UInt8.ofNat (code / 262144 + 240) :: further (code / 4096) :: further (code / 64) ::
          further code :: rest) =
      (decodeFrom none rest).map (Char.ofNat code :: ·) := by
  have whole :
      ((code / 262144 * 64 + code / 4096 % 64) * 64 + code / 64 % 64) * 64 + code % 64 = code := by
    omega
  rw [decodeFrom, lead_of_four (by omega)]
  change decodeFrom (some _) _ = _
  rw [decodeFrom_further _ (by split <;> simp; omega) (by split <;> simp <;> omega),
    decodeFrom_further _ (by simp) (by simp; omega),
    decodeFrom_last rest (by simp) (by simp; omega), whole]

theorem decodeFrom_char (c : Char) (rest : Bytes) :
    decodeFrom none (String.utf8EncodeChar c ++ rest) = (decodeFrom none rest).map (c :: ·) := by
  have valid : c.val.toNat < 55296 ∨ 57343 < c.val.toNat ∧ c.val.toNat < 1114112 := c.valid
  have same : Char.ofNat c.val.toNat = c := Char.ofNat_toNat c
  unfold String.utf8EncodeChar
  generalize c.val.toNat = code at valid same ⊢
  subst same
  change decodeFrom none ((if code ≤ 127 then _ else _) ++ rest) = _
  by_cases one : code ≤ 127
  · rw [if_pos one]
    exact decodeFrom_one (by omega) rest
  by_cases two : code ≤ 2047
  · rw [if_neg one, if_pos two, Nat.mod_eq_of_lt (a := code / 64) (by omega)]
    exact decodeFrom_two (by omega) (by omega) rest
  by_cases three : code ≤ 65535
  · rw [if_neg one, if_neg two, if_pos three, Nat.mod_eq_of_lt (a := code / 4096) (by omega)]
    exact decodeFrom_three (by omega) (by omega) (by omega) rest
  · rw [if_neg one, if_neg two, if_neg three, Nat.mod_eq_of_lt (a := code / 262144) (by omega)]
    exact decodeFrom_four (by omega) (by omega) rest

/-- Text is read back from its bytes. -/
theorem decode?_encode (chars : List Char) : decode? (encode chars) = some chars := by
  unfold decode? encode
  induction chars with
  | nil => rfl
  | cons c rest ih => rw [List.flatMap_cons, decodeFrom_char, ih, Option.map_some]

theorem toString?_ofString (text : String) : toString? (ofString text) = some text := by
  rw [toString?, ofString, decode?_encode, Option.map_some, String.ofList_toList]

theorem ofString_injective {first second : String} (same : ofString first = ofString second) :
    first = second := by
  have read := congrArg toString? same
  rw [toString?_ofString, toString?_ofString] at read
  exact Option.some.inj read

/-! ## Only the bytes of a text are decoded -/

/-- The bytes of a character by its code. -/
theorem encodeChar_ofNat {code : Nat} (valid : code.isValidChar) :
    String.utf8EncodeChar (Char.ofNat code) =
      if code ≤ 127 then [UInt8.ofNat code]
      else if code ≤ 2047 then [UInt8.ofNat (code / 64 + 192), further code]
      else if code ≤ 65535 then
        [UInt8.ofNat (code / 4096 + 224), further (code / 64), further code]
      else
        [UInt8.ofNat (code / 262144 + 240), further (code / 4096), further (code / 64),
          further code] := by
  have value : (Char.ofNat code).val.toNat = code := by
    rw [Char.ofNat, dif_pos valid]
    rfl
  have bound : code < 1114112 := by
    rcases valid with low | high
    · omega
    · exact high.2
  unfold String.utf8EncodeChar
  simp only [value, further]
  split_ifs
  · rfl
  · rw [Nat.mod_eq_of_lt (by omega : code / 64 < 32)]
  · rw [Nat.mod_eq_of_lt (by omega : code / 4096 < 16)]
  · rw [Nat.mod_eq_of_lt (by omega : code / 262144 < 8)]

theorem further_add (more digit : Nat) : further (more * 64 + digit) = further digit := by
  have bits : (more * 64 + digit) % 64 = digit % 64 := by omega
  rw [further, further, bits]

/-- What a byte can be where a character may begin. -/
theorem lead_forms (byte : UInt8) :
    (∃ code < 128, byte = UInt8.ofNat code) ∨ lead byte = .stray ∨
      (∃ high, 2 ≤ high ∧ high < 32 ∧ byte = UInt8.ofNat (high + 192)) ∨
      (∃ high < 16, byte = UInt8.ofNat (high + 224)) ∨
      (∃ high < 5, byte = UInt8.ofNat (high + 240)) := by
  have whole : byte = UInt8.ofNat byte.toNat := UInt8.ofNat_toNat.symm
  by_cases one : byte.toNat < 128
  · exact .inl ⟨_, one, whole⟩
  by_cases stray : byte.toNat < 194
  · exact .inr (.inl (by simp only [lead]; rw [if_neg one, if_pos stray]))
  by_cases two : byte.toNat < 224
  · refine .inr (.inr (.inl ⟨byte.toNat - 192, by omega, by omega, ?_⟩))
    rwa [Nat.sub_add_cancel (by omega)]
  by_cases three : byte.toNat < 240
  · refine .inr (.inr (.inr (.inl ⟨byte.toNat - 224, by omega, ?_⟩)))
    rwa [Nat.sub_add_cancel (by omega)]
  by_cases four : byte.toNat < 245
  · refine .inr (.inr (.inr (.inr ⟨byte.toNat - 240, by omega, ?_⟩)))
    rwa [Nat.sub_add_cancel (by omega)]
  · refine .inr (.inl ?_)
    simp only [lead]
    rw [if_neg one, if_neg stray, if_neg two, if_neg (by omega), if_neg (by omega), if_neg three,
      if_neg (by omega), if_neg (by omega), if_neg (by omega)]

section Decoded

variable {rest : Bytes} {chars : List Char}

/-- A further byte that is taken in has its six bits. -/
theorem exists_further_of_decodeFrom {opened : Opened}
    (formed : decodeFrom (some opened) rest = some chars) (low : 128 ≤ opened.low.toNat)
    (high : opened.high.toNat ≤ 191) :
    ∃ digit < 64, ∃ after, rest = further digit :: after ∧
      opened.low.toNat ≤ digit % 64 + 128 ∧ digit % 64 + 128 ≤ opened.high.toNat := by
  cases rest with
  | nil => cases formed
  | cons byte after =>
      rw [decodeFrom, Opened.next] at formed
      by_cases inside : (opened.low ≤ byte && byte ≤ opened.high) = true
      · rw [Bool.and_eq_true, decide_eq_true_eq, decide_eq_true_eq, UInt8.le_iff_toNat_le,
          UInt8.le_iff_toNat_le] at inside
        obtain ⟨above, below⟩ := inside
        refine ⟨byte.toNat - 128, by omega, after, ?_, by omega, by omega⟩
        rw [further, Nat.mod_eq_of_lt (by omega), Nat.sub_add_cancel (by omega), UInt8.ofNat_toNat]
      · rw [if_neg inside] at formed
        cases formed

/-- What can stand behind the first of two bytes. -/
theorem exists_char_of_two {high : Nat} (low : 2 ≤ high) (bound : high < 32)
    (formed : decodeFrom none (UInt8.ofNat (high + 192) :: rest) = some chars) :
    ∃ c after, UInt8.ofNat (high + 192) :: rest = String.utf8EncodeChar c ++ after := by
  rw [decodeFrom, lead_of_two low bound] at formed
  obtain ⟨last, lastBound, after, rfl, -, -⟩ := exists_further_of_decodeFrom formed le_rfl le_rfl
  have first : (high * 64 + last) / 64 = high := by omega
  refine ⟨Char.ofNat (high * 64 + last), after, ?_⟩
  rw [encodeChar_ofNat (Or.inl (by omega)), if_neg (by omega), if_pos (by omega), first,
    further_add]
  rfl

/-- What can stand behind the first of three bytes. -/
theorem exists_char_of_three {high : Nat} (bound : high < 16)
    (formed : decodeFrom none (UInt8.ofNat (high + 224) :: rest) = some chars) :
    ∃ c after, UInt8.ofNat (high + 224) :: rest = String.utf8EncodeChar c ++ after := by
  rw [decodeFrom, lead_of_three bound] at formed
  dsimp only at formed
  obtain ⟨middle, middleBound, after, rfl, above, below⟩ := exists_further_of_decodeFrom formed
    (by dsimp only; split <;> decide) (by dsimp only; split <;> decide)
  rw [decodeFrom_further _ above below] at formed
  obtain ⟨last, lastBound, after, rfl, -, -⟩ := exists_further_of_decodeFrom formed le_rfl le_rfl
  rw [Nat.mod_eq_of_lt middleBound] at above below
  have noShorter : high = 0 → 32 ≤ middle := by
    rintro rfl
    change 160 ≤ middle + 128 at above
    omega
  have noSurrogate : high = 13 → middle < 32 := by
    rintro rfl
    change middle + 128 ≤ 159 at below
    omega
  have valid : ((high * 64 + middle) * 64 + last).isValidChar := by
    unfold Nat.isValidChar
    omega
  have first : ((high * 64 + middle) * 64 + last) / 4096 = high := by omega
  have second : ((high * 64 + middle) * 64 + last) / 64 = high * 64 + middle := by omega
  refine ⟨Char.ofNat ((high * 64 + middle) * 64 + last), after, ?_⟩
  rw [encodeChar_ofNat valid, if_neg (by omega), if_neg (by omega), if_pos (by omega), first,
    second, further_add, further_add]
  rfl

/-- What can stand behind the first of four bytes. -/
theorem exists_char_of_four {high : Nat} (bound : high < 5)
    (formed : decodeFrom none (UInt8.ofNat (high + 240) :: rest) = some chars) :
    ∃ c after, UInt8.ofNat (high + 240) :: rest = String.utf8EncodeChar c ++ after := by
  rw [decodeFrom, lead_of_four bound] at formed
  dsimp only at formed
  obtain ⟨upper, upperBound, after, rfl, above, below⟩ := exists_further_of_decodeFrom formed
    (by dsimp only; split <;> decide) (by dsimp only; split <;> decide)
  rw [decodeFrom_further _ above below] at formed
  obtain ⟨lower, lowerBound, after, rfl, inside⟩ :=
    exists_further_of_decodeFrom formed le_rfl le_rfl
  rw [decodeFrom_further _ inside.1 inside.2] at formed
  obtain ⟨last, lastBound, after, rfl, -, -⟩ := exists_further_of_decodeFrom formed le_rfl le_rfl
  rw [Nat.mod_eq_of_lt upperBound] at above below
  have noShorter : high = 0 → 16 ≤ upper := by
    rintro rfl
    change 144 ≤ upper + 128 at above
    omega
  have noGreater : high = 4 → upper < 16 := by
    rintro rfl
    change upper + 128 ≤ 143 at below
    omega
  have valid : (((high * 64 + upper) * 64 + lower) * 64 + last).isValidChar := by
    unfold Nat.isValidChar
    omega
  have first : (((high * 64 + upper) * 64 + lower) * 64 + last) / 262144 = high := by omega
  have second : (((high * 64 + upper) * 64 + lower) * 64 + last) / 4096 = high * 64 + upper := by
    omega
  have third : (((high * 64 + upper) * 64 + lower) * 64 + last) / 64 =
      (high * 64 + upper) * 64 + lower := by
    omega
  refine ⟨Char.ofNat (((high * 64 + upper) * 64 + lower) * 64 + last), after, ?_⟩
  rw [encodeChar_ofNat valid, if_neg (by omega), if_neg (by omega), if_neg (by omega), first,
    second, third, further_add, further_add, further_add]
  rfl

/-- What is decoded begins with the bytes of a character. -/
theorem exists_char_of_decodeFrom {byte : UInt8}
    (formed : decodeFrom none (byte :: rest) = some chars) :
    ∃ c after, byte :: rest = String.utf8EncodeChar c ++ after := by
  rcases lead_forms byte with ⟨code, bound, rfl⟩ | stray | ⟨high, low, bound, rfl⟩ |
    ⟨high, bound, rfl⟩ | ⟨high, bound, rfl⟩
  · refine ⟨Char.ofNat code, rest, ?_⟩
    rw [encodeChar_ofNat (Or.inl (by omega)), if_pos (by omega)]
    rfl
  · rw [decodeFrom, stray] at formed
    cases formed
  · exact exists_char_of_two low bound formed
  · exact exists_char_of_three bound formed
  · exact exists_char_of_four bound formed

end Decoded

/-- By induction on the length: a character takes off one byte or more. -/
theorem encode_of_decodeFrom {bytes : Bytes} {chars : List Char}
    (formed : decodeFrom none bytes = some chars) : encode chars = bytes := by
  induction size : bytes.length using Nat.strong_induction_on generalizing bytes chars with
  | _ n ih =>
    subst size
    cases bytes with
    | nil =>
        cases formed
        rfl
    | cons byte rest =>
        obtain ⟨c, after, same⟩ := exists_char_of_decodeFrom formed
        rw [same, decodeFrom_char] at formed
        obtain ⟨more, later, rfl⟩ := Option.map_eq_some_iff.mp formed
        have shorter : after.length < (byte :: rest).length := by
          rw [same, List.length_append]
          exact Nat.lt_add_of_pos_left (List.length_pos_iff.mpr String.utf8EncodeChar_ne_nil)
        rw [same, encode, List.flatMap_cons]
        exact congrArg (String.utf8EncodeChar c ++ ·) (ih _ shorter later rfl)

/-- Well formed are the bytes of a text and no others. -/
theorem decode?_eq_some_iff {bytes : Bytes} {chars : List Char} :
    decode? bytes = some chars ↔ encode chars = bytes :=
  ⟨encode_of_decodeFrom, fun same => same ▸ decode?_encode chars⟩

theorem ofString_of_toString? {bytes : Bytes} {text : String}
    (decoded : toString? bytes = some text) : ofString text = bytes := by
  obtain ⟨chars, formed, rfl⟩ := Option.map_eq_some_iff.mp decoded
  rw [ofString, String.toList_ofList, decode?_eq_some_iff.mp formed]

/-! ## The lossy decoder on well-formed bytes -/

theorem decodeLossyFrom_of_decodeFrom {state : Option Opened} {bytes : Bytes} {chars : List Char}
    (formed : decodeFrom state bytes = some chars) : decodeLossyFrom state bytes = chars := by
  induction bytes generalizing state chars with
  | nil =>
      cases state with
      | none => exact Option.some.inj formed
      | some opened => cases formed
  | cons byte rest ih =>
      cases state with
      | none =>
          rw [decodeFrom] at formed
          rw [decodeLossyFrom]
          cases read : lead byte with
          | scalar c =>
              rw [read] at formed
              obtain ⟨more, later, rfl⟩ := Option.map_eq_some_iff.mp formed
              exact congrArg (c :: ·) (ih later)
          | opened further =>
              rw [read] at formed
              exact ih formed
          | stray =>
              rw [read] at formed
              cases formed
      | some opened =>
          rw [decodeFrom] at formed
          rw [decodeLossyFrom]
          cases read : opened.next byte with
          | scalar c =>
              rw [read] at formed
              obtain ⟨more, later, rfl⟩ := Option.map_eq_some_iff.mp formed
              exact congrArg (c :: ·) (ih later)
          | opened further =>
              rw [read] at formed
              exact ih formed
          | stray =>
              rw [read] at formed
              cases formed

theorem decodeLossy_encode (chars : List Char) : decodeLossy (encode chars) = chars :=
  decodeLossyFrom_of_decodeFrom (decode?_encode chars)

theorem toStringLossy_ofString (text : String) : toStringLossy (ofString text) = text := by
  rw [toStringLossy, ofString, decodeLossy_encode, String.ofList_toList]

end ContainerTasks.Text.Utf8
