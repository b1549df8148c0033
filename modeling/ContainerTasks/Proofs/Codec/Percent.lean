import Mathlib.Tactic.IntervalCases
import ContainerTasks.Codec.Percent
import ContainerTasks.Proofs.Text.Utf8

/-! # Reading back percent encoding

Each byte is read back from what it is written as: itself, as a character of one byte, or two
digits behind a percent sign. What is written is letters, digits, four marks and percent
signs, so it holds no ampersand and no equals sign.
-/

namespace ContainerTasks.Codec.Percent

theorem hexValue?_hexDigit {n : Nat} (bound : n < 16) : hexValue? (hexDigit n) = some n := by
  interval_cases n <;> rfl

theorem encodeChar_of_ascii {code : Nat} (ascii : code < 128) :
    String.utf8EncodeChar (Char.ofNat code) = [UInt8.ofNat code] := by
  interval_cases code <;> rfl

/-- A byte that stands for itself is written as a character of one byte, which is not the
percent sign. -/
theorem ascii_of_isUnreserved {byte : UInt8} (unreserved : isUnreserved byte = true) :
    byte.toNat < 128 ∧ Char.ofNat byte.toNat ≠ '%' := by
  unfold isUnreserved at unreserved
  dsimp only at unreserved
  rw [Bool.and_eq_true, decide_eq_true_eq] at unreserved
  obtain ⟨small, named⟩ := unreserved
  refine ⟨small, fun sign => ?_⟩
  rw [sign] at named
  exact absurd named (by decide)

/-- A byte is read back from what it is written as. -/
theorem decode?_encodeByte (byte : UInt8) (rest : List Char) :
    decode? (encodeByte byte ++ rest) = (decode? rest).map (byte :: ·) := by
  unfold encodeByte
  by_cases unreserved : isUnreserved byte = true
  · obtain ⟨ascii, noSign⟩ := ascii_of_isUnreserved unreserved
    rw [if_pos unreserved, List.singleton_append, decode?]
    · rw [if_neg noSign, encodeChar_of_ascii ascii, UInt8.ofNat_toNat]
      rfl
    · exact fun _ _ _ sign _ => noSign sign
  · have small := byte.toNat_lt
    have whole : byte.toNat / 16 * 16 + byte.toNat % 16 = byte.toNat := by omega
    rw [if_neg unreserved]
    simp only [List.cons_append, List.nil_append, decode?,
      hexValue?_hexDigit (n := byte.toNat / 16) (by omega),
      hexValue?_hexDigit (n := byte.toNat % 16) (by omega), Option.bind_eq_bind, Option.bind_some,
      whole, UInt8.ofNat_toNat, Option.pure_def]
    cases decode? rest <;> rfl

/-- The bytes of a text are read back from what it is written as. -/
theorem decode?_encode (text : String) :
    decode? (encode text).toList = some (Text.Utf8.ofString text) := by
  rw [encode, String.toList_ofList]
  induction Text.Utf8.ofString text with
  | nil => rfl
  | cons byte rest ih => rw [List.flatMap_cons, decode?_encodeByte, ih, Option.map_some]

/-- A character that can be written. -/
def isWritten (c : Char) : Bool :=
  c.isAlphanum || c == '-' || c == '_' || c == '.' || c == '~' || c == '%'

theorem isWritten_hexDigit {n : Nat} (bound : n < 16) : isWritten (hexDigit n) = true := by
  interval_cases n <;> rfl

theorem isWritten_of_isUnreserved {byte : UInt8} (unreserved : isUnreserved byte = true) :
    isWritten (Char.ofNat byte.toNat) = true := by
  unfold isUnreserved at unreserved
  rw [isWritten, (Bool.and_eq_true_iff.mp unreserved).2, Bool.true_or]

theorem isWritten_of_mem {text : String} {c : Char} (member : c ∈ (encode text).toList) :
    isWritten c = true := by
  rw [encode, String.toList_ofList] at member
  obtain ⟨byte, -, inside⟩ := List.mem_flatMap.mp member
  have small := byte.toNat_lt
  unfold encodeByte at inside
  by_cases unreserved : isUnreserved byte = true
  · rw [if_pos unreserved, List.mem_singleton] at inside
    rw [inside]
    exact isWritten_of_isUnreserved unreserved
  · rw [if_neg unreserved] at inside
    simp only [List.mem_cons, List.not_mem_nil, or_false] at inside
    rcases inside with rfl | rfl | rfl
    · rfl
    · exact isWritten_hexDigit (by omega)
    · exact isWritten_hexDigit (by omega)

end ContainerTasks.Codec.Percent
