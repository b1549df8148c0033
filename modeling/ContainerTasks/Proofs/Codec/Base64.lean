import Mathlib.Tactic.IntervalCases
import ContainerTasks.Codec.Base64
import ContainerTasks.Text.Blank

/-! # Reading back base64

Three bytes are twenty-four bits, four digits of six. Each digit is read back to its
value, no digit is the padding character, and the shares of the digits put the bytes
together again; the shorter last group leaves bits over, which are written as zero. So
written bytes are read back.
-/

namespace ContainerTasks.Codec.Base64

theorem digit?_digit {n : Nat} (bound : n < 64) : digit? (digit n) = some n := by
  interval_cases n <;> rfl

theorem digit_ne_padding {n : Nat} (bound : n < 64) : digit n ≠ padding := by
  interval_cases n <;> decide

theorem digit_not_blank (n : Nat) : Text.isBlank (digit n) = false := by
  by_cases bound : n < 64
  · interval_cases n <;> rfl
  · have last : digit n = '/' := by
      simp only [digit]
      repeat rw [if_neg (by omega)]
    rw [last]
    rfl

theorem ofNat_eq {n : Nat} (byte : UInt8) (same : n = byte.toNat) : UInt8.ofNat n = byte := by
  rw [same, UInt8.ofNat_toNat]

theorem decode?_one (x : UInt8) : decode? (encode [x]) = some [x] := by
  have small := x.toNat_lt
  simp only [encode, decode?, digit?_digit (n := x.toNat * 16 / 64) (by omega),
    digit?_digit (n := x.toNat * 16 % 64) (by omega), Option.bind_eq_bind, Option.bind_some,
    true_and, if_true]
  rw [lastOne, if_pos (by omega), ofNat_eq x (by omega)]

theorem decode?_two (x y : UInt8) : decode? (encode [x, y]) = some [x, y] := by
  have small := x.toNat_lt
  have small' := y.toNat_lt
  generalize whole : (x.toNat * 256 + y.toNat) * 4 = n
  have third : digit (n % 64) ≠ padding := digit_ne_padding (by omega)
  simp only [encode, decode?, whole, digit?_digit (n := n / 4096) (by omega),
    digit?_digit (n := n / 64 % 64) (by omega), digit?_digit (n := n % 64) (by omega),
    Option.bind_eq_bind, Option.bind_some, true_and, if_true, third, if_false]
  rw [lastTwo, if_pos (by omega), ofNat_eq x (by omega), ofNat_eq y (by omega)]

theorem decode?_three (x y z : UInt8) (rest : Bytes) :
    decode? (encode (x :: y :: z :: rest)) =
      (decode? (encode rest)).map (x :: y :: z :: ·) := by
  have small := x.toNat_lt
  have small' := y.toNat_lt
  have small'' := z.toNat_lt
  generalize whole : (x.toNat * 256 + y.toNat) * 256 + z.toNat = n
  have fourth : digit (n % 64) ≠ padding := digit_ne_padding (by omega)
  simp only [encode, decode?, whole, digit?_digit (n := n / 262144) (by omega),
    digit?_digit (n := n / 4096 % 64) (by omega), digit?_digit (n := n / 64 % 64) (by omega),
    digit?_digit (n := n % 64) (by omega), Option.bind_eq_bind, Option.bind_some, fourth,
    false_and, if_false]
  rw [triple, ofNat_eq x (by omega), ofNat_eq y (by omega),
    ofNat_eq z (by omega)]
  cases decode? (encode rest) <;> rfl

/-- Bytes are read back from their digits. -/
theorem decode?_encode (bytes : Bytes) : decode? (encode bytes) = some bytes := by
  induction bytes using encode.induct with
  | case1 => rfl
  | case2 x => exact decode?_one x
  | case3 x y => exact decode?_two x y
  | case4 x y z rest ih => rw [decode?_three, ih, Option.map_some]

theorem encode_not_blank (bytes : Bytes) : ∀ c ∈ encode bytes, Text.isBlank c = false := by
  have padded : Text.isBlank padding = false := by decide
  induction bytes using encode.induct with
  | case1 => simp [encode]
  | case2 x => simp [encode, digit_not_blank, padded]
  | case3 x y => simp [encode, digit_not_blank, padded]
  | case4 x y z rest ih => simpa [encode, digit_not_blank] using ih

end ContainerTasks.Codec.Base64
