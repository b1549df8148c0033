import Mathlib.Tactic.SplitIfs
import ContainerTasks.Text.Utf8

/-! # The order of names

Names are ordered by their characters. The order by their bytes is the same: the bytes of the
lesser of two characters are less where they first differ, and neither are the beginning of
the other's.
-/

namespace ContainerTasks.Text.Utf8

/-- The bytes of the lesser of two characters are less, whatever follows. -/
theorem encodeChar_lt {c d : Char} (less : c < d) (first second : Bytes) :
    String.utf8EncodeChar c ++ first < String.utf8EncodeChar d ++ second := by
  have less : c.val.toNat < d.val.toNat := less
  have bound : d.val.toNat < 1114112 := by
    have valid : d.val.toNat < 55296 ∨ 57343 < d.val.toNat ∧ d.val.toNat < 1114112 := d.valid
    omega
  unfold String.utf8EncodeChar
  generalize c.val.toNat = low at less
  generalize d.val.toNat = high at less bound
  dsimp only
  -- One case for each pair of lengths: the first bytes tell lengths apart, and bytes of one
  -- length are the digits of the code points to the base 64.
  split_ifs
  all_goals
    simp only [List.cons_append, List.nil_append, List.cons_lt_cons_iff, UInt8.lt_iff_toNat_lt,
      ← UInt8.toNat_inj, UInt8.toNat_ofNat']
    simp (disch := omega) only [Nat.mod_eq_of_lt]
    omega

theorem encode_lt {first second : List Char} (less : first < second) :
    encode first < encode second := by
  unfold encode
  induction first generalizing second with
  | nil =>
      cases second with
      | nil => exact absurd less (List.not_lt_nil [])
      | cons d more =>
          obtain ⟨byte, rest, bytes⟩ :=
            List.exists_cons_of_ne_nil (String.utf8EncodeChar_ne_nil (c := d))
          rw [List.flatMap_nil, List.flatMap_cons, bytes]
          exact List.nil_lt_cons _ _
  | cons c rest ih =>
      cases second with
      | nil => exact absurd less (List.not_lt_nil _)
      | cons d more =>
          rw [List.flatMap_cons, List.flatMap_cons]
          rcases List.cons_lt_cons_iff.mp less with here | ⟨rfl, later⟩
          · exact encodeChar_lt here _ _
          · exact List.append_left_lt (ih later)

/-- A name that comes before another one has lesser bytes. -/
theorem ofString_lt {first second : String} (before : compare first second = .lt) :
    ofString first < ofString second :=
  encode_lt (String.lt_iff.mp (compareOfLessAndEq_eq_lt.mp before))

end ContainerTasks.Text.Utf8
