import Mathlib.Data.List.Basic
import Mathlib.Tactic.SplitIfs
import ContainerTasks.Text.Utf8

/-! # Newlines in decoded text

However broken a byte string is, lossy decoding keeps its newlines: a newline byte ends the
character that was open, if one was, and gives a newline character, and no other byte gives
one. So the text has as many newlines as the bytes (`count_newline_decodeLossy`), and it ends
with one if they do (`getLast?_decodeLossy`).
-/

namespace ContainerTasks.Text.Utf8

/-- An opened character that is no newline, whatever bytes follow: the next byte cannot be an
ASCII byte, and the value does not stay below the range of several bytes. -/
structure Opened.Wide (opened : Opened) : Prop where
  low : 0x80 ≤ opened.low.toNat
  high : opened.high.toNat ≤ 0xBF
  value : 0 < opened.value ∨ 0 < opened.after ∧ 0x90 ≤ opened.low.toNat

/-- What has been read is no newline and cannot become one. -/
def Lead.Plain : Lead → Prop
  | scalar c => c ≠ '\n'
  | opened rest => rest.Wide
  | stray => True

/-- The characters that are complete. -/
def Lead.chars : Lead → List Char
  | scalar c => [c]
  | opened _ => []
  | stray => [replacement]

/-- The character that is left open. -/
def Lead.open? : Lead → Option Opened
  | opened rest => some rest
  | scalar _ | stray => none

theorem wide_of_pos {value : Nat} (positive : 0 < value) (after : Nat) :
    Opened.Wide ⟨value, 0x80, 0xBF, after⟩ :=
  ⟨Nat.le_refl _, Nat.le_refl _, Or.inl positive⟩

theorem ofNat_ne_newline {code : Nat} (other : code ≠ 10) : Char.ofNat code ≠ '\n' := by
  intro same
  by_cases valid : code.isValidChar
  · have value : (Char.ofNat code).toNat = code := by
      rw [Char.ofNat, dif_pos valid]
      rfl
    exact other (value.symm.trans (congrArg Char.toNat same))
  · rw [Char.ofNat, dif_neg valid] at same
    exact absurd (congrArg Char.toNat same) (by decide)

theorem lead_newline : lead 10 = .scalar '\n' := rfl

theorem lead_plain {byte : UInt8} (other : byte ≠ 10) : (lead byte).Plain := by
  have code : byte.toNat ≠ 10 := fun same => other (UInt8.toNat_inj.mp same)
  have bound := byte.toNat_lt
  unfold lead
  dsimp only
  split_ifs
  · exact (ofNat_ne_newline code : _)
  · exact True.intro
  · exact wide_of_pos (by omega) _
  · exact ⟨by decide, by decide, Or.inr (by decide)⟩
  · exact ⟨by decide, by decide, Or.inl (by decide)⟩
  · exact wide_of_pos (by omega) _
  · exact ⟨by decide, by decide, Or.inr (by decide)⟩
  · exact wide_of_pos (by omega) _
  · exact ⟨by decide, by decide, Or.inl (by decide)⟩
  · exact True.intro

namespace Opened.Wide

variable {opened : Opened} (wide : opened.Wide)

include wide

theorem next_newline : opened.next 10 = .stray := by
  have outside : ¬ opened.low ≤ 10 := by
    intro inside
    have order := UInt8.le_iff_toNat_le.mp inside
    have low := wide.low
    have ten : (10 : UInt8).toNat = 10 := rfl
    omega
  simp only [Opened.next, outside, decide_false, Bool.false_and, Bool.false_eq_true, ↓reduceIte]

theorem next_plain (byte : UInt8) : (opened.next byte).Plain := by
  unfold Opened.next
  by_cases inside : (opened.low ≤ byte && byte ≤ opened.high) = true
  · rw [if_pos inside]
    rw [Bool.and_eq_true, decide_eq_true_eq, decide_eq_true_eq, UInt8.le_iff_toNat_le,
      UInt8.le_iff_toNat_le] at inside
    obtain ⟨above, below⟩ := inside
    obtain ⟨low, high, value⟩ := wide
    dsimp only
    cases after : opened.after with
    | zero =>
        rw [after] at value
        have large : opened.value * 64 + byte.toNat % 64 ≠ 10 := by omega
        exact (ofNat_ne_newline large : _)
    | succ further => exact wide_of_pos (by omega) further
  · rw [if_neg inside]
    exact True.intro

end Opened.Wide

theorem Lead.Plain.count_chars {read : Lead} (plain : read.Plain) : read.chars.count '\n' = 0 := by
  cases read with
  | scalar c => exact List.count_eq_zero.mpr fun member => plain (List.mem_singleton.mp member).symm
  | opened rest => rfl
  | stray => rfl

/-- What a byte adds to the text, and the character that it leaves open. -/
structure Reads (state : Option Opened) (byte : UInt8) (chars : List Char)
    (next : Option Opened) : Prop where
  wide : ∀ opened ∈ next, opened.Wide
  decode : ∀ rest, decodeLossyFrom state (byte :: rest) = chars ++ decodeLossyFrom next rest
  complete : next = none → chars ≠ []
  newlines : chars.count '\n' = if byte = 10 then 1 else 0
  closes : byte = 10 → next = none ∧ chars.getLast? = some '\n'

theorem Lead.Plain.reads {state : Option Opened} {byte : UInt8} {read : Lead} (plain : read.Plain)
    (other : byte ≠ 10) (before : List Char) (quiet : before.count '\n' = 0)
    (decode : ∀ rest, decodeLossyFrom state (byte :: rest) =
      before ++ read.chars ++ decodeLossyFrom read.open? rest) :
    Reads state byte (before ++ read.chars) read.open? where
  wide := by
    intro opened member
    cases read with
    | opened rest => exact Option.some.inj member ▸ plain
    | scalar c => cases member
    | stray => cases member
  decode := decode
  complete := by
    intro closed
    cases read with
    | opened rest => cases closed
    | scalar c => exact List.append_ne_nil_of_right_ne_nil before (List.cons_ne_nil c [])
    | stray => exact List.append_ne_nil_of_right_ne_nil before (List.cons_ne_nil replacement [])
  newlines := by rw [List.count_append, quiet, plain.count_chars, if_neg other]
  closes := fun newline => (other newline).elim

theorem decodeLossyFrom_first (byte : UInt8) (rest : Bytes) :
    decodeLossyFrom none (byte :: rest) =
      (lead byte).chars ++ decodeLossyFrom (lead byte).open? rest := by
  rw [decodeLossyFrom]
  cases lead byte <;> rfl

/-- A byte that cannot stand in an opened character ends it and is read as a first byte. -/
theorem decodeLossyFrom_further (opened : Opened) (byte : UInt8) (rest : Bytes) :
    decodeLossyFrom (some opened) (byte :: rest) =
      if opened.next byte = .stray then replacement :: decodeLossyFrom none (byte :: rest)
      else (opened.next byte).chars ++ decodeLossyFrom (opened.next byte).open? rest := by
  rw [decodeLossyFrom_first, decodeLossyFrom]
  cases opened.next byte with
  | scalar c => rfl
  | opened further => rfl
  | stray =>
      rw [if_pos rfl]
      cases lead byte <;> rfl

/-- Each byte is read, and a newline ends what was open. -/
theorem exists_reads {state : Option Opened} (wide : ∀ opened ∈ state, opened.Wide) (byte : UInt8) :
    ∃ chars next, Reads state byte chars next := by
  by_cases newline : byte = 10
  · subst newline
    cases state with
    | none =>
        refine ⟨['\n'], none, nofun, fun rest => ?_, fun _ => List.cons_ne_nil _ _, rfl,
          fun _ => ⟨rfl, rfl⟩⟩
        exact decodeLossyFrom_first 10 rest
    | some opened =>
        -- A newline stands in no longer character, so what was open is replaced.
        refine ⟨[replacement, '\n'], none, nofun, fun rest => ?_, fun _ => List.cons_ne_nil _ _,
          rfl, fun _ => ⟨rfl, rfl⟩⟩
        rw [decodeLossyFrom_further, (wide opened rfl).next_newline, if_pos rfl,
          decodeLossyFrom_first, lead_newline]
        rfl
  · cases state with
    | none =>
        exact ⟨_, _, (lead_plain newline).reads newline [] List.count_nil
          (decodeLossyFrom_first byte)⟩
    | some opened =>
        by_cases breaks : opened.next byte = .stray
        · refine ⟨_, _, (lead_plain newline).reads newline [replacement] rfl fun rest => ?_⟩
          rw [decodeLossyFrom_further, if_pos breaks, decodeLossyFrom_first]
          rfl
        · refine ⟨_, _, ((wide opened rfl).next_plain byte).reads newline [] List.count_nil
            fun rest => ?_⟩
          rw [decodeLossyFrom_further, if_neg breaks]
          rfl

theorem count_newline_decodeLossyFrom {state : Option Opened}
    (wide : ∀ opened ∈ state, opened.Wide) (bytes : Bytes) :
    (decodeLossyFrom state bytes).count '\n' = bytes.count 10 := by
  induction bytes generalizing state with
  | nil => cases state <;> rfl
  | cons byte rest ih =>
      obtain ⟨chars, next, reads⟩ := exists_reads wide byte
      rw [reads.decode, List.count_append, ih reads.wide, reads.newlines, List.count_cons,
        Nat.add_comm]
      simp only [beq_iff_eq]

theorem decodeLossyFrom_ne_nil {state : Option Opened} (wide : ∀ opened ∈ state, opened.Wide)
    {bytes : Bytes} (some : state = none → bytes ≠ []) : decodeLossyFrom state bytes ≠ [] := by
  induction bytes generalizing state with
  | nil =>
      cases state with
      | none => exact (some rfl rfl).elim
      | some opened => exact List.cons_ne_nil _ _
  | cons byte rest ih =>
      obtain ⟨chars, next, reads⟩ := exists_reads wide byte
      rw [reads.decode]
      cases next with
      | none => exact List.append_ne_nil_of_left_ne_nil (reads.complete rfl) _
      | some opened => exact List.append_ne_nil_of_right_ne_nil _ (ih reads.wide nofun)

theorem getLast?_decodeLossyFrom {state : Option Opened} (wide : ∀ opened ∈ state, opened.Wide)
    (bytes : Bytes) :
    (decodeLossyFrom state bytes).getLast? = some '\n' ↔ bytes.getLast? = some 10 := by
  induction bytes generalizing state with
  | nil =>
      cases state with
      | none => simp [decodeLossyFrom]
      | some opened => simp [decodeLossyFrom, replacement]
  | cons byte rest ih =>
      obtain ⟨chars, next, reads⟩ := exists_reads wide byte
      cases rest with
      | cons second more =>
          have ending := List.getLast?_eq_some_getLast (decodeLossyFrom_ne_nil reads.wide
            fun _ => List.cons_ne_nil second more)
          rw [reads.decode, List.getLast?_append, ending, Option.some_or, ← ending, ih reads.wide,
            List.getLast?_cons_cons]
      | nil =>
          rw [List.getLast?_singleton, Option.some.injEq]
          by_cases newline : byte = 10
          · obtain ⟨rfl, ending⟩ := reads.closes newline
            rw [reads.decode, decodeLossyFrom, List.append_nil]
            exact iff_of_true ending newline
          · have none : (decodeLossyFrom state [byte]).count '\n' = 0 := by
              rw [count_newline_decodeLossyFrom wide, List.count_singleton,
                if_neg (by simpa using newline)]
            exact iff_of_false
              (fun ending => List.count_eq_zero.mp none (List.mem_of_getLast? ending)) newline

theorem wide_none : ∀ opened ∈ (none : Option Opened), opened.Wide :=
  fun _ member => (Option.not_mem_none _ member).elim

/-- The text of bytes has as many newlines as the bytes. -/
theorem count_newline_decodeLossy (bytes : Bytes) :
    (decodeLossy bytes).count '\n' = bytes.count 10 :=
  count_newline_decodeLossyFrom wide_none bytes

/-- The text of bytes ends with a newline if the bytes do. -/
theorem getLast?_decodeLossy (bytes : Bytes) :
    (decodeLossy bytes).getLast? = some '\n' ↔ bytes.getLast? = some 10 :=
  getLast?_decodeLossyFrom wide_none bytes

end ContainerTasks.Text.Utf8
