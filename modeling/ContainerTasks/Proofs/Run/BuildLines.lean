import Mathlib.Data.List.DropRight
import ContainerTasks.Proofs.Text.Newlines
import ContainerTasks.Proofs.Text.Utf8
import ContainerTasks.Run.BuildOutput

/-! # The lines that a build writes

What a build writes is cut at its newlines, and what stands behind the last is a line as well
unless it is empty (`contents`). Each line is shown with the name of its container before it
(`shown`). In whichever portions an output comes, the lines that are whole can be shown as they
come, and what is left is put before the next portion (`Cut.append`).
-/

namespace ContainerTasks

namespace Text

theorem dropWhile_congr {first second : Char → Bool} {chars : List Char}
    (same : ∀ c ∈ chars, first c = second c) : chars.dropWhile first = chars.dropWhile second := by
  induction chars with
  | nil => rfl
  | cons c rest ih =>
      obtain ⟨here, later⟩ := List.forall_mem_cons.mp same
      rw [List.dropWhile_cons, List.dropWhile_cons, here, ih later]

namespace Utf8

/-- A newline behind bytes is one behind their text. -/
theorem decodeLossyFrom_concat_newline {state : Option Opened}
    (wide : ∀ opened ∈ state, opened.Wide) (bytes : Bytes) :
    decodeLossyFrom state (bytes ++ [10]) = decodeLossyFrom state bytes ++ ['\n'] := by
  induction bytes generalizing state with
  | nil =>
      cases state with
      | none => rfl
      | some opened =>
          rw [List.nil_append, decodeLossyFrom_further, (wide opened rfl).next_newline, if_pos rfl]
          rfl
  | cons byte rest ih =>
      obtain ⟨chars, next, reads⟩ := exists_reads wide byte
      rw [List.cons_append, reads.decode, reads.decode, ih reads.wide, List.append_assoc]

theorem decodeLossy_concat_newline (bytes : Bytes) :
    decodeLossy (bytes ++ [10]) = decodeLossy bytes ++ ['\n'] :=
  decodeLossyFrom_concat_newline wide_none bytes

/-- Bytes of a text have newlines where the text has. -/
theorem count_newline_encode (chars : List Char) : (encode chars).count 10 = chars.count '\n' := by
  rw [← count_newline_decodeLossy, decodeLossy_encode]

end Utf8

end Text

namespace Run.BuildOutput

open Text.Utf8 (decodeLossy)

/-- The contents of the lines of an output. -/
def contents (output : Bytes) : List Bytes :=
  let parts := output.splitOn 10
  if parts.getLast? = some [] then parts.dropLast else parts

/-- A line as it is shown for a container. -/
def shown (container : String) (content : Bytes) : Bytes :=
  let text := Text.dropWhileEnd (· == '\r') (decodeLossy content)
  Text.Utf8.ofString
    (if text.isEmpty then container ++ " |\n"
    else container ++ " | " ++ String.ofList text ++ "\n")

theorem lineText_of_unbroken {content : Bytes} (unbroken : 10 ∉ content) :
    lineText content = Text.dropWhileEnd (· == '\r') (decodeLossy content) := by
  have plain : '\n' ∉ decodeLossy content := by
    rwa [← List.count_eq_zero, Text.Utf8.count_newline_decodeLossy, List.count_eq_zero]
  rw [lineText, Text.dropWhileEnd, Text.dropWhileEnd]
  refine congrArg List.reverse (Text.dropWhile_congr fun c member => ?_)
  have other : c ≠ '\n' := fun same => plain (same ▸ List.mem_reverse.mp member)
  rw [beq_false_of_ne other, Bool.or_false]

/-- The newline at the end of a line has no part in its text. -/
theorem lineText_concat_newline (content : Bytes) :
    lineText (content ++ [10]) = lineText content := by
  rw [lineText, Text.Utf8.decodeLossy_concat_newline]
  exact List.rdropWhile_concat_pos _ _ _ rfl

theorem copied_eq_shown (container : String) {content : Bytes} (unbroken : 10 ∉ content) :
    copied container content = shown container content := by
  rw [copied, shown, lineText_of_unbroken unbroken]
  exact (apply_ite Text.Utf8.ofString _ _ _).symm

/-- A line is copied as it is shown, with its newline and without. -/
theorem copied_concat_newline (container : String) {content : Bytes} (unbroken : 10 ∉ content) :
    copied container (content ++ [10]) = shown container content := by
  rw [copied, lineText_concat_newline, ← copied_eq_shown container unbroken, copied]

/-- A shown line ends in its newline, and has no other unless the name of its container has. -/
theorem exists_shown (container : String) {content : Bytes} (unbroken : 10 ∉ content) :
    ∃ line, shown container content = line ++ [10] ∧ (10 ∈ line ↔ '\n' ∈ container.toList) := by
  have plain : (Text.dropWhileEnd (· == '\r') (decodeLossy content)).count '\n' = 0 := by
    refine List.count_eq_zero.mpr fun member => unbroken ?_
    have inside := (List.rdropWhile_prefix _ _).subset member
    rwa [← List.count_pos_iff, Text.Utf8.count_newline_decodeLossy, List.count_pos_iff] at inside
  obtain ⟨line, same, newlines⟩ : ∃ line : String,
      shown container content = Text.Utf8.ofString (line ++ "\n") ∧
        line.toList.count '\n' = container.toList.count '\n' := by
    rw [shown]
    generalize Text.dropWhileEnd (· == '\r') (decodeLossy content) = text at plain
    split
    · refine ⟨container ++ " |", ?_, ?_⟩
      · rw [String.append_assoc]
        rfl
      · rw [String.toList_append, List.count_append]
        rfl
    · have chars : (String.ofList text).toList = text := String.toList_ofList
      refine ⟨_, rfl, ?_⟩
      rw [String.toList_append, String.toList_append, List.count_append, List.count_append, chars,
        plain]
      rfl
  refine ⟨Text.Utf8.ofString line, ?_, ?_⟩
  · rw [same, Text.Utf8.ofString, String.toList_append]
    exact List.flatMap_append
  · rw [← List.count_pos_iff, Text.Utf8.ofString, Text.Utf8.count_newline_encode, newlines,
      List.count_pos_iff]

/-! ## Outputs cut at newlines -/

/-- An output cut at its newlines: the lines that are whole, and what has been begun behind
them. -/
structure Cut (output : Bytes) (whole : List Bytes) (begun : Bytes) : Prop where
  made : output = whole.flatMap (· ++ [10]) ++ begun
  unbroken : ∀ content ∈ whole, 10 ∉ content
  unended : 10 ∉ begun

namespace Cut

variable {output begun more left : Bytes} {whole next : List Bytes}

theorem nil : Cut [] [] [] where
  made := rfl
  unbroken := by simp
  unended := List.not_mem_nil

/-- A newline before an output ends an empty line. -/
theorem cons_newline (cut : Cut output whole begun) : Cut (10 :: output) ([] :: whole) begun where
  made := congrArg (10 :: ·) cut.made
  unbroken := List.forall_mem_cons.mpr ⟨List.not_mem_nil, cut.unbroken⟩
  unended := cut.unended

/-- Any other byte stands before the first line. -/
theorem cons {byte : UInt8} {content : Bytes} (other : byte ≠ 10)
    (cut : Cut output (content :: whole) begun) :
    Cut (byte :: output) ((byte :: content) :: whole) begun where
  made := congrArg (byte :: ·) cut.made
  unbroken := by
    obtain ⟨first, later⟩ := List.forall_mem_cons.mp cut.unbroken
    exact List.forall_mem_cons.mpr ⟨List.not_mem_cons_of_ne_of_not_mem other.symm first, later⟩
  unended := cut.unended

theorem begin {byte : UInt8} (other : byte ≠ 10) (cut : Cut output [] begun) :
    Cut (byte :: output) [] (byte :: begun) where
  made := congrArg (byte :: ·) cut.made
  unbroken := cut.unbroken
  unended := List.not_mem_cons_of_ne_of_not_mem other.symm cut.unended

/-- What comes later is cut together with what has been begun. -/
theorem append (cut : Cut output whole begun) (later : Cut (begun ++ more) next left) :
    Cut (output ++ more) (whole ++ next) left where
  made := by
    rw [cut.made, List.append_assoc, later.made, List.flatMap_append, List.append_assoc]
  unbroken := List.forall_mem_append.mpr ⟨cut.unbroken, later.unbroken⟩
  unended := later.unended

/-- What has been begun is the last line, unless it is empty. -/
theorem contents_eq (cut : Cut output whole begun) :
    contents output = whole ++ if begun.isEmpty then [] else [begun] := by
  have parts : output.splitOn 10 = whole ++ [begun] := by
    obtain ⟨rfl, unbroken, unended⟩ := cut
    induction whole with
    | nil => exact List.splitOn_eq_singleton unended
    | cons content whole ih =>
        obtain ⟨-, later⟩ := List.forall_mem_cons.mp unbroken
        rw [List.flatMap_cons, List.append_assoc, List.append_assoc, List.singleton_append,
          List.splitOn_append_cons_self_of_not_mem (unbroken content List.mem_cons_self), ih later]
        rfl
  rw [contents, parts, List.getLast?_concat, List.dropLast_concat]
  cases begun <;> simp

/-- Cutting an output gives its whole lines, each with its newline. -/
theorem lines_eq (output : Bytes) :
    ∃ whole, (lines output).1 = whole.map (· ++ [10]) ∧ Cut output whole (lines output).2 := by
  induction output with
  | nil => exact ⟨[], rfl, .nil⟩
  | cons byte rest ih =>
      obtain ⟨whole, split, cut⟩ := ih
      rw [lines]
      dsimp only
      split
      · rename_i newline
        exact ⟨[] :: whole, by rw [split, newline]; rfl, newline ▸ cut.cons_newline⟩
      · rename_i other
        rw [split]
        cases whole with
        | nil => exact ⟨[], rfl, cut.begin other⟩
        | cons content whole => exact ⟨(byte :: content) :: whole, rfl, cut.cons other⟩

/-- The lines of an output are copied as they are shown. -/
theorem exists_copied (output : Bytes) :
    ∃ whole, Cut output whole (lines output).2 ∧ ∀ container,
      (lines output).1.map (copied container) = whole.map (shown container) := by
  obtain ⟨whole, raw, cut⟩ := lines_eq output
  refine ⟨whole, cut, fun container => ?_⟩
  rw [raw, List.map_map]
  exact List.map_congr_left fun content member =>
    copied_concat_newline container (cut.unbroken content member)

/-- What comes later is cut as if what has been begun were its beginning. -/
theorem contents_append (cut : Cut output whole begun) (more : Bytes) :
    contents (output ++ more) = whole ++ contents (begun ++ more) := by
  obtain ⟨next, -, later⟩ := lines_eq (begun ++ more)
  rw [(cut.append later).contents_eq, later.contents_eq, List.append_assoc]

/-- The lines that are whole are the first, whatever comes later. -/
theorem isPrefix (cut : Cut output whole begun) (more : Bytes) :
    whole <+: contents (output ++ more) := by
  rw [cut.contents_append]
  exact List.prefix_append _ _

end Cut

theorem not_mem_contents {output content : Bytes} (member : content ∈ contents output) :
    10 ∉ content := by
  obtain ⟨whole, -, cut⟩ := Cut.lines_eq output
  rw [cut.contents_eq, List.mem_append] at member
  rcases member with inside | last
  · exact cut.unbroken content inside
  · split at last
    · cases last
    · exact List.mem_singleton.mp last ▸ cut.unended

/-- With what is left behind the last newline all contents are copied as they are shown. -/
theorem map_copied (container : String) (output : Bytes) :
    ((lines output).1 ++ if !(lines output).2.isEmpty then [(lines output).2] else []).map
      (copied container) = (contents output).map (shown container) := by
  obtain ⟨whole, cut, same⟩ := Cut.exists_copied output
  rw [cut.contents_eq, List.map_append, List.map_append, same]
  generalize (lines output).2 = begun at cut
  cases begun with
  | nil => rfl
  | cons byte rest => exact congrArg (_ ++ [·]) (copied_eq_shown container cut.unended)

end Run.BuildOutput

end ContainerTasks
