import Mathlib.Data.List.Basic
import Mathlib.Data.List.Induction
import ContainerTasks.Progress.Transcript

/-! # Lines with the mark of a step

A transcript is the blocks of the steps, one behind the other, and each entry of a block is written
behind the mark of its step. The mark tells the step (`MarkedWith.unique`). If no entry has a
newline, each line of the blocks belongs to the step whose mark it has (`attributed_pageLines`).
-/

namespace ContainerTasks.Progress

/-- A text without a newline. -/
def OneLine (text : String) : Prop :=
  '\n' ∉ text.toList

instance (text : String) : Decidable (OneLine text) :=
  inferInstanceAs (Decidable ('\n' ∉ text.toList))

theorem OneLine.append {text more : String} (first : OneLine text) (second : OneLine more) :
    OneLine (text ++ more) := by
  rw [OneLine, String.toList_append, List.mem_append]
  exact not_or.mpr ⟨first, second⟩

theorem digits_ne_of_not_isDigit {number : Nat} {c : Char} (other : c.isDigit = false) :
    ∀ digit ∈ Nat.toDigits 10 number, digit ≠ c := by
  rintro digit member rfl
  have isDigit := Nat.isDigit_of_mem_toDigits (by decide) (by decide) member
  exact Bool.false_ne_true (other.symm.trans isDigit)

theorem oneLine_toString (number : Nat) : OneLine (toString number) := by
  rw [OneLine, Nat.toString_eq_repr, Nat.toList_repr]
  exact fun member => digits_ne_of_not_isDigit (by decide) '\n' member rfl

namespace Transcript

section Marks

/-- What stands in front of the lines of a step. -/
def mark (number : Nat) : List Char :=
  '#' :: (Nat.toDigits 10 number ++ [' '])

/-- A line begins with the mark of a step. -/
def MarkedWith (number : Nat) (line : List Char) : Prop :=
  mark number <+: line

theorem newline_notMem_mark (number : Nat) : '\n' ∉ mark number := by
  intro member
  rcases List.mem_cons.mp member with sign | inside
  · exact absurd sign (by decide)
  · rcases List.mem_append.mp inside with digit | blank
    · exact digits_ne_of_not_isDigit (by decide) '\n' digit rfl
    · exact absurd (List.mem_singleton.mp blank) (by decide)

/-- The number stands before the first blank. -/
theorem takeWhile_of_markedWith {number : Nat} {line : List Char}
    (marked : MarkedWith number line) :
    line.takeWhile (· != ' ') = '#' :: Nat.toDigits 10 number := by
  obtain ⟨rest, rfl⟩ := marked
  have digits : ∀ c ∈ Nat.toDigits 10 number, (c != ' ') = true := by
    intro c member
    exact bne_iff_ne.mpr (digits_ne_of_not_isDigit (by decide) c member)
  rw [mark, List.cons_append, List.append_assoc, List.takeWhile_cons_of_pos (by decide),
    List.takeWhile_append_of_pos digits, List.singleton_append,
    List.takeWhile_cons_of_neg (by decide), List.append_nil]

theorem MarkedWith.unique {first second : Nat} {line : List Char} (marked : MarkedWith first line)
    (again : MarkedWith second line) : first = second := by
  have same := (takeWhile_of_markedWith marked).symm.trans (takeWhile_of_markedWith again)
  have read (number : Nat) : Nat.ofDigitChars 10 (Nat.toDigits 10 number) 0 = number :=
    Nat.ofDigitChars_toDigits (by decide) (by decide)
  rw [← read first, List.tail_eq_of_cons_eq same, read second]

theorem not_markedWith_nil (number : Nat) : ¬ MarkedWith number [] :=
  fun marked => List.cons_ne_nil _ _ (List.prefix_nil.mp marked)

end Marks

section Lines

/-- The characters of entries of a step, each behind the mark and with a newline. -/
def entryChars (number : Nat) (entries : List String) : List Char :=
  entries.flatMap fun entry => mark number ++ entry.toList ++ ['\n']

/-- The lines of entries of a step. An entry with newlines has several lines, of which only the
first has the mark. -/
def entryLines (number : Nat) (entries : List String) : List (List Char) :=
  entries.flatMap fun entry => (mark number ++ entry.toList).splitOn '\n'

/-- The characters of the blocks of the first steps, each of which ends with a blank line. -/
def pageChars (blocks : List (List String)) : List Char :=
  (blocks.mapIdx fun position entries => entryChars (position + 1) entries ++ ['\n']).flatten

/-- The lines of the blocks of the first steps. -/
def pageLines (blocks : List (List String)) : List (List Char) :=
  (blocks.mapIdx fun position entries => entryLines (position + 1) entries ++ [[]]).flatten

theorem entryChars_append (number : Nat) (entries more : List String) :
    entryChars number (entries ++ more) = entryChars number entries ++ entryChars number more :=
  List.flatMap_append

theorem entryChars_singleton (number : Nat) (entry : String) :
    entryChars number [entry] = mark number ++ entry.toList ++ ['\n'] :=
  List.flatMap_singleton ..

theorem pageChars_concat (blocks : List (List String)) (entries : List String) :
    pageChars (blocks ++ [entries]) =
      pageChars blocks ++ entryChars (blocks.length + 1) entries ++ ['\n'] := by
  rw [pageChars, List.mapIdx_concat, List.flatten_append, List.flatten_singleton,
    ← List.append_assoc]
  rfl

theorem pageLines_concat (blocks : List (List String)) (entries : List String) :
    pageLines (blocks ++ [entries]) =
      pageLines blocks ++ entryLines (blocks.length + 1) entries ++ [[]] := by
  rw [pageLines, List.mapIdx_concat, List.flatten_append, List.flatten_singleton,
    ← List.append_assoc]
  rfl

theorem splitOn_entryChars (number : Nat) (entries : List String) (rest : List Char) :
    (entryChars number entries ++ rest).splitOn '\n' =
      entryLines number entries ++ rest.splitOn '\n' := by
  induction entries with
  | nil => rfl
  | cons entry entries ih =>
      rw [entryChars, entryLines, List.flatMap_cons, List.flatMap_cons, List.append_assoc,
        List.append_assoc, List.singleton_append, List.splitOn_append_cons_self,
        List.append_assoc]
      exact congrArg _ ih

theorem splitOn_pageChars (blocks : List (List String)) (rest : List Char) :
    (pageChars blocks ++ rest).splitOn '\n' = pageLines blocks ++ rest.splitOn '\n' := by
  induction blocks using List.reverseRecOn generalizing rest with
  | nil => rfl
  | append_singleton blocks entries ih =>
      rw [pageChars_concat, pageLines_concat, List.append_assoc, List.append_assoc, ih,
        splitOn_entryChars, List.singleton_append, List.splitOn_cons_eq_if_modifyHead,
        if_pos (beq_self_eq_true '\n')]
      simp only [List.append_assoc, List.singleton_append]

theorem entryLines_of_plain {entries : List String}
    (plain : ∀ entry ∈ entries, OneLine entry) (number : Nat) :
    entryLines number entries = entries.map fun entry => mark number ++ entry.toList := by
  rw [entryLines, List.map_eq_flatMap]
  refine List.flatMap_congr fun entry member => ?_
  refine List.splitOn_eq_singleton fun newline => ?_
  rcases List.mem_append.mp newline with front | inside
  · exact newline_notMem_mark number front
  · exact plain entry member inside

end Lines

/-- The lines of a transcript of some steps are attributed to them: each line is blank or marked
with the number of a step, the numbers never decrease, and a blank line stands behind the last
line of its step. -/
structure Attributed (count : Nat) (lines : List (List Char)) : Prop where
  marked : ∀ line ∈ lines,
    line = [] ∨ ∃ number, 1 ≤ number ∧ number ≤ count ∧ MarkedWith number line
  ordered : lines.Pairwise fun line later => ∀ {number number' : Nat},
    MarkedWith number line → MarkedWith number' later → number ≤ number'
  blank : ∀ {before rest : List (List Char)}, lines = before ++ [] :: rest →
    ∃ line ∈ before.getLast?, ∃ number, MarkedWith number line ∧
      ∀ later ∈ rest, ∀ {number' : Nat}, MarkedWith number' later → number < number'

namespace Attributed

theorem nil : Attributed 0 [] where
  marked := fun _ member => absurd member List.not_mem_nil
  ordered := .nil
  blank := by simp

variable {count : Nat} {lines : List (List Char)}

theorem le_of_markedWith (attributed : Attributed count lines) {line : List Char}
    (member : line ∈ lines) {number : Nat} (marked : MarkedWith number line) : number ≤ count := by
  rcases attributed.marked line member with rfl | ⟨other, -, upTo, same⟩
  · exact (not_markedWith_nil number marked).elim
  · rwa [marked.unique same]

/-- The block of one more step. -/
theorem concat (attributed : Attributed count lines) {block : List (List Char)} (some : block ≠ [])
    (own : ∀ line ∈ block, MarkedWith (count + 1) line) :
    Attributed (count + 1) (lines ++ block ++ [[]]) where
  marked := by
    intro line member
    rw [List.append_assoc, List.mem_append, List.mem_append, List.mem_singleton] at member
    rcases member with old | new | blank
    · rcases attributed.marked line old with blank | ⟨number, positive, upTo, marked⟩
      · exact Or.inl blank
      · exact Or.inr ⟨number, positive, Nat.le_succ_of_le upTo, marked⟩
    · exact Or.inr ⟨count + 1, Nat.succ_pos count, Nat.le_refl _, own line new⟩
    · exact Or.inl blank
  ordered := by
    refine List.pairwise_append.mpr ⟨List.pairwise_append.mpr ⟨attributed.ordered, ?_, ?_⟩, ?_, ?_⟩
    · refine List.pairwise_of_forall_mem_list ?_
      intro line member later among number number' own' its
      exact Nat.le_of_eq ((own'.unique (own line member)).trans (its.unique (own later among)).symm)
    · intro line member later among number number' own' its
      rw [its.unique (own later among)]
      exact Nat.le_succ_of_le (attributed.le_of_markedWith member own')
    · exact List.pairwise_singleton ..
    · intro line _ later among number number' _ its
      rw [List.mem_singleton.mp among] at its
      exact (not_markedWith_nil number' its).elim
  blank := by
    intro before rest split
    have filled : [] ∉ block := fun member => not_markedWith_nil _ (own [] member)
    rw [List.append_assoc] at split
    rcases List.append_eq_append_iff.mp split with ⟨former, rfl, new⟩ | ⟨further, old, new⟩
    · -- The blank line is the last one.
      obtain ⟨rfl, -, rfl⟩ := (List.append_cons_inj_of_notMem filled List.not_mem_nil).mp new
      refine ⟨block.getLast some, ?_, count + 1, own _ (List.getLast_mem some), nofun⟩
      rw [List.getLast?_append, List.getLast?_eq_some_getLast some]
      rfl
    · cases further with
      | nil =>
          -- The block does not begin with a blank line.
          obtain ⟨line, more, rfl⟩ := List.exists_cons_of_ne_nil some
          obtain rfl := (List.cons.inj new).1
          exact (filled List.mem_cons_self).elim
      | cons first further =>
          obtain ⟨rfl, rfl⟩ := List.cons.inj new
          obtain ⟨line, last, number, marked, least⟩ := attributed.blank old
          refine ⟨line, last, number, marked, fun later among number' its => ?_⟩
          rcases List.mem_append.mp among with before | new
          · exact least later before its
          rcases List.mem_append.mp new with here | blank
          · have member : line ∈ lines := old ▸ List.mem_append_left _ (List.mem_of_getLast? last)
            rw [its.unique (own later here)]
            exact Nat.lt_succ_of_le (attributed.le_of_markedWith member marked)
          · rw [List.mem_singleton.mp blank] at its
            exact (not_markedWith_nil number' its).elim

end Attributed

theorem attributed_pageLines {blocks : List (List String)}
    (filled : ∀ entries ∈ blocks, entries ≠ [])
    (plain : ∀ entries ∈ blocks, ∀ entry ∈ entries, OneLine entry) :
    Attributed blocks.length (pageLines blocks) := by
  induction blocks using List.reverseRecOn with
  | nil => exact .nil
  | append_singleton blocks entries ih =>
      have former := ih (fun other member => filled other (List.mem_append_left _ member))
        fun other member => plain other (List.mem_append_left _ member)
      have last : entries ∈ blocks ++ [entries] :=
        List.mem_append_right _ (List.mem_singleton_self entries)
      rw [pageLines_concat, List.length_append, List.length_singleton,
        entryLines_of_plain (plain entries last)]
      refine former.concat (mt List.map_eq_nil_iff.mp (filled entries last)) fun line member => ?_
      obtain ⟨entry, -, rfl⟩ := List.mem_map.mp member
      exact List.prefix_append _ _

end Transcript

end ContainerTasks.Progress
