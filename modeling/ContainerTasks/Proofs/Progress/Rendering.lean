import Mathlib.Data.List.Basic
import ContainerTasks.Progress.Transcript

/-! # Showing a build at once

What a transcript ought to say about a list of steps, without a cursor: the blocks of
the steps before the frontier and the opening of the step there, or all blocks once the
response has ended. Writing on from any cursor adds exactly what is missing
(`writeFrom_open`, `writeFrom_closing`).
-/

namespace ContainerTasks.Progress

namespace Step

/-- The head of a step and all its lines. -/
def opening (step : Step) : String :=
  step.shown step.name ++ String.join (step.lines.map step.shown)

/-- How the block of a step ends: with the line that closes it if it has finished, and
with a blank line. -/
def ending (step : Step) : String :=
  step.status.terminalLine.elim "\n" fun line => step.shown line ++ "\n"

/-- All that is shown of a step. -/
def block (step : Step) : String :=
  step.opening ++ step.ending

/-- What has been written of a step's head and lines. -/
def written (step : Step) (cursor : Cursor) : String :=
  (if cursor.headWritten then step.shown step.name else "") ++
    String.join ((step.lines.take cursor.linesWritten).map step.shown)

/-- What has been written and what has not make up the opening, provided no line was
written before the head. -/
theorem written_append_unwritten (step : Step) {cursor : Cursor}
    (headFirst : cursor.headWritten = false → cursor.linesWritten = 0) :
    step.written cursor ++ step.unwritten cursor = step.opening := by
  have lines : String.join ((step.lines.take cursor.linesWritten).map step.shown) ++
      String.join ((step.lines.drop cursor.linesWritten).map step.shown) =
        String.join (step.lines.map step.shown) := by
    rw [← String.join_append, ← List.map_append, List.take_append_drop]
  unfold written unwritten opening
  cases head : cursor.headWritten with
  | true =>
      simp only [↓reduceIte, String.empty_append]
      rw [String.append_assoc, lines]
  | false =>
      simp [headFirst head]

@[simp]
theorem written_fresh (step : Step) (position : Nat) : step.written { position } = "" := by
  simp [written]

theorem written_of_nothing {step : Step} {cursor : Cursor} (head : cursor.headWritten = false)
    (lines : cursor.linesWritten = 0) : step.written cursor = "" := by
  simp [written, head, lines]

theorem shown_congr {first second : Step} (index : first.index = second.index) :
    first.shown = second.shown := by
  funext line
  rw [shown, shown, index]

/-- What has been written of a step stays right when lines are added. -/
theorem written_congr {first second : Step} {cursor : Cursor} (index : first.index = second.index)
    (name : first.name = second.name) (lines : second.lines <+: first.lines)
    (inside : cursor.linesWritten ≤ second.lines.length) :
    first.written cursor = second.written cursor := by
  have shown := shown_congr index
  obtain ⟨more, grown⟩ := lines
  rw [written, written, shown, name, ← grown, List.take_append_of_le_length inside]

/-- What is shown of a step depends on its number, its name, its lines and its status
only. -/
structure Alike (first second : Step) : Prop where
  index : first.index = second.index
  name : first.name = second.name
  lines : first.lines = second.lines
  status : first.status = second.status

namespace Alike

variable {first second : Step}

theorem opening (alike : first.Alike second) : first.opening = second.opening := by
  have shown := shown_congr alike.index
  rw [Step.opening, Step.opening, shown, alike.name, alike.lines]

theorem block (alike : first.Alike second) : first.block = second.block := by
  have shown := shown_congr alike.index
  rw [Step.block, Step.block, alike.opening, ending, ending, alike.status, shown]

end Alike

end Step

namespace Transcript

/-- The position of the first step that is active or is the last one. -/
def frontier (steps : List Step) : Nat :=
  min (steps.findIdx fun step => !step.status.isFinished) (steps.length - 1)

/-- What can be shown while the response goes on. -/
def openText (steps : List Step) : String :=
  String.join ((steps.take (frontier steps)).map Step.block) ++
    (steps[frontier steps]?).elim "" Step.opening

/-- What is shown once the response has ended. -/
def closedText (steps : List Step) : String :=
  String.join (steps.map Step.block)

theorem frontier_cons (step : Step) (later : List Step) :
    frontier (step :: later) =
      if step.status.isFinished && !later.isEmpty then frontier later + 1 else 0 := by
  unfold frontier
  rw [List.findIdx_cons]
  cases finished : step.status.isFinished <;> cases later <;> simp

theorem frontier_lt {steps : List Step} (present : steps ≠ []) :
    frontier steps < steps.length := by
  have positive := List.length_pos_of_ne_nil present
  unfold frontier
  omega

theorem frontier_le (steps : List Step) : frontier steps ≤ steps.length - 1 :=
  Nat.min_le_right _ _

theorem openText_cons (step : Step) (later : List Step) :
    openText (step :: later) =
      if step.status.isFinished && !later.isEmpty then step.block ++ openText later
      else step.opening := by
  unfold openText
  rw [frontier_cons]
  split
  · simp [String.append_assoc]
  · simp

theorem closedText_cons (step : Step) (later : List Step) :
    closedText (step :: later) = step.block ++ closedText later := by
  simp only [closedText, List.map_cons, String.join_cons]

/-- The frontier depends only on how the steps stand. -/
theorem frontier_congr {first second : List Step}
    (same : first.map Step.status = second.map Step.status) : frontier first = frontier second := by
  have length : first.length = second.length := by
    simpa using congrArg List.length same
  have finished (steps : List Step) : (steps.findIdx fun step => !step.status.isFinished) =
      (steps.map Step.status).findIdx fun status => !status.isFinished := by
    rw [List.findIdx_map]
    rfl
  unfold frontier
  rw [finished, finished, same, length]

/-- Up to the frontier all steps have finished, and only up to it if it is not the last
position. -/
theorem le_frontier_iff {steps : List Step} {position : Nat} (inside : position < steps.length) :
    position ≤ frontier steps ↔
      ∀ earlier step, earlier < position → steps[earlier]? = some step →
        step.status.isFinished = true := by
  have last : position ≤ steps.length - 1 := by omega
  unfold frontier
  rw [Nat.le_min, and_iff_left last]
  constructor
  · intro upTo earlier step before found
    have skipped := List.not_of_lt_findIdx (Nat.lt_of_lt_of_le before upTo)
    obtain ⟨bound, rfl⟩ := List.getElem?_eq_some_iff.mp found
    simpa using skipped
  · intro finished
    refine List.le_findIdx_of_not inside ?_
    intro earlier before
    have bound : earlier < steps.length := Nat.lt_trans before inside
    simp [finished earlier steps[earlier] before (List.getElem?_eq_getElem bound)]

/-- Leaving out steps before the frontier does not move it. -/
theorem add_frontier_drop {steps : List Step} {position : Nat}
    (upTo : position ≤ frontier steps) :
    position + frontier (steps.drop position) = frontier steps := by
  induction steps generalizing position with
  | nil => simpa [frontier] using upTo
  | cons step later ih =>
      cases position with
      | zero => simp
      | succ position =>
          rw [frontier_cons] at upTo ⊢
          split at upTo
          · rw [List.drop_succ_cons, ← ih (Nat.le_of_succ_le_succ upTo)]
            simp only [*, ↓reduceIte]
            omega
          · omega

/-- What can be shown of the steps is the blocks of any before the frontier and what can
be shown of the others. -/
theorem openText_drop {steps : List Step} {position : Nat} (upTo : position ≤ frontier steps) :
    String.join ((steps.take position).map Step.block) ++ openText (steps.drop position) =
      openText steps := by
  have before : steps.take (frontier steps) =
      steps.take position ++ (steps.drop position).take (frontier (steps.drop position)) := by
    rw [← List.take_add, add_frontier_drop upTo]
  unfold openText
  rw [List.getElem?_drop, add_frontier_drop upTo, before, List.map_append, String.join_append,
    String.append_assoc]

/-- The step at the cursor is written to its end if it may be, and only then the
writing goes on. -/
theorem writeFrom_cons (closing : Bool) (cursor : Cursor) (step : Step) (later : List Step) :
    writeFrom closing cursor (step :: later) =
      if closing || (step.status.isFinished && !later.isEmpty) then
        (step.unwritten cursor ++ (step.ending ++
            (writeFrom closing { position := cursor.position + 1 } later).1),
          (writeFrom closing { position := cursor.position + 1 } later).2)
      else
        (step.unwritten cursor,
          { cursor with headWritten := true, linesWritten := step.lines.length }) := by
  cases status : step.status <;> cases closing <;> cases later <;>
    simp [writeFrom, Step.ending, Status.terminalLine, Status.isFinished, status,
      String.append_assoc]

/-- Nothing has been written of the step that a cursor has just come to. -/
theorem head_written_fresh (steps : List Step) (position : Nat) :
    (steps.head?.elim "" fun step => step.written { position }) = "" := by
  cases steps <;> simp

/-- **Writing on.** While the response goes on, what has been written of the first step
and what is written next make up what can be shown of the steps, and the cursor stands
at the frontier behind all lines of the step there. -/
theorem writeFrom_open (steps : List Step) (cursor : Cursor)
    (headFirst : cursor.headWritten = false → cursor.linesWritten = 0) :
    (steps.head?.elim "" fun step => step.written cursor) ++ (writeFrom false cursor steps).1 =
        openText steps ∧
      (writeFrom false cursor steps).2 =
        (steps[frontier steps]?).elim cursor fun step =>
          { position := cursor.position + frontier steps
            headWritten := true
            linesWritten := step.lines.length } := by
  induction steps generalizing cursor with
  | nil => simp [writeFrom, openText, frontier]
  | cons step later ih =>
      have opening := step.written_append_unwritten headFirst
      obtain ⟨text, next⟩ := ih { position := cursor.position + 1 } fun _ => rfl
      rw [head_written_fresh, String.empty_append] at text
      rw [writeFrom_cons, openText_cons, frontier_cons, Bool.false_or, List.head?_cons,
        Option.elim_some]
      split
      · rename_i goesOn
        have more : later ≠ [] := by
          rintro rfl
          simp at goesOn
        refine ⟨?_, ?_⟩
        · rw [text, ← String.append_assoc, opening, ← String.append_assoc]
          rfl
        · rw [next, List.getElem?_cons_succ, List.getElem?_eq_getElem (frontier_lt more)]
          simp only [Option.elim_some, Nat.add_assoc, Nat.add_comm 1]
      · refine ⟨opening, ?_⟩
        simp

/-- Once the response has ended all that is missing of the steps is written. -/
theorem writeFrom_closing (steps : List Step) (cursor : Cursor)
    (headFirst : cursor.headWritten = false → cursor.linesWritten = 0) :
    (steps.head?.elim "" fun step => step.written cursor) ++ (writeFrom true cursor steps).1 =
      closedText steps := by
  induction steps generalizing cursor with
  | nil => simp [writeFrom, closedText]
  | cons step later ih =>
      have opening := step.written_append_unwritten headFirst
      have text := ih { position := cursor.position + 1 } fun _ => rfl
      rw [head_written_fresh, String.empty_append] at text
      rw [writeFrom_cons, closedText_cons, List.head?_cons, Option.elim_some, Bool.true_or,
        if_pos rfl, text, ← String.append_assoc, opening, ← String.append_assoc]
      rfl

/-- What has been written of a list of steps according to a cursor. -/
def cursorText (cursor : Cursor) (steps : List Step) : String :=
  String.join ((steps.take cursor.position).map Step.block) ++
    (steps[cursor.position]?).elim "" fun step => step.written cursor

theorem cursorText_append_open {cursor : Cursor} {steps : List Step}
    (headFirst : cursor.headWritten = false → cursor.linesWritten = 0)
    (upTo : cursor.position ≤ frontier steps) :
    cursorText cursor steps ++ (writeFrom false cursor (steps.drop cursor.position)).1 =
        openText steps ∧
      (writeFrom false cursor (steps.drop cursor.position)).2 =
        (steps[frontier steps]?).elim cursor fun step =>
          { position := frontier steps, headWritten := true, linesWritten := step.lines.length } := by
  obtain ⟨text, next⟩ := writeFrom_open (steps.drop cursor.position) cursor headFirst
  rw [List.head?_drop] at text
  rw [List.getElem?_drop, add_frontier_drop upTo] at next
  refine ⟨?_, next⟩
  rw [cursorText, String.append_assoc, text, openText_drop upTo]

theorem cursorText_append_closing {cursor : Cursor} {steps : List Step}
    (headFirst : cursor.headWritten = false → cursor.linesWritten = 0) :
    cursorText cursor steps ++ (writeFrom true cursor (steps.drop cursor.position)).1 =
      closedText steps := by
  have text := writeFrom_closing (steps.drop cursor.position) cursor headFirst
  rw [List.head?_drop] at text
  rw [cursorText, String.append_assoc, text, closedText, closedText, ← String.join_append,
    ← List.map_append, List.take_append_drop]

theorem cursorText_congr {cursor : Cursor} {first second : List Step}
    (blocks : ∀ position, position < cursor.position →
      first[position]?.map Step.block = second[position]?.map Step.block)
    (here : ((first[cursor.position]?).elim "" fun step => step.written cursor) =
      (second[cursor.position]?).elim "" fun step => step.written cursor) :
    cursorText cursor first = cursorText cursor second := by
  have before : (first.take cursor.position).map Step.block =
      (second.take cursor.position).map Step.block := by
    refine List.ext_getElem? fun position => ?_
    rw [List.getElem?_map, List.getElem?_map, List.getElem?_take, List.getElem?_take]
    split
    · rename_i inside
      exact blocks position inside
    · rfl
  rw [cursorText, cursorText, before, here]

/-- Behind all lines at the frontier everything that can be shown has been written. -/
theorem cursorText_frontier {steps : List Step} {step : Step}
    (found : steps[frontier steps]? = some step) :
    cursorText { position := frontier steps, headWritten := true
                 linesWritten := step.lines.length } steps = openText steps := by
  simp only [cursorText, openText, found, Option.elim_some, Step.written, Step.opening,
    ↓reduceIte, List.take_length]

end Transcript

end ContainerTasks.Progress
