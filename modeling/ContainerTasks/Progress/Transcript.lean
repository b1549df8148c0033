import ContainerTasks.Progress.Tracker

/-! # The transcript of a build

Plain text that shows the steps strictly in order. The head and the lines of a
step are written as soon as they are known. Its last line is held back until a
later step has begun or the build response has ended, since until then the step
may be revised; with it the step is sealed and the transcript moves on.
-/

namespace ContainerTasks.Progress

/-- How far the transcript has been written: the steps before `position`
completely, and of the step there the head and some lines. -/
structure Cursor where
  position : Nat := 0
  headWritten : Bool := false
  linesWritten : Nat := 0
deriving DecidableEq, Repr

namespace Step

/-- A line of a step as it is shown. -/
def shown (step : Step) (line : String) : String :=
  "#" ++ toString step.index ++ " " ++ line ++ "\n"

/-- What has not been written of a step's head and lines. -/
def unwritten (step : Step) (cursor : Cursor) : String :=
  (if cursor.headWritten then "" else step.shown step.name) ++
    String.join ((step.lines.drop cursor.linesWritten).map step.shown)

end Step

namespace Transcript

/-- Writes on from a cursor, given the steps from its position on. With `closing`
nothing is held back, and a step that has not finished ends with a blank line. -/
def writeFrom (closing : Bool) : Cursor → List Step → String × Cursor
  | cursor, [] => ("", cursor)
  | cursor, step :: later =>
    let text := step.unwritten cursor
    let next : Cursor := { position := cursor.position + 1 }
    match step.status.terminalLine with
    | some line =>
      if closing || !later.isEmpty then
        let (more, cursor) := writeFrom closing next later
        (text ++ step.shown line ++ "\n" ++ more, cursor)
      else (text, { cursor with headWritten := true, linesWritten := step.lines.length })
    | none =>
      if closing then
        let (more, cursor) := writeFrom closing next later
        (text ++ "\n" ++ more, cursor)
      else (text, { cursor with headWritten := true, linesWritten := step.lines.length })

/-- Seals the steps at the positions from `first` up to `last`. -/
def sealBetween (tracker : Tracker) (first last : Nat) : Tracker :=
  (List.range' first (last - first)).foldl (fun tracker position => tracker.sealStep (position + 1))
    tracker

/-- The text that can be written now, the cursor behind it, and the tracker with
the steps sealed that were written to their end. -/
def write (closing : Bool) (cursor : Cursor) (tracker : Tracker) : String × Cursor × Tracker :=
  let (text, next) := writeFrom closing cursor (tracker.steps.drop cursor.position)
  (text, next, sealBetween tracker cursor.position next.position)

end Transcript

end ContainerTasks.Progress
