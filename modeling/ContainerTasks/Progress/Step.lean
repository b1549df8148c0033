import Std.Data.ExtTreeMap
import Std.Data.ExtTreeSet
import ContainerTasks.Breakdown
import ContainerTasks.Progress.Instant
import ContainerTasks.Text.Utf8

/-! # Build steps

A step is a vertex that has shown some activity. It collects the lines to show
for it, the state of its downloads, and how it finished. A finished step may
still be revised, but only upwards: an error outranks a cached result, and a
cached result outranks an ordinary one.
-/

namespace ContainerTasks.Progress

/-- How a step stands. -/
inductive Status
  | active
  | cached
  | done
  | errored (message : String)
deriving DecidableEq, Repr

namespace Status

/-- Whether the step has finished, in whatever way. -/
def isFinished : Status → Bool
  | active => false
  | cached | done | errored _ => true

/-- The line that closes a finished step. -/
def terminalLine : Status → Option String
  | active => none
  | cached => some "CACHED"
  | done => some "DONE"
  | errored message => some ("ERROR: " ++ message)

/-- The status after the vertex was reported complete once more. -/
def complete (status : Status) (isCached : Bool) : Option String → Status
  | some message => errored message
  | none =>
    match status with
    | errored message => errored message
    | cached => cached
    | active | done => if isCached then cached else done

end Status

/-- How much of a step's content has arrived and how much there is. -/
structure Download where
  current : UInt64
  total : UInt64
deriving DecidableEq, Repr

/-- Two downloads together. -/
def Download.add (first second : Download) : Except Breakdown Download := do
  return ⟨← Breakdown.add first.current second.current, ← Breakdown.add first.total second.total⟩

/-- The view of a step that is running; `download` is there when the step
fetches content. -/
structure ActiveStep where
  index : Nat
  name : String
  download : Option Download
deriving DecidableEq, Repr

namespace ActiveStep

/-- The step in one line. -/
def text (step : ActiveStep) : String :=
  let head := "#" ++ toString step.index ++ " " ++ step.name
  match step.download with
  | none => head
  | some download =>
    head ++ " (" ++ toString download.current.toNat ++ "/" ++ toString download.total.toNat ++
      " bytes)"

end ActiveStep

/-- A vertex that has shown some activity. -/
structure Step where
  vertex : String
  /-- Position in the order in which steps began, from one. -/
  index : Nat
  name : String
  status : Status := .active
  /-- The lines to show, without the number of the step. -/
  lines : List String := []
  startedAt : Option Instant := none
  /-- Set once the step has been shown to its end. -/
  isSealed : Bool := false
  /-- The operations that have been reported complete. -/
  finished : Std.ExtTreeSet String := ∅
  /-- The latest report of each operation that has a size. -/
  downloads : Std.ExtTreeMap String Download := ∅

namespace Step

/-- Names a step that had no name. -/
def rename (step : Step) (name : String) : Step :=
  if step.name.isEmpty then { step with name } else step

/-- Notes when the vertex started; the first report counts. -/
def start (step : Step) (time : Instant) : Step :=
  { step with startedAt := step.startedAt.or (some time) }

/-- Takes in a report that the vertex is complete. -/
def complete (step : Step) (cached : Bool) (error : Option String) : Step :=
  { step with status := step.status.complete cached error }

/-- A signed number without its negative part. -/
def clamp (n : Int64) : UInt64 :=
  if n < 0 then 0 else n.toUInt64

/-- Takes in a report about an operation: its size, if it has one, and one line
when it is first complete. -/
def operate (step : Step) (text : String) (current total : Int64) (isCompleted : Bool) : Step :=
  let step :=
    if 0 < total then
      { step with downloads := step.downloads.insert text ⟨clamp current, clamp total⟩ }
    else step
  if isCompleted && !step.finished.contains text then
    { step with
      finished := step.finished.insert text
      lines := step.lines ++ [text ++ ": done"] }
  else step

/-- A text cut at its newlines; one line more than it has newlines. -/
def splitLines : List Char → List (List Char)
  | [] => [[]]
  | c :: rest =>
    if c = '\n' then [] :: splitLines rest
    else
      match splitLines rest with
      | [] => [[c]]
      | line :: more => (c :: line) :: more

/-- A text without one newline at its end. -/
def dropNewline (chars : List Char) : List Char :=
  if chars.getLast? = some '\n' then chars.dropLast else chars

/-- The lines a piece of output adds, each behind the time since the start. -/
def outputLines (step : Step) (time : Instant) (data : Bytes) : List String :=
  let offset := secondsText (time.millisSince (step.startedAt.getD time))
  (splitLines (dropNewline (Text.Utf8.decodeLossy data))).map fun line =>
    offset ++ " " ++ String.ofList line

/-- Takes in output. -/
def print (step : Step) (time : Instant) (data : Bytes) : Step :=
  if data.isEmpty then step else { step with lines := step.lines ++ step.outputLines time data }

/-- All downloads of a step together. -/
def download (step : Step) : Except Breakdown (Option Download) := do
  if step.downloads.isEmpty then return none
  return some (← step.downloads.toList.foldlM (fun sum (_, part) => sum.add part) ⟨0, 0⟩)

/-- The step as it is shown while it runs. -/
def toActive (step : Step) : Except Breakdown ActiveStep := do
  return ⟨step.index, step.name, ← step.download⟩

end Step

end ContainerTasks.Progress
