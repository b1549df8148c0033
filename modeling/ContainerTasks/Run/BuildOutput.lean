import ContainerTasks.Engine.Basic
import ContainerTasks.Text.Blank
import ContainerTasks.Text.Utf8

/-! # The output of builds

Builds may go on side by side, so their output is copied line by line, and each
line begins with the name of its container. What is no text is replaced, and line
ends are made alike. Output on its way to be copied is limited: a build that has
filled the room for it gives way.
-/

namespace ContainerTasks.Run.BuildOutput

/-- The whole lines of an output, each with its line feed, and the rest. -/
def lines : Bytes → List Bytes × Bytes
  | [] => ([], [])
  | byte :: rest =>
    let (whole, tail) := lines rest
    if byte = 10 then ([byte] :: whole, tail)
    else
      match whole with
      | [] => ([], byte :: tail)
      | line :: more => ((byte :: line) :: more, tail)

/-- The text of a line without the line ends at its end. -/
def lineText (line : Bytes) : List Char :=
  Text.dropWhileEnd (fun c => c == '\r' || c == '\n') (Text.Utf8.decodeLossy line)

/-- A line as it is copied. -/
def copied (container : String) (line : Bytes) : Bytes :=
  let text := lineText line
  if text.isEmpty then Text.Utf8.ofString (container ++ " |\n")
  else Text.Utf8.ofString (container ++ " | " ++ String.ofList text ++ "\n")

/-- How many bytes may be on their way to be copied. -/
def capacity : Nat := 8 * 1024

/-- An output cut so that its first part fits the room there is and every other one
the whole capacity. -/
def portions : (room : Nat) → Bytes → List Bytes
  | _, [] => [[]]
  | 0, byte :: rest =>
    match portions (capacity - 1) rest with
    | [] => [[], [byte]]
    | part :: more => [] :: (byte :: part) :: more
  | room + 1, byte :: rest =>
    match portions room rest with
    | [] => [[byte]]
    | part :: more => (byte :: part) :: more

/-- The course of a build with a pause wherever it has filled the room for its
output. -/
def paced : (room : Nat) → List (Engine.Moment Engine.BuildNews) →
    List (Engine.Moment Engine.BuildNews)
  | _, [] => []
  | _, .pause :: rest => .pause :: paced capacity rest
  | room, .news (.output text) :: rest =>
    let parts := portions room text
    let room := if parts.length = 1 then room else capacity
    (parts.map fun part => .news (.output part)).intersperse .pause ++
      paced (room - (parts.getLast?.getD []).length) rest
  | room, moment :: rest => moment :: paced room rest

end ContainerTasks.Run.BuildOutput
