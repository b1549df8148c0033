import ContainerTasks.Project.Basic
import ContainerTasks.Text.ColumnWidth
import ContainerTasks.Text.Cut
import ContainerTasks.Text.Margin

/-! # The table of tasks

Tasks in the order of their names, one row for each. A column is as wide as its widest
line, and a cell with line ends takes several lines.
-/

namespace ContainerTasks.Program.TaskTable

/-- The lines of a cell. -/
abbrev Cell := List String

/-- The cell that shows a text. -/
def cellOf (text : String) : Cell :=
  Text.cut '\n' text

/-- The heads of the columns. -/
def heads : List String :=
  ["name", "group", "description", "prerequisites"]

/-- How many characters of a description are shown. -/
def descriptionLimit : Nat := 60

/-- The cells of a task. -/
def cells (task : Project.Task) : List Cell :=
  [task.name, task.group.getD "",
    String.ofList ((task.description.getD "").toList.take descriptionLimit),
    String.intercalate ", " task.prerequisites].map cellOf

/-- The width of a cell. -/
def cellWidth (cell : Cell) : Nat :=
  (cell.map Text.columnWidth).foldl max 0

/-- The widths of columns, given the rows. -/
def widths (rows : List (List Cell)) : List Nat :=
  rows.foldl (fun widths row => List.zipWith max widths (row.map cellWidth))
    (List.replicate heads.length 0)

/-- A text at the left of its column. -/
def left (width : Nat) (text : String) : String :=
  text ++ Text.spaces (width - Text.columnWidth text)

/-- A text in the middle of its column; an odd space goes to the left. -/
def centred (width : Nat) (text : String) : String :=
  let room := width - Text.columnWidth text
  Text.spaces (room - room / 2) ++ text ++ Text.spaces (room / 2)

/-- A line of the table, given what stands in each column. -/
def line (fields : List String) : String :=
  "|" ++ String.join (fields.map fun field => " " ++ field ++ " |")

/-- The line under the heads. -/
def rule (widths : List Nat) : String :=
  "|" ++ String.join (widths.map fun width =>
    String.ofList (List.replicate (width + 2) '-') ++ "|")

/-- The lines of a row. -/
def rowLines (widths : List Nat) (row : List Cell) : List String :=
  (List.range ((row.map List.length).foldl max 0)).map fun place =>
    line (List.zipWith (fun width cell => left width (cell[place]?.getD "")) widths row)

/-- The lines of the table of tasks. -/
def lines (tasks : List Project.Task) : List String :=
  let rows := tasks.map cells
  let widths := widths (heads.map cellOf :: rows)
  line (List.zipWith centred widths heads) :: rule widths :: rows.flatMap (rowLines widths)

/-- What is printed about the tasks of a project. -/
def text (project : Project) : String :=
  let tasks := project.tasks.values
  if tasks.isEmpty then "No tasks found.\n"
  else String.join ((lines tasks).map (· ++ "\n"))

end ContainerTasks.Program.TaskTable
