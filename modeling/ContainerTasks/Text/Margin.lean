/-! # Margins

Spaces in front of lines.
-/

namespace ContainerTasks.Text

/-- So many spaces. -/
def spaces (count : Nat) : String :=
  String.ofList (List.replicate count ' ')

/-- A text whose lines after the first begin with so many spaces. -/
def indented (margin : Nat) (text : String) : String :=
  String.join (text.toList.map fun c =>
    if c = '\n' then "\n" ++ spaces margin else String.ofList [c])

end ContainerTasks.Text
