import ContainerTasks.Text.Cut

/-! # Paths

Paths as texts. Joining does not normalise; the name of a path is its last part
that is neither empty nor a dot.
-/

namespace ContainerTasks.Files.Path

/-- Whether a path starts at the root. -/
def isAbsolute (path : String) : Bool :=
  path.toList.head? == some '/'

/-- A path as seen from a directory. An absolute path stands for itself. -/
def join (directory path : String) : String :=
  if isAbsolute path || directory.isEmpty then path
  else if directory.toList.getLast? == some '/' then directory ++ path
  else directory ++ "/" ++ path

/-- The parts of a path between slashes, without empty ones and dots. -/
def parts (path : String) : List String :=
  (Text.cut '/' path).filter fun part => part != "" && part != "."

/-- The name of what a path leads to, unless it is a root or leads upwards. -/
def name? (path : String) : Option String :=
  match (parts path).getLast? with
  | some part => if part = ".." then none else some part
  | none => none

/-- The absolute path of a path seen from an absolute directory, without empty
parts and dots. -/
def absolute (directory path : String) : String :=
  "/" ++ String.intercalate "/" (parts (join directory path))

/-- The directory an absolute path without empty parts lies in. -/
def parent (path : String) : String :=
  "/" ++ String.intercalate "/" (parts path).dropLast

end ContainerTasks.Files.Path
