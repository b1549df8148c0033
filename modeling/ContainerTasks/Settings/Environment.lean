import ContainerTasks.Settings.LooseValue
import ContainerTasks.Text.Cut

/-! # Settings in environment variables

A variable whose name begins with the prefix of the program sets what the rest of
its name leads to. Two underscores or a point lead into a section.
-/

namespace ContainerTasks.Settings.Environment

/-- What the name of a variable that sets something begins with, in small letters. -/
def namePrefix : List Char := "gantry_".toList

/-- A text with a point in place of every two underscores. -/
def pointed : List Char → List Char
  | '_' :: '_' :: rest => '.' :: pointed rest
  | c :: rest => c :: pointed rest
  | [] => []

/-- The names that the name of a variable leads through. Capital letters count as
small ones, and a variable with an empty name among them sets nothing. -/
def path? (name : String) : Option (List String) :=
  let chars := name.toList.map Char.toLower
  if namePrefix.isPrefixOf chars then
    let names := Text.cutAt '.' (pointed (Text.trimChars (chars.drop namePrefix.length)))
    if names.any List.isEmpty then none else some (names.map String.ofList)
  else none

/-- What the variables of an environment set, in their order. -/
def layer (environment : List (String × String)) : Tree :=
  environment.foldl
    (fun tree (name, value) =>
      match path? name with
      | none => tree
      | some path => tree.overlay ((LooseValue.read value).under path))
    (.table [])

end ContainerTasks.Settings.Environment
