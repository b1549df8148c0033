import ContainerTasks.Journal.Quoted
import ContainerTasks.Project.Basic
import ContainerTasks.Project.Error
import ContainerTasks.Text.Blank

/-! # Image overrides

A run may use another image from a registry for a container. `specialise` gives
the project that such a run uses: the later of two overrides for a container
counts, and the first that names no container is an error.
-/

namespace ContainerTasks.Project

/-- The image to use for a container. -/
structure ImageOverride where
  container : String
  image : String
deriving DecidableEq, Repr

/-- A text cut at its first equals sign. -/
def cutAtEquals : List Char → Option (List Char × List Char)
  | [] => none
  | c :: rest =>
    if c = '=' then some ([], rest)
    else (cutAtEquals rest).map fun (before, after) => (c :: before, after)

/-- Reads an override: a container and an image around an equals sign, without the
blanks around them. -/
def ImageOverride.parse (text : String) : Except Error ImageOverride :=
  match cutAtEquals text.toList with
  | none => .error (.overrideForm text)
  | some (before, after) =>
    let container := Text.trimChars before
    let image := Text.trimChars after
    if container.isEmpty || image.isEmpty then .error (.overrideForm text)
    else .ok ⟨String.ofList container, String.ofList image⟩

/-- The project with another image for one container. -/
def overrideImage (project : Project) (change : ImageOverride) : Except Error Project :=
  match project.containers[change.container]? with
  | none => .error (.overrideContainer change.container)
  | some container =>
    .ok { project with
      containers := project.containers.insert change.container
        { container with source := .pull change.image } }

/-- The project with other images. -/
def specialise (project : Project) (overrides : List ImageOverride) : Except Error Project :=
  overrides.foldlM overrideImage project

/-- The entry that a specialised project leaves in the journal. -/
def specialisedEntry (task : String) (overrides : List ImageOverride) : Journal.Entry :=
  let quoted := overrides.map fun change =>
    "ImageOverride \x7b container: " ++ Journal.quote change.container ++ ", image: " ++
      Journal.quote change.image ++ " \x7d"
  ⟨.info, "Created task-specialised configuration.",
    [("task", task), ("overrides", "[" ++ String.intercalate ", " quoted ++ "]")]⟩

end ContainerTasks.Project
