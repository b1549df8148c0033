import ContainerTasks.Project.Draft
import ContainerTasks.Yaml.Resolve

/-! # Reading project files

A project file is a YAML document. Its settings become a draft, which is then
checked; what has the wrong type or an unknown name is refused.
-/

namespace ContainerTasks.Project

/-- A text that may be null or missing. -/
def optionalText (value : Option Tree) : Option (Option String) :=
  match value with
  | none | some .null => some none
  | some (.text text) => some (some text)
  | some _ => none

/-- Reads the values of entries. -/
def readEntries {α : Type} (read : Tree → Option α) (entries : List (String × Tree)) :
    Option (List (String × α)) :=
  entries.mapM fun (name, value) => (read value).map (name, ·)

/-- Entries by name; none if missing. -/
def entryMap {α : Type} (read : Tree → Option α) (value : Option Tree) :
    Option (Std.ExtTreeMap String α) :=
  match value with
  | none => some ∅
  | some (.table entries) =>
    match readEntries read entries with
    | none => none
    | some entries => some (.ofList entries)
  | some _ => none

/-- Texts by name; none if missing. -/
def textMap (value : Option Tree) : Option TextMap :=
  entryMap Tree.text? value

/-- A list of texts; empty if missing. -/
def textList (value : Option Tree) : Option (List String) :=
  match value with
  | none => some []
  | some (.list items) => items.mapM Tree.text?
  | some _ => none

/-- A set of names; empty if missing. -/
def nameSet (value : Option Tree) : Option NameSet :=
  (textList value).map fun names => .ofList names

namespace ContainerDraft

/-- The fields of a container. -/
def fields : List Tree.Field :=
  [⟨"image", false⟩, ⟨"build_directory", false⟩, ⟨"dockerfile", false⟩, ⟨"build_args", true⟩,
    ⟨"command", false⟩, ⟨"environment", true⟩, ⟨"working_directory", false⟩,
    ⟨"dependencies", true⟩]

/-- Reads a container. -/
def ofTree? (tree : Tree) : Option ContainerDraft := do
  let entries ← tree.fields? fields
  let get (name : String) := Tree.lookup name entries
  return {
    image := ← optionalText (get "image")
    buildDirectory := ← optionalText (get "build_directory")
    dockerfile := ← optionalText (get "dockerfile")
    buildArguments := ← textMap (get "build_args")
    command := ← optionalText (get "command")
    environment := ← textMap (get "environment")
    workingDirectory := ← optionalText (get "working_directory")
    dependencies := ← nameSet (get "dependencies") }

end ContainerDraft

namespace TaskRunDraft

/-- The fields of what a task runs. -/
def fields : List Tree.Field :=
  [⟨"container", false⟩, ⟨"command", false⟩, ⟨"environment", true⟩]

/-- Reads what a task runs. -/
def ofTree? (tree : Tree) : Option TaskRunDraft := do
  let entries ← tree.fields? fields
  let get (name : String) := Tree.lookup name entries
  return {
    container := ← (get "container").bind Tree.text?
    command := ← optionalText (get "command")
    environment := ← textMap (get "environment") }

end TaskRunDraft

namespace TaskDraft

/-- The fields of a task. -/
def fields : List Tree.Field :=
  [⟨"description", false⟩, ⟨"group", false⟩, ⟨"run", false⟩, ⟨"dependencies", true⟩,
    ⟨"prerequisites", true⟩]

/-- Reads a task. -/
def ofTree? (tree : Tree) : Option TaskDraft := do
  let entries ← tree.fields? fields
  let get (name : String) := Tree.lookup name entries
  let run ←
    match get "run" with
    | none | some .null => some none
    | some value => (TaskRunDraft.ofTree? value).map some
  return {
    run
    description := ← optionalText (get "description")
    group := ← optionalText (get "group")
    dependencies := ← nameSet (get "dependencies")
    prerequisites := ← textList (get "prerequisites") }

end TaskDraft

namespace Draft

/-- The fields of a project. -/
def fields : List Tree.Field :=
  [⟨"project_name", false⟩, ⟨"containers", true⟩, ⟨"tasks", true⟩]

/-- Reads a project from its settings. -/
def ofEntries? (entries : List (String × Tree)) : Option Draft := do
  let entries ← (Tree.table entries).fields? fields
  let get (name : String) := Tree.lookup name entries
  return {
    name := ← optionalText (get "project_name")
    containers := ← entryMap ContainerDraft.ofTree? (get "containers")
    tasks := ← entryMap TaskDraft.ofTree? (get "tasks") }

end Draft

/-- Reads a project from the text of its file, which lies in a directory. -/
def ofYaml (text directory : String) : Except Error Project :=
  match (Yaml.parse? text).bind Draft.ofEntries? with
  | none => .error .unreadable
  | some draft => draft.accept directory

end ContainerTasks.Project
