import ContainerTasks.Files.Path
import ContainerTasks.Project.Basic
import ContainerTasks.Project.Error
import ContainerTasks.Shell.Words
import ContainerTasks.Text.Blank

/-! # Drafts of projects

A project as its file states it, before it has been checked. `Draft.accept` turns
it into a project: the containers are checked first and then the tasks, each in
the order of their names, and the first fault counts.
-/

namespace ContainerTasks.Project

/-- A container as its file states it. -/
structure ContainerDraft where
  image : Option String := none
  buildDirectory : Option String := none
  dockerfile : Option String := none
  buildArguments : TextMap := ∅
  command : Option String := none
  environment : TextMap := ∅
  workingDirectory : Option String := none
  dependencies : NameSet := ∅

/-- What a task runs, as its file states it. -/
structure TaskRunDraft where
  container : String
  command : Option String := none
  environment : TextMap := ∅

/-- A task as its file states it. -/
structure TaskDraft where
  description : Option String := none
  group : Option String := none
  run : Option TaskRunDraft := none
  dependencies : NameSet := ∅
  prerequisites : List String := []

/-- A project as its file states it. -/
structure Draft where
  name : Option String := none
  containers : Std.ExtTreeMap String ContainerDraft := ∅
  tasks : Std.ExtTreeMap String TaskDraft := ∅

/-- The build file used when none is named. -/
def defaultDockerfile : String := "Dockerfile"

/-- The name of a project whose directory has none. -/
def defaultName : String := "gantry"

/-- The arguments of a command; there must be at least one. -/
def parseCommand (command : String) : Except String (List String) :=
  match Shell.words? command with
  | none =>
    .error ("command '" ++ command ++ "' has an unbalanced quote or a dangling backslash")
  | some [] => .error "command cannot be empty"
  | some arguments => .ok arguments

/-- The arguments of a command that need not be there. -/
def parseOptionalCommand : Option String → Except String (Option (List String))
  | none => .ok none
  | some command => (parseCommand command).map some

namespace ContainerDraft

/-- Where the image comes from, as seen from the directory of the project. -/
def source (draft : ContainerDraft) (directory : String) : Except ContainerFault ImageSource :=
  match draft.image, draft.buildDirectory with
  | some image, none =>
    if draft.dockerfile.isSome || !draft.buildArguments.isEmpty then
      .error .buildSettingsWithImage
    else .ok (.pull image)
  | none, some path =>
    .ok (.build (Files.Path.join directory path) (draft.dockerfile.getD defaultDockerfile)
      draft.buildArguments)
  | some _, some _ => .error .imageAndDirectory
  | none, none => .error .noSource

/-- Checks a container. -/
def accept (draft : ContainerDraft) (name directory : String) :
    Except ContainerFault Container := do
  if Text.isBlankText name then throw .emptyName
  let source ← draft.source directory
  if draft.dependencies.toList.any Text.isBlankText then throw .emptyDependency
  let command ← (parseOptionalCommand draft.command).mapError ContainerFault.command
  return {
    name, source, command
    environment := draft.environment
    workingDirectory := draft.workingDirectory
    dependencies := draft.dependencies }

end ContainerDraft

namespace TaskDraft

/-- Checks what a task runs. -/
def acceptRun (draft : TaskDraft) : Except TaskFault (Option TaskRun) :=
  match draft.run with
  | some run => do
    if Text.isBlankText run.container then throw .emptyContainer
    let command ← (parseOptionalCommand run.command).mapError TaskFault.command
    return some { container := run.container, command, environment := run.environment }
  | none => if draft.prerequisites.isEmpty then .error .nothingToDo else .ok none

/-- Checks a task. -/
def accept (draft : TaskDraft) (name : String) : Except TaskFault Task := do
  if Text.isBlankText name then throw .emptyName
  let run ← draft.acceptRun
  if draft.dependencies.toList.any Text.isBlankText then throw .emptyDependency
  if draft.prerequisites.any Text.isBlankText then throw .emptyPrerequisite
  return {
    name, run
    description := draft.description
    group := draft.group
    dependencies := draft.dependencies
    prerequisites := draft.prerequisites }

end TaskDraft

namespace Draft

/-- The name of a project: the one given, or that of its directory. -/
def projectName (draft : Draft) (directory : String) : Except Error String :=
  match draft.name with
  | some name => if Text.isBlankText name then .error .emptyProjectName else .ok name
  | none => .ok ((Files.Path.name? directory).getD defaultName)

/-- Checks entries in the order of their names. -/
def acceptEntries {α β ε : Type} (accept : String → α → Except ε β)
    (entries : List (String × α)) : Except ε (List (String × β)) :=
  entries.mapM fun (name, draft) => (accept name draft).map (name, ·)

/-- Checks a project that lies in a directory. -/
def accept (draft : Draft) (directory : String) : Except Error Project := do
  let name ← draft.projectName directory
  let containers ← acceptEntries
    (fun name container => (container.accept name directory).mapError (Error.container name))
    draft.containers.toList
  let tasks ← acceptEntries
    (fun name task => (task.accept name).mapError (Error.task name)) draft.tasks.toList
  return { name, containers := .ofList containers, tasks := .ofList tasks }

end Draft

end ContainerTasks.Project
