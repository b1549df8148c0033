import Std.Data.ExtTreeMap
import Std.Data.ExtTreeSet

/-! # Projects

A project has containers and tasks. A container says where its image comes from
and what it needs to run; a task runs a command in a container, after other tasks
if it has prerequisites.
-/

namespace ContainerTasks

/-- Texts by name. -/
abbrev TextMap := Std.ExtTreeMap String String

/-- A set of names. -/
abbrev NameSet := Std.ExtTreeSet String

namespace Project

/-- Where the image of a container comes from. -/
inductive ImageSource
  /-- From a registry. -/
  | pull (image : String)
  /-- Built from a directory with a build file in it. -/
  | build (directory dockerfile : String) (arguments : TextMap)

/-- A container of a project. -/
structure Container where
  name : String
  source : ImageSource
  command : Option (List String) := none
  environment : TextMap := ∅
  workingDirectory : Option String := none
  /-- The containers that must run before this one starts. -/
  dependencies : NameSet := ∅

/-- What a task runs. -/
structure TaskRun where
  container : String
  /-- Replaces the command of the container. -/
  command : Option (List String) := none
  /-- Added to the environment of the container, and stronger. -/
  environment : TextMap := ∅

/-- A task of a project. -/
structure Task where
  name : String
  description : Option String := none
  group : Option String := none
  /-- Nothing for a task that only stands for its prerequisites. -/
  run : Option TaskRun := none
  /-- What the container of the task depends on, besides what it says itself. -/
  dependencies : NameSet := ∅
  /-- The tasks to run before, in order. -/
  prerequisites : List String := []

end Project

/-- A project: its name, its containers and its tasks by their names. -/
structure Project where
  name : String
  containers : Std.ExtTreeMap String Project.Container := ∅
  tasks : Std.ExtTreeMap String Project.Task := ∅

namespace Project

/-- The container with a name. -/
def container? (project : Project) (name : String) : Option Container :=
  project.containers[name]?

/-- The task with a name. -/
def task? (project : Project) (name : String) : Option Task :=
  project.tasks[name]?

end Project

end ContainerTasks
