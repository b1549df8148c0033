/-! # What can be wrong with a project -/

namespace ContainerTasks.Project

/-- Why a container is not acceptable. -/
inductive ContainerFault
  | emptyName
  | buildSettingsWithImage
  | imageAndDirectory
  | noSource
  | emptyDependency
  | command (reason : String)
deriving DecidableEq, Repr

/-- Why a task is not acceptable. -/
inductive TaskFault
  | emptyName
  | emptyContainer
  | command (reason : String)
  | nothingToDo
  | emptyDependency
  | emptyPrerequisite
deriving DecidableEq, Repr

/-- The wording of a fault. -/
def ContainerFault.message : ContainerFault → String
  | emptyName => "container names cannot be empty"
  | buildSettingsWithImage => "dockerfile and build_args can only be used with build_directory"
  | imageAndDirectory => "only one of image or build_directory can be given"
  | noSource => "one of image or build_directory is required"
  | emptyDependency => "dependency names cannot be empty"
  | command reason => reason

/-- The wording of a fault. -/
def TaskFault.message : TaskFault → String
  | emptyName => "task names cannot be empty"
  | emptyContainer => "run.container cannot be empty"
  | command reason => reason
  | nothingToDo => "a task must either run a container or have prerequisites"
  | emptyDependency => "dependency names cannot be empty"
  | emptyPrerequisite => "prerequisite names cannot be empty"

/-- Why a project cannot be had, or not with the images asked for. -/
inductive Error
  | fileNotFound (path : String)
  /-- The file does not have the form of a project. -/
  | unreadable
  | emptyProjectName
  | container (name : String) (fault : ContainerFault)
  | task (name : String) (fault : TaskFault)
  | overrideForm (text : String)
  | overrideContainer (name : String)
deriving DecidableEq, Repr

/-- The wording of an error. What a file does not hold is not worded further. -/
def Error.message : Error → String
  | fileNotFound path => "configuration file '" ++ path ++ "' does not exist"
  | unreadable => "could not parse config; the file is not a project"
  | emptyProjectName => "could not parse config; project_name cannot be empty"
  | container name fault => "invalid container '" ++ name ++ "'; " ++ fault.message
  | task name fault => "invalid task '" ++ name ++ "'; " ++ fault.message
  | overrideForm text =>
    "invalid image override '" ++ text ++ "'; expected format is <container>=<image>"
  | overrideContainer name =>
    "cannot override the image for container '" ++ name ++
      "'; no container with that name exists"

end ContainerTasks.Project
