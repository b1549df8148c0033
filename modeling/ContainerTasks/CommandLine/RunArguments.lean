import ContainerTasks.CommandLine.Reading
import ContainerTasks.Run.Options

/-! # Arguments of a run

A run takes a task and options. The options are stronger than the settings, except
that an option can only forbid cleaning up, never ask for it.
-/

namespace ContainerTasks.CommandLine

/-- What a run is asked for. -/
structure RunArguments where
  task : String
  overrides : List Project.ImageOverride := []
  maxParallelism : Option UInt64 := none
  skipPrerequisites : Bool := false
  noCleanup : Bool := false
  noCleanupAfterFailure : Bool := false
  noCleanupAfterSuccess : Bool := false
deriving DecidableEq, Repr

namespace RunArguments

/-- The options of a run. -/
def switches : List Switch :=
  [
    { long := "override-image", purpose := .values .imageOverride "CONTAINER=IMAGE"
      about :=
        "Use a registry image for a container instead of its configured image, as " ++
          "<CONTAINER>=<IMAGE>. Can be given more than once" },
    { long := "max-parallelism", purpose := .value .count "N"
      about := "Maximum number of images to build or pull at the same time" },
    { long := "skip-prerequisites"
      about := "Run only the given task, not its prerequisites" },
    { long := "no-cleanup"
      about := "Leave containers in place after the task finishes" },
    { long := "no-cleanup-after-failure"
      about := "Leave containers in place if the task fails" },
    { long := "no-cleanup-after-success"
      about := "Leave containers in place if the task succeeds" }]

/-- The words of a run. -/
def grammar : Grammar where
  switches := switches ++ [.forHelp "Print help"]
  arguments := [{ name := "TASK", about := "Task to run" }]

/-- Refuses options that exclude each other. -/
def checkConflicts (found : Found) : Except Interruption Unit :=
  if found.has "no-cleanup" then
    match ["no-cleanup-after-failure", "no-cleanup-after-success"].find? found.has with
    | some other => .error (.usage (.conflict "no-cleanup" other))
    | none => .ok ()
  else .ok ()

/-- What was asked for. -/
def ofFound (found : Found) : Except Interruption RunArguments := do
  checkConflicts found
  let found ← found.complete grammar
  return {
    task := found.arguments.headD ""
    overrides := (found.values "override-image").filterMap fun text =>
      (Project.ImageOverride.parse text).toOption
    maxParallelism := (found.value? "max-parallelism").bind count?
    skipPrerequisites := found.has "skip-prerequisites"
    noCleanup := found.has "no-cleanup"
    noCleanupAfterFailure := found.has "no-cleanup-after-failure"
    noCleanupAfterSuccess := found.has "no-cleanup-after-success" }

/-- Reads the words of a run. -/
def parse (words : List String) : Except Interruption RunArguments := do
  let (reading, _) ← read grammar {} words
  ofFound (← reading.settle).found

/-- The options of a run, given those that the settings make. -/
def options (arguments : RunArguments) (defaults : Run.Options) : Run.Options where
  maxParallelism := arguments.maxParallelism.getD defaults.maxParallelism
  cleanupAfterSuccess := defaults.cleanupAfterSuccess &&
    !(arguments.noCleanup || arguments.noCleanupAfterSuccess)
  cleanupAfterFailure := defaults.cleanupAfterFailure &&
    !(arguments.noCleanup || arguments.noCleanupAfterFailure)
  skipPrerequisites := arguments.skipPrerequisites
  stopTimeout := defaults.stopTimeout

end RunArguments

end ContainerTasks.CommandLine
