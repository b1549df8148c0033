/-! # Options of a run -/

namespace ContainerTasks.Run

/-- How a task is run. -/
structure Options where
  /-- How many images may be prepared at the same time; at least one always may. -/
  maxParallelism : UInt64 := 4
  cleanupAfterSuccess : Bool := true
  cleanupAfterFailure : Bool := true
  /-- Runs the task alone, without its prerequisites. -/
  skipPrerequisites : Bool := false
  /-- The seconds a container has to stop before it is killed. -/
  stopTimeout : Int := 10
deriving DecidableEq, Repr

end ContainerTasks.Run
