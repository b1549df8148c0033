import ContainerTasks.Breakdown

/-! # Faults of a container engine -/

namespace ContainerTasks.Engine

/-- Why an engine could not do what it was asked for. -/
inductive Fault
  /-- The engine could not be reached. -/
  | connection (reason : String)
  | noSuchContainer (reason : String)
  | noSuchImage (reason : String)
  /-- The engine ran the build, and the build itself failed. -/
  | buildFailed (reason : String)
  /-- The directory to build from cannot be used. -/
  | buildContext (reason : String)
  | cancelled
  | unknown (reason : String)
  /-- The program broke down over the answer of the engine. -/
  | brokenDown (cause : Breakdown)
deriving DecidableEq, Repr

/-- The wording of a fault. -/
def Fault.message : Fault → String
  | connection reason => "could not connect to scheduler; " ++ reason
  | noSuchContainer reason => "container not found; " ++ reason
  | noSuchImage reason => "docker image not found; " ++ reason
  | buildFailed reason => "image build failed: " ++ reason
  | buildContext reason => "could not prepare build context; " ++ reason
  | cancelled => "operation was cancelled"
  | unknown reason => "unexpected scheduler error occurred; " ++ reason
  | brokenDown cause => cause.message

end ContainerTasks.Engine
