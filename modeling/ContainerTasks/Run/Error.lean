import ContainerTasks.Engine.Fault
import ContainerTasks.Graph.Error

/-! # Errors of a run -/

namespace ContainerTasks.Run

/-- Why a run ended before its time. -/
inductive Error
  /-- The containers of a task or the order of tasks could not be worked out. -/
  | graph (error : Graph.Error)
  | imagePreparation (container : String) (fault : Engine.Fault)
  | container (name : String) (fault : Engine.Fault)
  | cancelled
  /-- The output could not be written. -/
  | output (reason : String)
  /-- The program broke down. -/
  | brokenDown (cause : Breakdown)
deriving DecidableEq, Repr

namespace Error

/-- The wording of an error. -/
def message : Error → String
  | .graph error => error.message
  | .imagePreparation name fault =>
    "could not prepare image for container '" ++ name ++ "'; " ++ fault.message
  | .container name fault => "could not run container '" ++ name ++ "'; " ++ fault.message
  | .cancelled => "task execution was cancelled"
  | .output reason => "could not write task output; " ++ reason
  | .brokenDown cause => cause.message

end Error

end ContainerTasks.Run
