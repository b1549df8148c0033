import ContainerTasks.Graph.Dag

/-! # Errors of dependency graphs -/

namespace ContainerTasks.Graph

/-- What refers to a container. -/
inductive Referrer
  | task (name : String)
  | container (name : String)
deriving DecidableEq, Repr

/-- The wording of a referrer. -/
def Referrer.message : Referrer → String
  | task name => "task '" ++ name ++ "'"
  | container name => "container '" ++ name ++ "'"

/-- Why the containers of a task or the order of tasks cannot be worked out. -/
inductive Error
  | unknownContainer (container : String) (referrer : Referrer)
  /-- The names along a cycle, the first one again at the end. -/
  | dependencyCycle (cycle : List String)
  | taskNotFound (task : String)
  | unknownTask (task referrer : String)
  | taskCycle (source target : String)
  | noMainContainer (task : String)
  | dag (error : DagError)
deriving DecidableEq, Repr

/-- The wording of an error. -/
def Error.message : Error → String
  | unknownContainer container referrer =>
    "container '" ++ container ++ "' referenced by " ++ referrer.message ++ " does not exist"
  | dependencyCycle cycle =>
    "containers have a dependency cycle: " ++ String.intercalate " -> " cycle
  | taskNotFound task => "task '" ++ task ++ "' does not exist"
  | unknownTask task referrer =>
    "task '" ++ task ++ "' is listed as a prerequisite of task '" ++ referrer ++
      "' but does not exist"
  | taskCycle source target =>
    "a cycle was detected creating a dependency from task '" ++ source ++ "' to task '" ++
      target ++ "'"
  | noMainContainer task => "task '" ++ task ++ "' does not run a container"
  | dag error => "could not build the dependency graph; " ++ error.message

end ContainerTasks.Graph
