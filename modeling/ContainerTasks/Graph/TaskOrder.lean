import ContainerTasks.Graph.Error
import ContainerTasks.Graph.PostOrder

/-! # The order of tasks

A task runs after its prerequisites, which run after theirs. `taskOrder` lists all
of them in the declared order and the task itself last.
-/

namespace ContainerTasks.Graph

/-- The prerequisites of a task. -/
def prerequisites (project : Project) (task : String) : List String :=
  match project.task? task with
  | none => []
  | some task => task.prerequisites

/-- Adds a node that may be there already. -/
def ensureNode (dag : Dag) (node : String) : Except Error Dag :=
  if dag.contains node then .ok dag else (dag.addNode node).mapError .dag

/-- Adds the edge from a prerequisite to the task that needs it. -/
def addPrerequisite (dag : Dag) (prerequisite task : String) : Except Error Dag :=
  (dag.addEdge prerequisite task).mapError fun error =>
    match error with
    | .edgeCreatesCycle source target => .taskCycle source target
    | error => .dag error

/-- Adds the prerequisites of a task to the graph, and those of each prerequisite
that was not there. No chain of such tasks is longer than `fuel`. -/
def addPrerequisites (project : Project) : (fuel : Nat) → Dag → String → Except Error Dag
  | 0, dag, _ => .ok dag
  | fuel + 1, dag, task =>
    (prerequisites project task).foldlM
      (fun dag prerequisite =>
        if (project.task? prerequisite).isNone then .error (.unknownTask prerequisite task)
        else if dag.contains prerequisite then addPrerequisite dag prerequisite task
        else do
          let dag ← ensureNode dag prerequisite
          let dag ← addPrerequisite dag prerequisite task
          addPrerequisites project fuel dag prerequisite)
      dag

/-- The tasks to run for a task, in order. -/
def taskOrder (project : Project) (task : String) : Except Error (List String) :=
  if (project.task? task).isNone then .error (.taskNotFound task)
  else do
    let fuel := project.tasks.size + 1
    let dag ← ensureNode {} task
    let _ ← addPrerequisites project fuel dag task
    return PostOrder.orderFrom (prerequisites project) fuel task

end ContainerTasks.Graph
