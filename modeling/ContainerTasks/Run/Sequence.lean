import ContainerTasks.Graph.TaskOrder
import ContainerTasks.Run.TaskRun

/-! # Running a task with its prerequisites

The tasks run one after the other, each after its prerequisites, until one fails or
exits with a code other than zero. A run ends with the last exit code, or with the
error that ended it.
-/

namespace ContainerTasks.Run

namespace Setup

variable {σ : Type}

/-- The tasks to run, in order. -/
def order (setup : Setup σ) (task : String) : Except Graph.Error (List String) :=
  if setup.options.skipPrerequisites then
    if (setup.project.task? task).isNone then .error (.taskNotFound task) else .ok [task]
  else Graph.taskOrder setup.project task

/-- Runs tasks in order; `code` is the answer if none of them runs anything. -/
def runInOrder (setup : Setup σ) : List String → (code : Int) → Attempt σ Int
  | [], code => return code
  | name :: rest, code =>
    match setup.project.task? name with
    | none => throw (.graph (.taskNotFound name))
    | some task =>
      match task.run with
      | none => do
        perform (note .debug "Task only groups prerequisites; nothing to run" [("task", name)])
        setup.runInOrder rest code
      | some run => do
        let code ← setup.runTask task run
        if code = 0 then setup.runInOrder rest code
        else
          perform (note .info "Task failed; not running any further tasks."
            [("task", name), ("exit_code", toString code)])
          return code

/-- Runs a task after its prerequisites. -/
def runFrom (setup : Setup σ) (task : String) : Attempt σ Int :=
  match setup.order task with
  | .error error => throw (.graph error)
  | .ok order => do
    perform (note .info "Resolved task execution order."
      [("task", task), ("order", Journal.quoteList order)])
    setup.runInOrder order 0

/-- Runs a task after its prerequisites, from a state. -/
def run (setup : Setup σ) (task : String) (state : State σ) : Except Error Int × State σ :=
  Id.run ((setup.runFrom task).run.run state)

end Setup

end ContainerTasks.Run
