import ContainerTasks.Proofs.Run.Phases
import ContainerTasks.Run.Sequence

/-! # Tasks one after the other

A run goes through the tasks of an order until one of them does not end with zero, so an
order in two parts is gone through part by part (`runInOrder_append`). What holds of the
items that each task adds, and of those of two parts together if it does of each, holds of
the items of a whole run (`run_records`).
-/

namespace ContainerTasks.Run.Setup

variable {σ ε : Type}

theorem runInOrder_append (setup : Setup σ) (before after : List String) :
    setup.runInOrder (before ++ after) 0 = (do
      let code ← setup.runInOrder before 0
      if code = 0 then setup.runInOrder after 0 else return code) := by
  induction before with
  | nil => rfl
  | cons name rest ih =>
      rw [List.cons_append, runInOrder, runInOrder]
      cases setup.project.task? name with
      | none => rfl
      | some task =>
          dsimp only
          cases task.run with
          | none =>
              dsimp only
              rw [ih, bind_assoc]
          | some run =>
              dsimp only
              rw [bind_assoc]
              refine bind_congr fun code => ?_
              by_cases success : code = 0
              · rw [if_pos success, if_pos success, success, ih]
              · rw [if_neg success, if_neg success, bind_assoc]
                refine bind_congr fun _ => ?_
                rw [pure_bind, if_neg success]

theorem runInOrder_of_groups (setup : Setup σ) {name : String} {task : Project.Task}
    (found : setup.project.task? name = some task) (groups : task.run = none) (rest : List String)
    (code : Int) :
    setup.runInOrder (name :: rest) code = (do
      perform (note .debug "Task only groups prerequisites; nothing to run" [("task", name)])
      setup.runInOrder rest code) := by
  rw [runInOrder, found]
  dsimp only
  rw [groups]

theorem runInOrder_of_runs (setup : Setup σ) {name : String} {task : Project.Task}
    {run : Project.TaskRun} (found : setup.project.task? name = some task)
    (runs : task.run = some run) (rest : List String) (code : Int) :
    setup.runInOrder (name :: rest) code = (do
      let code ← setup.runTask task run
      if code = 0 then setup.runInOrder rest code
      else
        perform (note .info "Task failed; not running any further tasks."
          [("task", name), ("exit_code", toString code)])
        return code) := by
  rw [runInOrder, found]
  dsimp only
  rw [runs]

/-- The state of a run when its tasks have been put in order. -/
def resolved (task : String) (order : List String) (start : State σ) : State σ :=
  (outcome (note .info "Resolved task execution order."
    [("task", task), ("order", Journal.quoteList order)]) start).2

theorem run_of_error (setup : Setup σ) {task : String} {error : Graph.Error}
    (failed : setup.order task = .error error) (start : State σ) :
    setup.run task start = (.error (.graph error), start) := by
  rw [run, runFrom, failed]
  rfl

theorem run_of_ok (setup : Setup σ) {task : String} {order : List String}
    (made : setup.order task = .ok order) (start : State σ) :
    setup.run task start = outcome (setup.runInOrder order 0).run (resolved task order start) := by
  rw [run, runFrom, made]
  rfl

section

variable {history : CallHistory σ ε} {phases : Phases ε} {setup : Setup σ}

/-- What holds of every task, and of two parts together if it does of each, holds of tasks
one after the other. -/
theorem runInOrder_records (describe : phases.Describe history setup) {holds : List ε → Prop}
    (nothing : holds []) (together : ∀ items more, holds items → holds more → holds (items ++ more))
    (tasks : ∀ task run result items, phases.Course setup task run result items → holds items)
    (names : List String) (code : Int) :
    history.Records (setup.runInOrder names code).run fun _ items => holds items := by
  induction names generalizing code with
  | nil => exact .pure nothing
  | cons name rest ih =>
      rw [runInOrder]
      cases setup.project.task? name with
      | none => exact .throw nothing
      | some task =>
          dsimp only
          cases task.run with
          | none => exact (note_silent _ _ _).lift_records fun _ => ih code
          | some run =>
              refine (runTask_records describe task run).attempt ?_ ?_
              · intro ended items course
                have first := tasks task run _ items course
                split
                · exact (ih ended).mono fun _ more later => together items more first later
                · refine (note_silent _ _ _).lift_records fun _ => .pure ?_
                  rwa [List.append_nil]
              · exact fun error items course => tasks task run _ items course

/-- **What holds of every task holds of a run.** -/
theorem run_records (describe : phases.Describe history setup) {holds : List ε → Prop}
    (nothing : holds []) (together : ∀ items more, holds items → holds more → holds (items ++ more))
    (tasks : ∀ task run result items, phases.Course setup task run result items → holds items)
    (task : String) (start : State σ) :
    ∃ items, history.Adds start items (setup.run task start).2 ∧ holds items := by
  cases made : setup.order task with
  | error error =>
      rw [setup.run_of_error made]
      exact ⟨[], history.refl start, nothing⟩
  | ok order =>
      rw [setup.run_of_ok made]
      obtain ⟨items, adds, holding⟩ :=
        runInOrder_records describe nothing together tasks order 0 (resolved task order start)
      have quiet : history.Adds start [] (resolved task order start) := history.idle rfl rfl
      exact ⟨items, history.append quiet adds, holding⟩

end

end ContainerTasks.Run.Setup
