import ContainerTasks.Proofs.Graph.StartOrder
import ContainerTasks.Proofs.Graph.TaskOrder
import ContainerTasks.Proofs.Run.Preparing
import ContainerTasks.Proofs.Run.Sequence

/-! # Tasks whose containers cannot be worked out

What containers a task needs is worked out when its turn comes, not before the run. A run
that comes to a task for which this fails ends there with the graph error, after everything
that the tasks before it did (`run_of_misconfigured`). So the error comes before any call to
the engine exactly if no task before it runs a container.
-/

namespace ContainerTasks.Run

variable {σ : Type}

namespace Setup

/-- To prepare the images of some containers is to make calls, if they can be prepared. -/
theorem prepare_calls (setup : Setup σ) (permitted : setup.Permitted)
    {containers : List Project.Container} (some : containers ≠ []) :
    trace.Records (setup.prepare containers).run fun _ marks => marks ≠ [] := by
  refine (setup.prepare_trace containers).mono ?_
  rintro _ marks prepares rfl
  cases prepares with
  | beyond beyond => exact beyond permitted
  | pooled _ turns => exact some (List.map_eq_nil_iff.mp (turns.waiting_eq_nil rfl))

/-- A task whose containers can be worked out makes calls. -/
theorem runTask_calls (setup : Setup σ) (keyed : setup.project.Keyed)
    (permitted : setup.Permitted) {task : Project.Task} {run : Project.TaskRun}
    {graph : ContainerGraph} (runs : task.run = some run)
    (made : ContainerGraph.ofTask setup.project task = .ok graph) :
    trace.Records (setup.runTask task run).run fun _ marks => marks ≠ [] := by
  have some : setup.containers graph.startOrder ≠ [] := by
    obtain ⟨root, known⟩ := ContainerGraph.root_eq_of_keyed keyed runs made
    obtain ⟨container, found⟩ := Option.isSome_iff_exists.mp known
    have listed := ((ContainerGraph.startOrder_leaves made).2 graph.root).mpr .refl
    exact List.ne_nil_of_mem (List.mem_filterMap.mpr ⟨_, listed, by rw [root, found]⟩)
  rw [runTask_of_ok setup made]
  have noted : Silent (σ := σ) (modify fun state =>
      { state with journal := state.journal ++ [graph.journalEntry] }) := fun _ => ⟨rfl, rfl⟩
  refine noted.lift_records fun _ => ?_
  refine (setup.prepare_calls permitted some).attempt ?_ fun _ _ called => called
  intro images prepared called
  have describe := setup.tracePhases_describe
  refine (startAndAttend_records describe _ _ _).lift fun ended working _ => ?_
  refine (cleanUp_records describe _ _ _).lift fun _ cleaned _ => .pure ?_
  exact List.append_ne_nil_of_left_ne_nil called _

/-- A task runs a container. -/
def Runs (setup : Setup σ) (name : String) : Prop :=
  ∃ task run, setup.project.task? name = some task ∧ task.run = some run

/-- A task runs a container, but what containers it needs cannot be worked out. -/
def Misconfigured (setup : Setup σ) (name : String) (error : Graph.Error) : Prop :=
  ∃ task run, setup.project.task? name = some task ∧ task.run = some run ∧
    ContainerGraph.ofTask setup.project task = .error error

/-- What is wrong with a task that runs a container is that there is no such container, or
that containers depend on each other. -/
theorem Misconfigured.kind {setup : Setup σ} {name : String} {error : Graph.Error}
    (misconfigured : setup.Misconfigured name error) :
    (∃ container referrer, error = .unknownContainer container referrer) ∨
      ∃ cycle, error = .dependencyCycle cycle := by
  obtain ⟨task, run, -, runs, failed⟩ := misconfigured
  have fault := ContainerGraph.ofTask_settles setup.project runs
  rw [failed] at fault
  cases fault with
  | main missing => exact Or.inl ⟨_, _, rfl⟩
  | dependency missing member => exact Or.inl ⟨_, _, rfl⟩
  | walk found fault =>
      cases fault with
      | cycle => exact Or.inr ⟨_, rfl⟩
      | unknown => exact Or.inl ⟨_, _, rfl⟩

/-- A run that comes to a misconfigured task ends there. -/
theorem runInOrder_of_misconfigured (setup : Setup σ) {name : String} {error : Graph.Error}
    (misconfigured : setup.Misconfigured name error) (rest : List String) (code : Int) :
    setup.runInOrder (name :: rest) code = throw (.graph error) := by
  obtain ⟨task, run, found, runs, failed⟩ := misconfigured
  rw [setup.runInOrder_of_runs found runs, runTask_of_error setup failed]
  rfl

/-- Tasks that run no container make no call, and leave the code as it is. -/
theorem runInOrder_of_idle (setup : Setup σ) {names : List String}
    (known : ∀ name ∈ names, (setup.project.task? name).isSome)
    (idle : ∀ name ∈ names, ¬ setup.Runs name) (code : Int) (before : State σ) :
    (outcome (setup.runInOrder names code).run before).1 = .ok code ∧
      (outcome (setup.runInOrder names code).run before).2.engine = before.engine ∧
      (outcome (setup.runInOrder names code).run before).2.trace = before.trace := by
  induction names generalizing before with
  | nil => exact ⟨rfl, rfl, rfl⟩
  | cons name rest ih =>
      obtain ⟨knownHere, known⟩ := List.forall_mem_cons.mp known
      obtain ⟨idleHere, idle⟩ := List.forall_mem_cons.mp idle
      obtain ⟨task, found⟩ := Option.isSome_iff_exists.mp knownHere
      have groups : task.run = none := by
        cases runs : task.run with
        | none => rfl
        | some run => exact (idleHere ⟨task, run, found, runs⟩).elim
      rw [setup.runInOrder_of_groups found groups]
      exact ih known idle _

/-- The tasks of an order exist. -/
theorem isSome_of_mem_order (setup : Setup σ) {task name : String} {order : List String}
    (made : setup.order task = .ok order) (member : name ∈ order) :
    (setup.project.task? name).isSome := by
  unfold Setup.order at made
  split at made
  · split at made
    · cases made
    · rename_i known
      cases made
      rw [List.mem_singleton.mp member, ← Option.not_isNone]
      exact eq_false_of_ne_true known ▸ rfl
  · exact Graph.isSome_of_mem_taskOrder made member

/-- Running tasks only adds to the trace. -/
theorem runInOrder_adds (setup : Setup σ) (names : List String) (code : Int) :
    trace.Records (setup.runInOrder names code).run fun _ _ => True :=
  runInOrder_records setup.tracePhases_describe trivial (fun _ _ _ _ => trivial)
    (fun _ _ _ _ _ => trivial) names code

/-- The first task that runs a container makes calls, unless it is misconfigured. -/
theorem runInOrder_calls (setup : Setup σ) (keyed : setup.project.Keyed)
    (permitted : setup.Permitted) {before : List String} (known : ∀ name ∈ before, (setup.project.task? name).isSome)
    (configured : ∀ name ∈ before, ∀ error, ¬ setup.Misconfigured name error)
    (runs : ∃ name ∈ before, setup.Runs name) (after : List String) (code : Int) :
    trace.Records (setup.runInOrder (before ++ after) code).run fun _ marks => marks ≠ [] := by
  induction before with
  | nil => simp at runs
  | cons name rest ih =>
      obtain ⟨knownHere, known⟩ := List.forall_mem_cons.mp known
      obtain ⟨configuredHere, configured⟩ := List.forall_mem_cons.mp configured
      obtain ⟨task, found⟩ := Option.isSome_iff_exists.mp knownHere
      rw [List.cons_append]
      cases does : task.run with
      | none =>
          rw [setup.runInOrder_of_groups found does]
          -- A task that runs nothing makes no call, so one that runs a container comes later.
          refine (note_silent _ _ _).lift_records fun _ => ih known configured ?_
          obtain ⟨other, member, otherRuns⟩ := runs
          rcases List.mem_cons.mp member with rfl | later
          · obtain ⟨_, run, otherFound, otherDoes⟩ := otherRuns
            cases Option.some.inj (found.symm.trans otherFound)
            cases does.symm.trans otherDoes
          · exact ⟨other, later, otherRuns⟩
      | some run =>
          rw [setup.runInOrder_of_runs found does]
          cases made : ContainerGraph.ofTask setup.project task with
          | error error => exact (configuredHere error ⟨task, run, found, does, made⟩).elim
          | ok graph =>
              refine (setup.runTask_calls keyed permitted does made).attempt ?_ fun _ _ called => called
              intro ended marks called
              split
              · exact (setup.runInOrder_adds _ ended).mono fun _ more _ =>
                  List.append_ne_nil_of_left_ne_nil called more
              · refine (note_silent _ _ _).lift_records fun _ => .pure ?_
                exact List.append_ne_nil_of_left_ne_nil called _

/-- A run makes calls if it comes to a task that runs a container and nothing before that
is misconfigured. -/
theorem run_calls (setup : Setup σ) (keyed : setup.project.Keyed)
    (permitted : setup.Permitted) {task : String} {before after : List String} (made : setup.order task = .ok (before ++ after))
    (configured : ∀ name ∈ before, ∀ error, ¬ setup.Misconfigured name error)
    (runs : ∃ name ∈ before, setup.Runs name) (start : State σ) :
    (setup.run task start).2.trace ≠ start.trace := by
  have known : ∀ name ∈ before, (setup.project.task? name).isSome := fun name member =>
    setup.isSome_of_mem_order made (List.mem_append_left _ member)
  obtain ⟨marks, grown, called⟩ :=
    setup.runInOrder_calls keyed permitted known configured runs after 0
      (resolved task (before ++ after) start)
  rw [setup.run_of_ok made]
  intro same
  exact called (List.append_right_eq_self.mp (grown.symm.trans same))

/-- A run stops at a misconfigured task, after what the tasks before it do. -/
theorem run_stops (setup : Setup σ) {task name : String} {before after : List String}
    {error : Graph.Error} (made : setup.order task = .ok (before ++ name :: after))
    (misconfigured : setup.Misconfigured name error) (start : State σ)
    {earlier : Except Error Int × State σ}
    (ended : outcome (setup.runInOrder before 0).run
      (resolved task (before ++ name :: after) start) = earlier) :
    setup.run task start =
      (if earlier.1 = .ok 0 then .error (.graph error) else earlier.1, earlier.2) := by
  rw [setup.run_of_ok made, runInOrder_append, outcome_bind, ended]
  obtain ⟨result, left⟩ := earlier
  cases result with
  | error failure => rfl
  | ok code =>
      by_cases success : code = 0
      · dsimp only
        rw [if_pos success, if_pos (by rw [success]),
          setup.runInOrder_of_misconfigured misconfigured]
        rfl
      · dsimp only
        rw [if_neg success, if_neg fun same => success (Except.ok.inj same)]
        rfl

/-- **Misconfigured tasks.** A run whose order holds a task that is misconfigured does what
the tasks before it do, and ends with the graph error if they all end with zero. If none of
them runs a container this comes before any call to the engine; if one does, and is not
misconfigured itself, it does not, provided that so many images may be prepared at a time. -/
theorem run_of_misconfigured (setup : Setup σ) {task name : String} {before after : List String}
    {error : Graph.Error} (made : setup.order task = .ok (before ++ name :: after))
    (misconfigured : setup.Misconfigured name error) (start : State σ) :
    let earlier := outcome (setup.runInOrder before 0).run
      (resolved task (before ++ name :: after) start)
    setup.run task start =
        (if earlier.1 = .ok 0 then .error (.graph error) else earlier.1, earlier.2) ∧
      ((∃ container referrer, error = .unknownContainer container referrer) ∨
        ∃ cycle, error = .dependencyCycle cycle) ∧
      ((∀ other ∈ before, ¬ setup.Runs other) →
        (setup.run task start).1 = .error (.graph error) ∧
          (setup.run task start).2.engine = start.engine ∧
          (setup.run task start).2.trace = start.trace) ∧
      (setup.project.Keyed → setup.Permitted →
        (∀ other ∈ before, ∀ error, ¬ setup.Misconfigured other error) →
        (∃ other ∈ before, setup.Runs other) → (setup.run task start).2.trace ≠ start.trace) := by
  intro earlier
  have ends := setup.run_stops made misconfigured start rfl
  refine ⟨ends, misconfigured.kind, fun idle => ?_, fun keyed permitted configured runs => ?_⟩
  · have known : ∀ other ∈ before, (setup.project.task? other).isSome := fun other member =>
      setup.isSome_of_mem_order made (List.mem_append_left _ member)
    obtain ⟨code, engine, trace⟩ := setup.runInOrder_of_idle known idle 0
      (resolved task (before ++ name :: after) start)
    rw [ends, if_pos code]
    exact ⟨rfl, engine, trace⟩
  · exact setup.run_calls keyed permitted made configured runs start

end Setup

/-- An engine on which everything succeeds. -/
def ready : Engine Unit where
  pull image state := { value := { finish := fun state => { value := .ok image, state } }, state }
  build request _ state :=
    { value := { finish := fun state => { value := .ok request.tag, state } }, state }
  start request state := { value := .ok request.name, state }
  logs _ state := { value := [], state }
  wait _ state := { value := .ok 0, state }
  stop _ _ state := { value := .ok (), state }
  remove _ state := { value := .ok (), state }

/-- A task that runs a container which exists. -/
def prepare : Project.Task where
  name := "prepare"
  run := some { container := "box" }

/-- A task that depends on a container which does not. -/
def serve : Project.Task where
  name := "serve"
  run := some { container := "box" }
  dependencies := .ofList ["store"]
  prerequisites := ["prepare"]

/-- A project in which the one task comes after the other. -/
def shop : Setup Unit where
  engine := ready
  project :=
    { name := "shop", containers := .ofList [ContainerGraph.box "box" []]
      tasks := .ofList [("prepare", prepare), ("serve", serve)] }

theorem shop_order : shop.order "serve" = .ok (["prepare"] ++ ["serve"]) := by
  obtain ⟨inside, acyclic⟩ :=
    @Graph.acyclicFrom_of_listed (Graph.prerequisites shop.project) ["serve", "prepare"]
      (by decide +kernel) "serve" (by decide)
  have exist : ∀ name ∈ ["serve", "prepare"], (shop.project.task? name).isSome := by
    decide +kernel
  have made := Graph.taskOrder_eq (exist "serve" (by decide))
    (fun name path => exist name (inside name path)) acyclic
  have listed : Graph.PostOrder.orderFrom (Graph.prerequisites shop.project)
      (shop.project.tasks.size + 1) "serve" = ["prepare", "serve"] := by decide +kernel
  rw [listed] at made
  exact made

theorem serve_misconfigured :
    shop.Misconfigured "serve" (.unknownContainer "store" (.task "serve")) :=
  ⟨serve, _, rfl, rfl, rfl⟩

theorem prepare_configured (error : Graph.Error) : ¬ shop.Misconfigured "prepare" error := by
  rintro ⟨task, run, found, -, failed⟩
  obtain rfl : prepare = task := Option.some.inj found
  have made : (ContainerGraph.ofTask shop.project prepare).isOk = true := by decide +kernel
  rw [failed] at made
  cases made

theorem run_of_misconfigured_shop :
    shop.order "serve" = .ok (["prepare"] ++ ["serve"]) ∧
      shop.Misconfigured "serve" (.unknownContainer "store" (.task "serve")) ∧
      (shop.run "serve" { engine := () }).2.trace ≠ [] := by
  refine ⟨shop_order, serve_misconfigured, ?_⟩
  obtain ⟨-, -, -, calls⟩ :=
    shop.run_of_misconfigured shop_order serve_misconfigured { engine := () }
  refine calls (by decide +kernel) (by decide +kernel) ?_ ?_
  · intro other member error
    rw [List.mem_singleton.mp member]
    exact prepare_configured error
  · exact ⟨"prepare", List.mem_singleton_self _, prepare, _, rfl, rfl⟩

/-- A misconfigured task does not keep a run from making calls. -/
theorem calls_before_misconfigured :
    ¬ ∀ (setup : Setup Unit) (task : String) (order : List String) (name : String)
      (error : Graph.Error) (start : State Unit),
      setup.order task = .ok order → name ∈ order → setup.Misconfigured name error →
      (∃ reason, (setup.run task start).1 = .error (.graph reason)) ∧
        (setup.run task start).2.trace = start.trace := by
  intro early
  obtain ⟨-, uncalled⟩ := early shop "serve" (["prepare"] ++ ["serve"]) "serve" _
    { engine := () } shop_order (by decide) serve_misconfigured
  refine shop.run_calls (by decide +kernel) (by decide +kernel) shop_order ?_ ?_ _ uncalled
  · intro other member error
    rw [List.mem_singleton.mp member]
    exact prepare_configured error
  · exact ⟨"prepare", List.mem_singleton_self _, prepare, _, rfl, rfl⟩

end ContainerTasks.Run
