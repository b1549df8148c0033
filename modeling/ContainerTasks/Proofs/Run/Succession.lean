import ContainerTasks.Proofs.Run.Misconfiguration

/-! # What a run executes

A run executes the tasks of its order that run a container one after the other, each from
where the one before it ended, and stops after the first that does not end with zero
(`Succession`). A task that ends with a code has had all its calls answered, so none of them
is still open when the next one begins.
-/

namespace ContainerTasks.Run

variable {σ : Type}

/-- Two states differ in their journals at most. -/
structure State.Alike (first second : State σ) : Prop where
  engine : first.engine = second.engine
  cancelled : first.cancelled = second.cancelled
  trace : first.trace = second.trace
  output : first.output = second.output

theorem State.Alike.refl (state : State σ) : state.Alike state :=
  ⟨rfl, rfl, rfl, rfl⟩

theorem State.Alike.trans {first second third : State σ} (alike : first.Alike second)
    (next : second.Alike third) : first.Alike third :=
  ⟨alike.engine.trans next.engine, alike.cancelled.trans next.cancelled,
    alike.trace.trans next.trace, alike.output.trans next.output⟩

theorem note_alike (level : Journal.Level) (message : String) (fields : List (String × String))
    (state : State σ) : state.Alike (outcome (note level message fields) state).2 :=
  ⟨rfl, rfl, rfl, rfl⟩

/-- A task that is run from some state, and what it leaves in the trace. -/
structure Execution (σ : Type) where
  task : Project.Task
  run : Project.TaskRun
  before : State σ
  marks : List Mark

namespace Setup

section Answers

/-- Where one call follows on the other each is answered before the next is made. -/
theorem Starting.answered_eq {requests : List Engine.StartRequest}
    {ended : List String × Except Error Unit} {marks : List Mark}
    (starting : Starting requests ended marks) : answered marks = made marks := by
  induction starting with
  | done => rfl
  | failed => rfl
  | next later ih => rw [answered_append, made_append, ih]; rfl

theorem Attending.answered_eq {name : String} {result : Except Error Int} {marks : List Mark}
    (attending : Attending name result marks) : answered marks = made marks := by
  cases attending <;> rfl

theorem discardAll_answered (setup : Setup σ) (names : List String) :
    trace.Records (setup.discardAll names) fun _ marks => answered marks = made marks := by
  induction names with
  | nil => exact .pure rfl
  | cons name rest ih =>
      have calls : ∀ (call : Call) (question : σ → Engine.Reply σ (Except Engine.Fault Unit)),
          trace.Records (Run.call call question) fun _ marks => answered marks = made marks := by
        refine fun call question => (call_trace call question).mono ?_
        rintro answer _ ⟨cancelled, rfl⟩
        rfl
      have first : trace.Records (setup.discard name) fun _ marks => answered marks = made marks :=
        setup.discard_records name (calls _ _) (calls _ _) fun marks more stopped removed => by
          rw [answered_append, made_append, stopped, removed]
      refine first.bind fun _ marks same => ih.mono fun _ more later => ?_
      rw [answered_append, made_append, same, later]

/-- What the phases of a task leave unanswered: nothing, unless an image cannot be prepared. -/
def answeredPhases : Phases Mark where
  prepare _ result marks := ∀ images, result = .ok images → (answered marks).Perm (made marks)
  start _ _ marks := answered marks = made marks
  attend _ _ marks := answered marks = made marks
  discard _ marks := answered marks = made marks

theorem answeredPhases_describe (setup : Setup σ) : answeredPhases.Describe trace setup where
  prepare containers := by
    refine (setup.prepare_trace containers).mono ?_
    rintro _ marks prepares images rfl
    obtain ⟨named, -, turns⟩ := prepares.of_ok
    obtain ⟨begun, order, all, -, -, answers⟩ := turns.all
    rw [answers, begun]
    exact all.map Need.call
  start requests := (setup.startAll_trace requests).mono fun _ _ starting => starting.answered_eq
  attend task name := (setup.attend_trace task name).mono fun _ _ attending => attending.answered_eq
  discard := setup.discardAll_answered

/-- A task that ends with a code has had all its calls answered. -/
theorem runTask_answered (setup : Setup σ) (task : Project.Task) (run : Project.TaskRun) :
    trace.Records (setup.runTask task run).run fun result marks =>
      ∀ code, result = .ok code → (answered marks).Perm (made marks) := by
  refine (runTask_records setup.answeredPhases_describe task run).mono ?_
  rintro result marks course code rfl
  cases course with
  | @worked graph images started _ prepared working cleaned graphMade prepare work clean =>
      have worked : answered working = made working := by
        cases work with
        | attended start attend =>
            rw [answered_append, made_append, show answered _ = made _ from start,
              show answered _ = made _ from attend]
      have discarded : answered cleaned = made cleaned := by
        split at clean
        · exact clean
        · rw [clean]
          rfl
      rw [answered_append, answered_append, made_append, made_append, worked, discarded]
      exact (prepare images rfl).append_right _

end Answers

/-- What a task that is executed ends with, and the state that it leaves. -/
def executed (setup : Setup σ) (execution : Execution σ) : Except Error Int × State σ :=
  outcome (setup.runTask execution.task execution.run).run execution.before

/-- The tasks of an order that run a container. -/
def running (setup : Setup σ) (order : List String) : List (Project.Task × Project.TaskRun) :=
  order.filterMap fun name => (setup.project.task? name).bind fun task => task.run.map (task, ·)

theorem running_of_groups (setup : Setup σ) {name : String} {task : Project.Task}
    (found : setup.project.task? name = some task) (groups : task.run = none)
    (rest : List String) : setup.running (name :: rest) = setup.running rest :=
  List.filterMap_cons_none (by rw [found, Option.bind_some, groups, Option.map_none])

theorem running_of_runs (setup : Setup σ) {name : String} {task : Project.Task}
    {run : Project.TaskRun} (found : setup.project.task? name = some task)
    (runs : task.run = some run) (rest : List String) :
    setup.running (name :: rest) = (task, run) :: setup.running rest :=
  List.filterMap_cons_some (by rw [found, Option.bind_some, runs, Option.map_some])

/-- Tasks are executed one after the other, each from where the one before it ended. -/
inductive Executing (setup : Setup σ) : State σ → List (Execution σ) → State σ → Prop
  | done {start last : State σ} (alike : start.Alike last) : Executing setup start [] last
  | next {start last : State σ} {execution : Execution σ} {rest : List (Execution σ)}
      (alike : start.Alike execution.before)
      (marks : (setup.executed execution).2.trace = execution.before.trace ++ execution.marks)
      (answers : ∀ code, (setup.executed execution).1 = .ok code →
        (answered execution.marks).Perm (made execution.marks))
      (later : Executing setup (setup.executed execution).2 rest last) :
      Executing setup start (execution :: rest) last

namespace Executing

variable {setup : Setup σ} {start last : State σ} {executions : List (Execution σ)}

theorem of_alike {middle : State σ} (alike : start.Alike middle)
    (executing : Executing setup middle executions last) :
    Executing setup start executions last := by
  cases executing with
  | done same => exact .done (alike.trans same)
  | next same marks answers later => exact .next (alike.trans same) marks answers later

/-- All that is added to the trace is what the tasks leave in it. -/
theorem trace_eq (executing : Executing setup start executions last) :
    last.trace = start.trace ++ executions.flatMap (·.marks) := by
  induction executing with
  | done alike => rw [alike.trace, List.flatMap_nil, List.append_nil]
  | next alike marks answers later ih =>
      rw [ih, marks, alike.trace, List.flatMap_cons, List.append_assoc]

end Executing

/-- The tasks of an order are executed in turn, and no further one after one that does not
end with zero. The run ends as the last of them does. -/
structure Succession (setup : Setup σ) (order : List String) (start : State σ)
    (executions : List (Execution σ)) (result : Except Error Int) (last : State σ) : Prop where
  executing : Executing setup start executions last
  tasks : executions.map (fun execution => (execution.task, execution.run)) <+: setup.running order
  earlier : ∀ execution ∈ executions.dropLast, (setup.executed execution).1 = .ok 0
  stops : executions.length < (setup.running order).length →
    ∃ execution ∈ executions.getLast?, (setup.executed execution).1 ≠ .ok 0
  ends : result = (executions.getLast?.map fun execution => (setup.executed execution).1).getD (.ok 0)

namespace Succession

variable {setup : Setup σ} {name : String} {rest : List String} {start last : State σ}
  {executions : List (Execution σ)} {result : Except Error Int}

theorem skip {middle : State σ} (alike : start.Alike middle)
    (same : setup.running (name :: rest) = setup.running rest)
    (later : Succession setup rest middle executions result last) :
    Succession setup (name :: rest) start executions result last where
  executing := later.executing.of_alike alike
  tasks := same ▸ later.tasks
  earlier := later.earlier
  stops := same ▸ later.stops
  ends := later.ends

section

variable (execution : Execution σ)
  (listed : setup.running (name :: rest) = (execution.task, execution.run) :: setup.running rest)
  (marks : (setup.executed execution).2.trace = execution.before.trace ++ execution.marks)
  (answers : ∀ code, (setup.executed execution).1 = .ok code →
    (answered execution.marks).Perm (made execution.marks))

include listed marks answers

theorem stop (failed : (setup.executed execution).1 ≠ .ok 0)
    (alike : (setup.executed execution).2.Alike last) :
    Succession setup (name :: rest) execution.before [execution] (setup.executed execution).1
      last where
  executing := .next (.refl _) marks answers (.done alike)
  tasks := listed ▸ (List.prefix_cons_inj _).mpr List.nil_prefix
  earlier := by simp
  stops _ := ⟨execution, rfl, failed⟩
  ends := rfl

theorem next (success : (setup.executed execution).1 = .ok 0)
    (later : Succession setup rest (setup.executed execution).2 executions result last) :
    Succession setup (name :: rest) execution.before (execution :: executions) result last where
  executing := .next (.refl _) marks answers later.executing
  tasks := listed ▸ (List.prefix_cons_inj _).mpr later.tasks
  earlier := by
    cases executions with
    | nil => simp
    | cons first more => exact List.forall_mem_cons.mpr ⟨success, later.earlier⟩
  stops fewer := by
    rw [listed, List.length_cons, List.length_cons] at fewer
    obtain ⟨final, isLast, failed⟩ := later.stops (Nat.lt_of_succ_lt_succ fewer)
    refine ⟨final, ?_, failed⟩
    cases executions with
    | nil => cases isLast
    | cons first more => exact isLast
  ends := by
    rw [later.ends]
    cases executions with
    | nil => exact success.symm
    | cons first more => rfl

end

theorem all_zero (succession : Succession setup rest start executions (.ok 0) last) :
    ∀ execution ∈ executions, (setup.executed execution).1 = .ok 0 := by
  cases split : executions.getLast? with
  | none =>
      rw [List.getLast?_eq_none_iff] at split
      simp [split]
  | some final =>
      obtain ⟨front, rfl⟩ := List.getLast?_eq_some_iff.mp split
      have earlier := succession.earlier
      have ends := succession.ends
      rw [List.dropLast_concat] at earlier
      rw [List.getLast?_concat] at ends
      exact List.forall_mem_append.mpr ⟨earlier, List.forall_mem_singleton.mpr ends.symm⟩

/-- A run ends with zero just if it executes all tasks and each ends with zero. -/
theorem zero_iff (succession : Succession setup rest start executions result last) :
    result = .ok 0 ↔
      executions.map (fun execution => (execution.task, execution.run)) = setup.running rest ∧
        ∀ execution ∈ executions, (setup.executed execution).1 = .ok 0 := by
  constructor
  · rintro rfl
    refine ⟨?_, succession.all_zero⟩
    refine succession.tasks.eq_of_length_le (Nat.le_of_not_lt fun fewer => ?_)
    rw [List.length_map] at fewer
    obtain ⟨final, isLast, failed⟩ := succession.stops fewer
    exact failed (succession.all_zero _ (List.mem_of_getLast? isLast))
  · rintro ⟨-, zero⟩
    rw [succession.ends]
    cases split : executions.getLast? with
    | none => rfl
    | some final => exact zero final (List.mem_of_getLast? split)

/-- Other than with zero a run ends with what the last task ends with. -/
theorem ends_iff (succession : Succession setup rest start executions result last)
    {other : Except Error Int} (nonzero : other ≠ .ok 0) :
    result = other ↔ ∃ final ∈ executions.getLast?, (setup.executed final).1 = other := by
  rw [succession.ends]
  cases executions.getLast? with
  | none => exact ⟨fun same => (nonzero same.symm).elim, fun ⟨_, absent, _⟩ => nomatch absent⟩
  | some final =>
      constructor
      · exact fun same => ⟨final, rfl, same⟩
      · rintro ⟨_, ⟨⟩, same⟩
        exact same

end Succession

/-- Running known tasks in order executes them in turn. -/
theorem runInOrder_succession (setup : Setup σ) {names : List String}
    (known : ∀ name ∈ names, (setup.project.task? name).isSome) (start : State σ) :
    ∃ executions, Succession setup names start executions
      (outcome (setup.runInOrder names 0).run start).1
      (outcome (setup.runInOrder names 0).run start).2 := by
  induction names generalizing start with
  | nil => exact ⟨[], .done (.refl start), List.nil_prefix, by simp, by simp [running], rfl⟩
  | cons name rest ih =>
      obtain ⟨knownHere, known⟩ := List.forall_mem_cons.mp known
      obtain ⟨task, found⟩ := Option.isSome_iff_exists.mp knownHere
      cases does : task.run with
      | none =>
          rw [setup.runInOrder_of_groups found does]
          obtain ⟨executions, later⟩ := ih known _
          exact ⟨executions, later.skip (note_alike _ _ _ start)
            (setup.running_of_groups found does rest)⟩
      | some run =>
          rw [setup.runInOrder_of_runs found does, outcome_bind]
          obtain ⟨marks, grown, answers⟩ := setup.runTask_answered task run start
          let execution : Execution σ := { task, run, before := start, marks }
          have listed := setup.running_of_runs found does rest
          have same : outcome (setup.runTask task run).run start = setup.executed execution := rfl
          rw [same] at grown answers ⊢
          -- Only after a task that ends with zero does the rest of the order count.
          cases ended : (setup.executed execution).1 with
          | error error =>
              have failed : (setup.executed execution).1 ≠ .ok 0 := by simp [ended]
              have stop := Succession.stop execution listed grown answers failed (.refl _)
              rw [ended] at stop
              exact ⟨[execution], stop⟩
          | ok code =>
              dsimp only
              by_cases success : code = 0
              · subst success
                rw [if_pos rfl]
                obtain ⟨executions, later⟩ := ih known (setup.executed execution).2
                exact ⟨execution :: executions,
                  .next execution listed grown answers ended later⟩
              · rw [if_neg success]
                have failed : (setup.executed execution).1 ≠ .ok 0 := by simpa [ended] using success
                have stop := Succession.stop execution listed grown answers failed
                  (note_alike .info "Task failed; not running any further tasks."
                    [("task", name), ("exit_code", toString code)] _)
                rw [ended] at stop
                exact ⟨[execution], stop⟩

/-- **What a run executes.** A run whose tasks cannot be put in order does nothing. Otherwise
it executes the tasks of the order that run a container one after the other, and none after
the first that does not end with zero. All that it leaves in the trace is what they do, each
after the one before it, and nothing of a task that ends with a code stays unanswered. It ends
with zero just if all of them are executed and end with zero, and else as the last one does. -/
theorem run_executes (setup : Setup σ) (task : String) (start : State σ) :
    (∀ error, setup.order task = .error error →
      setup.run task start = (.error (.graph error), start)) ∧
    ∀ order, setup.order task = .ok order →
      ∃ executions, Succession setup order start executions (setup.run task start).1
          (setup.run task start).2 ∧
        (setup.run task start).2.trace = start.trace ++ executions.flatMap (·.marks) ∧
        ((setup.run task start).1 = .ok 0 ↔
          executions.map (fun execution => (execution.task, execution.run)) = setup.running order ∧
            ∀ execution ∈ executions, (setup.executed execution).1 = .ok 0) ∧
        ∀ other, other ≠ .ok 0 → ((setup.run task start).1 = other ↔
          ∃ final ∈ executions.getLast?, (setup.executed final).1 = other) := by
  refine ⟨fun error failed => setup.run_of_error failed start, fun order made => ?_⟩
  have known : ∀ name ∈ order, (setup.project.task? name).isSome := fun name =>
    setup.isSome_of_mem_order made
  obtain ⟨executions, succession⟩ :=
    setup.runInOrder_succession known (resolved task order start)
  rw [← setup.run_of_ok made] at succession
  have alike : start.Alike (resolved task order start) := note_alike _ _ _ start
  refine ⟨executions, { succession with executing := succession.executing.of_alike alike }, ?_,
    succession.zero_iff, fun other => succession.ends_iff⟩
  rw [succession.executing.trace_eq, alike.trace]

end Setup

end ContainerTasks.Run
