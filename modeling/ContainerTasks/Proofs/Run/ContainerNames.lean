import ContainerTasks.Proofs.Project.Acceptance
import ContainerTasks.Proofs.Run.Succession
import ContainerTasks.Proofs.Run.TaskTrace

/-! # The names that containers start under

The name that a container starts under joins the names of its project, its task and itself by
hyphens, which these may contain too. The containers of one task have different names, and no
task is run twice. But a container of one task has the name of a container of another where
the name of the other task goes on as the name of the container begins (`Overlaps`), and only
there (`run_names`).
-/

namespace ContainerTasks.Run

variable {σ : Type}

/-- A container of a task, by their names. -/
structure Member where
  task : String
  container : String
deriving DecidableEq

/-- The name of the other task goes on with a hyphen and what the name of the container
begins with, and what is left of the latter is the name of the other container. -/
def Member.Overlaps (first second : Member) : Prop :=
  ∃ middle, second.task = first.task ++ "-" ++ middle ∧
    first.container = middle ++ "-" ++ second.container

/-- Texts that are joined by a separator are the same in both parts, or one of the first
parts goes on as the other second part begins. -/
theorem append_cons_eq_append_cons_iff {α : Type} {separator : α} {first second : List α}
    {back other : List α} :
    first ++ separator :: back = second ++ separator :: other ↔
      (first = second ∧ back = other) ∨
        (∃ middle, second = first ++ separator :: middle ∧ back = middle ++ separator :: other) ∨
          ∃ middle, first = second ++ separator :: middle ∧
            other = middle ++ separator :: back := by
  constructor
  · intro same
    rcases List.append_eq_append_iff.mp same with ⟨middle, rfl, rest⟩ | ⟨middle, rfl, rest⟩
    · cases middle with
      | nil => exact Or.inl ⟨(List.append_nil _).symm, (List.cons.inj rest).2⟩
      | cons head middle =>
          obtain ⟨rfl, tail⟩ := List.cons.inj rest
          exact Or.inr (Or.inl ⟨middle, rfl, tail⟩)
    · cases middle with
      | nil => exact Or.inl ⟨List.append_nil _, (List.cons.inj rest).2.symm⟩
      | cons head middle =>
          obtain ⟨rfl, tail⟩ := List.cons.inj rest
          exact Or.inr (Or.inr ⟨middle, rfl, tail⟩)
  · rintro (⟨rfl, rfl⟩ | ⟨middle, rfl, rfl⟩ | ⟨middle, rfl, rfl⟩)
    · rfl
    · rw [List.append_assoc, List.cons_append]
    · rw [List.append_assoc, List.cons_append]

theorem Member.overlaps_iff {first second : Member} :
    first.Overlaps second ↔ ∃ middle, second.task.toList = first.task.toList ++ '-' :: middle ∧
      first.container.toList = middle ++ '-' :: second.container.toList := by
  constructor
  · rintro ⟨middle, task, container⟩
    refine ⟨middle.toList, ?_, ?_⟩
    · rw [task]
      simp
    · rw [container]
      simp
  · rintro ⟨middle, task, container⟩
    refine ⟨.ofList middle, String.toList_inj.mp ?_, String.toList_inj.mp ?_⟩
    · rw [task]
      simp
    · rw [container]
      simp

namespace Setup

/-- The name that a container of a task starts under. -/
def nameOf (setup : Setup σ) (member : Member) : String :=
  setup.containerName member.task member.container

/-- Containers of tasks have one name just if they overlap. -/
theorem nameOf_eq_iff (setup : Setup σ) {first second : Member} :
    setup.nameOf first = setup.nameOf second ↔
      first = second ∨ first.Overlaps second ∨ second.Overlaps first := by
  have joined : ∀ member : Member, (setup.nameOf member).toList =
      setup.project.name.toList ++ '-' ::
        (member.task.toList ++ '-' :: member.container.toList) := by
    intro member
    simp [nameOf, containerName]
  rw [← String.toList_inj, joined, joined, List.append_cancel_left_eq, List.cons.injEq,
    append_cons_eq_append_cons_iff, Member.overlaps_iff, Member.overlaps_iff]
  obtain ⟨task, container⟩ := first
  obtain ⟨otherTask, otherContainer⟩ := second
  simp only [true_and, String.toList_inj, Member.mk.injEq]

/-- Hyphens stand in the names of no tasks, or in those of no containers. -/
def Unhyphenated (setup : Setup σ) : Prop :=
  (∀ name, (setup.project.task? name).isSome → '-' ∉ name.toList) ∨
    ∀ name, (setup.project.container? name).isSome → '-' ∉ name.toList

theorem not_overlaps (setup : Setup σ) (unhyphenated : setup.Unhyphenated) {first second : Member}
    (task : (setup.project.task? second.task).isSome)
    (container : (setup.project.container? first.container).isSome) : ¬ first.Overlaps second := by
  intro overlaps
  obtain ⟨middle, taskName, containerName⟩ := Member.overlaps_iff.mp overlaps
  rcases unhyphenated with tasks | containers
  · exact tasks _ task (by simp [taskName])
  · exact containers _ container (by simp [containerName])

/-- The containers that a task starts are different ones of the project. -/
theorem runTask_names (setup : Setup σ) (keyed : setup.project.Keyed) {task : Project.Task}
    {run : Project.TaskRun} (runs : task.run = some run) :
    trace.Records (setup.runTask task run).run fun _ marks =>
      ∃ names : List String, names.Nodup ∧
        (∀ name ∈ names, (setup.project.container? name).isSome) ∧
        (requested marks).map (·.name) = names.map (setup.containerName task.name) := by
  cases created : ContainerGraph.ofTask setup.project task with
  | error error =>
      rw [setup.runTask_of_error created]
      exact .throw ⟨[], List.nodup_nil, by simp, rfl⟩
  | ok graph =>
      refine (runTask_records setup.taskPhases_describe task run).mono fun result marks course => ?_
      obtain ⟨names, isPrefix, same⟩ :=
        List.prefix_map_iff.mp (course.taskTrace keyed runs created).names
      refine ⟨names, isPrefix.sublist.nodup (ContainerGraph.startOrder_leaves created).1, ?_, same⟩
      exact fun name member =>
        setup.isSome_of_mem_startOrder keyed runs created (isPrefix.mem member)

theorem names_running_sublist (setup : Setup σ) (keyed : setup.project.TasksKeyed)
    (order : List String) : List.Sublist ((setup.running order).map (·.1.name)) order := by
  induction order with
  | nil => exact List.Sublist.refl []
  | cons name rest ih =>
      cases found : setup.project.task? name with
      | none =>
          rw [running, List.filterMap_cons_none (by rw [found, Option.bind_none])]
          exact ih.cons name
      | some task =>
          cases runs : task.run with
          | none =>
              rw [setup.running_of_groups found runs]
              exact ih.cons name
          | some run =>
              rw [setup.running_of_runs found runs, List.map_cons, keyed name task found]
              exact ih.cons_cons name

theorem order_nodup (setup : Setup σ) {task : String} {order : List String}
    (made : setup.order task = .ok order) : order.Nodup := by
  unfold Setup.order at made
  split at made
  · split at made
    · cases made
    · cases made
      exact List.nodup_singleton task
  · obtain ⟨rfl, known, acyclic⟩ := Graph.of_taskOrder made
    exact (Graph.PostOrder.orderFrom_leaves acyclic (Graph.mem_keys_of_isSome known)
      (Graph.length_keys_lt setup.project)).1

/-- Where tasks with different names are executed, no container of a task starts twice. -/
theorem Executing.members {setup : Setup σ} (keyed : setup.project.Keyed) {start last : State σ}
    {executions : List (Execution σ)} (executing : Executing setup start executions last)
    (runs : ∀ execution ∈ executions, execution.task.run = some execution.run)
    (distinct : (executions.map (·.task.name)).Nodup) :
    ∃ members : List Member, members.Nodup ∧
      (∀ member ∈ members, member.task ∈ executions.map (·.task.name) ∧
        (setup.project.container? member.container).isSome) ∧
      (requested (executions.flatMap (·.marks))).map (·.name) = members.map setup.nameOf := by
  induction executing with
  | done => exact ⟨[], List.nodup_nil, by simp, rfl⟩
  | @next _ _ execution rest _ grown _ _ ih =>
      obtain ⟨runsHere, runs⟩ := List.forall_mem_cons.mp runs
      rw [List.map_cons, List.nodup_cons] at distinct
      obtain ⟨members, nodup, inside, requests⟩ := ih runs distinct.2
      obtain ⟨marks, adds, names, namesNodup, known, here⟩ :=
        setup.runTask_names keyed runsHere execution.before
      -- What this task leaves in the trace is what its containers are asked for in.
      obtain rfl : marks = execution.marks := List.append_cancel_left (adds.symm.trans grown)
      have first : ∀ member ∈ names.map (Member.mk execution.task.name),
          member.task = execution.task.name ∧
            (setup.project.container? member.container).isSome := by
        intro member listed
        obtain ⟨name, present, rfl⟩ := List.mem_map.mp listed
        exact ⟨rfl, known name present⟩
      refine ⟨names.map (Member.mk execution.task.name) ++ members, ?_, ?_, ?_⟩
      · refine List.nodup_append.mpr ⟨?_, nodup, ?_⟩
        · exact namesNodup.map fun name other same => (Member.mk.inj same).2
        · rintro member listed _ later rfl
          exact distinct.1 ((first member listed).1 ▸ (inside member later).1)
      · refine List.forall_mem_append.mpr ⟨fun member listed => ?_, fun member listed => ?_⟩
        · obtain ⟨same, present⟩ := first member listed
          exact ⟨same ▸ List.mem_cons_self, present⟩
        · obtain ⟨later, present⟩ := inside member listed
          exact ⟨List.mem_cons_of_mem _ later, present⟩
      · rw [List.flatMap_cons, requested_append, List.map_append, here, requests, List.map_append,
          List.map_map]
        rfl

theorem Succession.members {setup : Setup σ} (keyed : setup.project.Keyed)
    (tasksKeyed : setup.project.TasksKeyed) {order : List String} (nodup : order.Nodup)
    {start last : State σ} {executions : List (Execution σ)} {result : Except Error Int}
    (succession : Succession setup order start executions result last) :
    ∃ members : List Member, members.Nodup ∧
      (∀ member ∈ members, member.task ∈ order ∧
        (setup.project.container? member.container).isSome) ∧
      (requested (executions.flatMap (·.marks))).map (·.name) = members.map setup.nameOf := by
  have runs : ∀ execution ∈ executions, execution.task.run = some execution.run := by
    intro execution member
    have listed := succession.tasks.mem (List.mem_map_of_mem member)
    obtain ⟨name, -, same⟩ := List.mem_filterMap.mp listed
    obtain ⟨task, -, same⟩ := Option.bind_eq_some_iff.mp same
    obtain ⟨run, runs, same⟩ := Option.map_eq_some_iff.mp same
    obtain ⟨rfl, rfl⟩ := Prod.mk.inj same
    exact runs
  have names : List.Sublist (executions.map (·.task.name)) order := by
    have sublist := (succession.tasks.map (·.1.name)).sublist
    rw [List.map_map] at sublist
    exact sublist.trans (setup.names_running_sublist tasksKeyed order)
  obtain ⟨members, distinct, inside, requests⟩ :=
    succession.executing.members keyed runs (names.nodup nodup)
  refine ⟨members, distinct, fun member listed => ?_, requests⟩
  obtain ⟨task, container⟩ := inside member listed
  exact ⟨names.mem task, container⟩

theorem run_members (setup : Setup σ) (keyed : setup.project.Keyed)
    (tasksKeyed : setup.project.TasksKeyed) (task : String) (start : State σ) :
    ∃ (marks : List Mark) (members : List Member),
      (setup.run task start).2.trace = start.trace ++ marks ∧ members.Nodup ∧
      (∀ member ∈ members, (setup.project.task? member.task).isSome ∧
        (setup.project.container? member.container).isSome) ∧
      (requested marks).map (·.name) = members.map setup.nameOf := by
  cases made : setup.order task with
  | error error =>
      rw [setup.run_of_error made]
      exact ⟨[], [], (List.append_nil _).symm, List.nodup_nil, by simp, rfl⟩
  | ok order =>
      have known : ∀ name ∈ order, (setup.project.task? name).isSome := fun name =>
        setup.isSome_of_mem_order made
      obtain ⟨executions, succession⟩ :=
        setup.runInOrder_succession known (resolved task order start)
      obtain ⟨members, nodup, inside, requests⟩ :=
        succession.members keyed tasksKeyed (setup.order_nodup made)
      rw [setup.run_of_ok made]
      refine ⟨_, members, succession.executing.trace_eq, nodup, fun member listed => ?_, requests⟩
      obtain ⟨task, container⟩ := inside member listed
      exact ⟨known _ task, container⟩

/-- **Names of containers.** The containers that a run starts are different containers of its
tasks. Two of them have one name just if they overlap, so all names are different where
hyphens stand in the names of no tasks, or in those of no containers. -/
theorem run_names (setup : Setup σ) {text directory : String}
    (accepted : Project.ofYaml text directory = .ok setup.project) (task : String)
    (start : State σ) :
    ∃ (marks : List Mark) (members : List Member),
      (setup.run task start).2.trace = start.trace ++ marks ∧
      (requested marks).map (·.name) = members.map setup.nameOf ∧
      (∀ member ∈ members, (setup.project.task? member.task).isSome ∧
        (setup.project.container? member.container).isSome) ∧
      (members.Pairwise fun first second => first ≠ second ∧
        (setup.nameOf first = setup.nameOf second ↔
          first.Overlaps second ∨ second.Overlaps first)) ∧
      (setup.Unhyphenated → ((requested marks).map (·.name)).Nodup) := by
  obtain ⟨keyed, tasksKeyed⟩ := Project.ofYaml_keyed accepted
  obtain ⟨marks, members, grown, nodup, known, names⟩ :=
    setup.run_members keyed tasksKeyed task start
  refine ⟨marks, members, grown, names, known, nodup.imp ?_, ?_⟩
  · intro first second different
    refine ⟨different, ?_⟩
    rw [setup.nameOf_eq_iff, or_iff_right different]
  · intro unhyphenated
    rw [names]
    refine List.Nodup.map_on (fun first listed second present same => ?_) nodup
    rcases setup.nameOf_eq_iff.mp same with rfl | overlaps | overlaps
    · rfl
    · exact (setup.not_overlaps unhyphenated (known _ present).1 (known _ listed).2 overlaps).elim
    · exact (setup.not_overlaps unhyphenated (known _ listed).1 (known _ present).2 overlaps).elim

end Setup

/-- A project file with two tasks, each with a container whose name goes on where the name of
the task ends. -/
def overlappingText : String :=
  "project_name: shop\ncontainers:\n  c:\n    image: alpine\n  b-c:\n    image: alpine\n" ++
  "tasks:\n  a-b:\n    run:\n      container: c\n" ++
  "  a:\n    run:\n      container: b-c\n    prerequisites: [a-b]\n"

/-- A task that runs a container after other tasks. -/
def runs (name container : String) (prerequisites : List String) : String × Project.Task :=
  (name, { name, run := some { container }, prerequisites })

/-- The project in this file, with containers left in place. -/
def overlapping : Setup Unit where
  engine := ready
  project :=
    { name := "shop", containers := .ofList [ContainerGraph.box "b-c" [], ContainerGraph.box "c" []]
      tasks := .ofList [runs "a" "b-c" ["a-b"], runs "a-b" "c" []] }
  options := { cleanupAfterSuccess := false, cleanupAfterFailure := false }

theorem overlapping_accepted :
    Project.ofYaml overlappingText "/project" = .ok overlapping.project :=
  ok_of_toOption (by decide +kernel)

theorem overlapping_order : overlapping.order "a" = .ok ["a-b", "a"] := by
  obtain ⟨inside, acyclic⟩ :=
    @Graph.acyclicFrom_of_listed (Graph.prerequisites overlapping.project) ["a", "a-b"]
      (by decide +kernel) "a" (by decide)
  have exist : ∀ name ∈ ["a", "a-b"], (overlapping.project.task? name).isSome := by
    decide +kernel
  have made := Graph.taskOrder_eq (exist "a" (by decide))
    (fun name path => exist name (inside name path)) acyclic
  have listed : Graph.PostOrder.orderFrom (Graph.prerequisites overlapping.project)
      (overlapping.project.tasks.size + 1) "a" = ["a-b", "a"] := by decide +kernel
  rw [listed] at made
  exact made

/-- The containers of a task that needs no other than its own. -/
def alone (task container : String) : ContainerGraph where
  task
  root := container
  adjacency := (∅ : Std.ExtTreeMap String NameSet).insert container ((∅ : NameSet).insertMany [])

theorem overlapping_requests :
    (requested (overlapping.run "a" { engine := () }).2.trace).map (·.name) =
      ["shop-a-b-c", "shop-a-b-c"] := by
  have first : overlapping.project.task? "a-b" = some (runs "a-b" "c" []).2 := rfl
  have second : overlapping.project.task? "a" = some (runs "a" "b-c" ["a-b"]).2 := rfl
  have firstMade : ContainerGraph.ofTask overlapping.project (runs "a-b" "c" []).2 =
    .ok (alone "a-b" "c") := rfl
  have secondMade : ContainerGraph.ofTask overlapping.project (runs "a" "b-c" ["a-b"]).2 =
    .ok (alone "a" "b-c") := rfl
  have firstOnly : overlapping.containers (alone "a-b" "c").startOrder =
    [(ContainerGraph.box "c" []).2] := rfl
  have secondOnly : overlapping.containers (alone "a" "b-c").startOrder =
    [(ContainerGraph.box "b-c" []).2] := rfl
  rw [Setup.run_of_ok _ overlapping_order, Setup.runInOrder_of_runs _ first rfl]
  simp only [Setup.runInOrder_of_runs _ second rfl]
  rw [Setup.runTask_of_ok _ firstMade, Setup.runTask_of_ok _ secondMade, firstOnly, secondOnly,
    overlapping.prepare_of_permitted (by decide +kernel),
    overlapping.prepare_of_permitted (by decide +kernel), ImagePool.prepare, ImagePool.prepare,
    ImagePool.run_single, ImagePool.run_single]
  decide +kernel

theorem run_names_overlapping :
    ∃ first second : Member,
      (requested (overlapping.run "a" { engine := () }).2.trace).map (·.name) =
        [overlapping.nameOf first, overlapping.nameOf second] ∧
      first ≠ second ∧ (first.Overlaps second ∨ second.Overlaps first) := by
  obtain ⟨marks, members, grown, names, -, pairs, -⟩ :=
    overlapping.run_names overlapping_accepted "a" { engine := () }
  rw [List.nil_append] at grown
  have requests := overlapping_requests
  rw [grown, names] at requests
  obtain ⟨first, rest, rfl, here, requests⟩ := List.map_eq_cons_iff.mp requests
  obtain ⟨second, last, rfl, there, requests⟩ := List.map_eq_cons_iff.mp requests
  obtain rfl := List.map_eq_nil_iff.mp requests
  obtain ⟨different, overlap⟩ := List.pairwise_pair.mp pairs
  refine ⟨first, second, ?_, different, overlap.mp (here.trans there.symm)⟩
  rw [grown, names]
  rfl

/-- Containers of an accepted project can start under one name in one run, even where none is
removed between. -/
theorem names_shared :
    ¬ ∀ (setup : Setup Unit) (text directory task : String) (start : State Unit) (marks : List Mark),
      Project.ofYaml text directory = .ok setup.project →
      (setup.run task start).2.trace = start.trace ++ marks →
      ((requested marks).map (·.name)).Nodup := by
  intro distinct
  have nodup := distinct overlapping overlappingText "/project" "a" { engine := () } _
    overlapping_accepted (List.nil_append _).symm
  rw [overlapping_requests] at nodup
  exact absurd nodup (by decide)

end ContainerTasks.Run
