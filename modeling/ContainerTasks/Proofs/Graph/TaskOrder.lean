import ContainerTasks.Graph.TaskOrder
import ContainerTasks.Proofs.Graph.Dag
import ContainerTasks.Proofs.Graph.PostOrder
import ContainerTasks.Proofs.Outcome

/-! # The order of a task and its prerequisites

The graph of prerequisites grows task by task. It holds genuine prerequisites only and
has no cycle (`Sound`), and every task that it gains has all of its prerequisites in it
once the walk has left that task (`Gains`). An edge is refused only where a prerequisite
needs the task already, so the walk ends in an error exactly if a task is missing or
comes before itself (`addPrerequisites_settles`). Without an error the post-order walk
lists the tasks, which gives the exact description of `taskOrder` (`taskOrder_exact`).
-/

namespace ContainerTasks.Graph

variable {project : Project} {root : String}

/-- What may be wrong with the prerequisites of a task, directly or not: one of them does
not exist, or needs the task that it is needed by. -/
inductive OrderFault (project : Project) (root : String) : Error → Prop
  | unknown {name referrer : String} (missing : project.task? name = none)
      (needed : Leads (prerequisites project) referrer name)
      (reached : Reaches (prerequisites project) root referrer) :
      OrderFault project root (.unknownTask name referrer)
  | cycle {name referrer : String} (needed : Leads (prerequisites project) referrer name)
      (back : Reaches (prerequisites project) name referrer)
      (reached : Reaches (prerequisites project) root referrer) :
      OrderFault project root (.taskCycle name referrer)

/-- What a graph of prerequisites keeps: its nodes are tasks that the requested one needs,
its edges lead from prerequisites to what needs them, and none of them closes a cycle. -/
structure Sound (project : Project) (root : String) (dag : Dag) : Prop where
  known : ∀ name, dag.contains name → (project.task? name).isSome
  reached : ∀ name, dag.contains name → Reaches (prerequisites project) root name
  genuine : ∀ name task, dag.Edge name task → Leads (prerequisites project) task name
  closed : dag.Closed
  acyclic : dag.Acyclic

/-- All prerequisites of a task are in the graph. -/
def Filled (project : Project) (dag : Dag) (task : String) : Prop :=
  ∀ name, Leads (prerequisites project) task name → dag.Edge name task

/-- A graph gains nodes and edges, and all prerequisites of every node that is new. -/
structure Gains (project : Project) (before after : Dag) : Prop where
  nodes : ∀ name, before.contains name → after.contains name
  edges : ∀ name task, before.Edge name task → after.Edge name task
  filled : ∀ task, after.contains task → ¬ before.contains task → Filled project after task

theorem Gains.refl (dag : Dag) : Gains project dag dag :=
  ⟨fun _ => id, fun _ _ => id, fun _ present absent => (absent present).elim⟩

theorem Filled.gains {before after : Dag} {task : String} (filled : Filled project before task)
    (gains : Gains project before after) : Filled project after task :=
  fun name leads => gains.edges name task (filled name leads)

theorem Gains.trans {first second third : Dag} (gains : Gains project first second)
    (more : Gains project second third) : Gains project first third where
  nodes := fun name present => more.nodes name (gains.nodes name present)
  edges := fun name task edge => more.edges name task (gains.edges name task edge)
  filled := by
    intro task present absent
    by_cases middle : second.contains task
    · exact (gains.filled task middle absent).gains more
    · exact more.filled task present middle

namespace Sound

variable {dag after : Dag} {name task : String}

/-- Where a graph leads, prerequisites lead back. -/
theorem reaches (sound : Sound project root dag) (path : Reaches dag.next name task) :
    Reaches (prerequisites project) task name := by
  induction path with
  | refl => exact .refl
  | tail _ edge back => exact .head (sound.genuine _ _ edge) back

theorem addEdge (sound : Sound project root dag)
    (needed : Leads (prerequisites project) task name)
    (added : dag.addEdge name task = .ok after)
    (oneWay : ¬ Reaches dag.next task name) : Sound project root after where
  known := fun other present => sound.known other ((Dag.contains_addEdge added).mp present)
  reached := fun other present => sound.reached other ((Dag.contains_addEdge added).mp present)
  genuine := by
    intro first second edge
    rcases (Dag.edge_addEdge added).mp edge with old | ⟨rfl, rfl⟩
    · exact sound.genuine first second old
    · exact needed
  closed := sound.closed.addEdge added
  acyclic := sound.acyclic.addEdge added oneWay

theorem addNode (sound : Sound project root dag) (added : dag.addNode name = .ok after)
    (known : (project.task? name).isSome)
    (reached : Reaches (prerequisites project) root name) : Sound project root after where
  known := by
    intro other present
    rcases (Dag.contains_addNode added).mp present with rfl | old
    · exact known
    · exact sound.known other old
  reached := by
    intro other present
    rcases (Dag.contains_addNode added).mp present with rfl | old
    · exact reached
    · exact sound.reached other old
  genuine := fun first second edge => sound.genuine first second ((Dag.edge_addNode added).mp edge)
  closed := sound.closed.addNode added
  acyclic := sound.acyclic.addNode added

end Sound

theorem sound_empty : Sound project root {} := by
  have isolated : ∀ name task, ¬ Dag.Edge {} name task := by
    intro name task edge
    have node := Dag.contains_of_edge edge
    simp [Dag.contains] at node
  refine ⟨by simp [Dag.contains], by simp [Dag.contains], ?_, ?_, ?_⟩
  · exact fun name task edge => (isolated name task edge).elim
  · exact fun name task edge => (isolated name task edge).elim
  · intro name cycle
    obtain ⟨middle, edge, -⟩ := Relation.TransGen.head'_iff.mp cycle
    exact isolated name middle edge

/-- An edge between two nodes is added, or it closes a cycle of prerequisites. -/
theorem addPrerequisite_settles {dag : Dag} {name task : String}
    (sound : Sound project root dag) (hasName : dag.contains name) (hasTask : dag.contains task)
    (needed : Leads (prerequisites project) task name) :
    Settles
      (fun after => Sound project root after ∧ Gains project dag after ∧ after.Edge name task ∧
        ∀ other, after.contains other ↔ dag.contains other)
      (OrderFault project root) (addPrerequisite dag name task) := by
  rcases Dag.addEdge_settles sound.closed hasName hasTask with
    ⟨back, refused⟩ | ⟨oneWay, after, added⟩
  · rw [addPrerequisite, refused]
    exact .cycle needed (sound.reaches back) (sound.reached task hasTask)
  · rw [addPrerequisite, added]
    have same : ∀ other, after.contains other ↔ dag.contains other :=
      fun other => Dag.contains_addEdge added
    refine ⟨sound.addEdge needed added oneWay, ⟨?_, ?_, ?_⟩, ?_, same⟩
    · exact fun other present => (same other).mpr present
    · exact fun first second edge => (Dag.edge_addEdge added).mpr (Or.inl edge)
    · exact fun other present absent => (absent ((same other).mp present)).elim
    · exact (Dag.edge_addEdge added).mpr (Or.inr ⟨rfl, rfl⟩)

/-- How many tasks of a project are not in a graph. -/
def absent (project : Project) (dag : Dag) : Nat :=
  (project.tasks.keys.filter fun name => !dag.contains name).length

theorem absent_le {before after : Dag} (gains : Gains project before after) :
    absent project after ≤ absent project before := by
  refine (List.monotone_filter_right _ ?_).length_le
  intro name
  simp only [Bool.not_eq_true', ← Bool.not_eq_true]
  exact mt (gains.nodes name)

/-- A task that is added is one fewer to add. -/
theorem absent_addNode_lt {dag after : Dag} {name : String} (fresh : ¬ dag.contains name)
    (known : (project.task? name).isSome) (present : after.contains name)
    (kept : ∀ other, dag.contains other → after.contains other) :
    absent project after < absent project dag := by
  have sublist : List.Sublist
      (project.tasks.keys.filter fun other => !after.contains other)
      ((project.tasks.keys.filter fun other => !dag.contains other).filter
        fun other => other ≠ name) := by
    rw [List.filter_filter]
    refine List.monotone_filter_right _ ?_
    intro other missing
    have different : other ≠ name := by
      rintro rfl
      simp [present] at missing
    have unknown : ¬ dag.contains other := fun old => by
      simp [kept other old] at missing
    simp [different, unknown]
  have key : name ∈ project.tasks.keys := by
    rw [Std.ExtTreeMap.mem_keys, Std.ExtTreeMap.mem_iff_isSome_getElem?]
    exact known
  refine Nat.lt_of_le_of_lt sublist.length_le
    (List.length_filter_lt_length_iff_exists.mpr ⟨name, ?_, by simp⟩)
  simp [key, fresh]

/-- One step of the walk: what it does about a prerequisite of a task. -/
def take (project : Project) (fuel : Nat) (task : String) (dag : Dag) (name : String) :
    Except Error Dag :=
  if (project.task? name).isNone then .error (.unknownTask name task)
  else if dag.contains name then addPrerequisite dag name task
  else do
    let dag ← ensureNode dag name
    let dag ← addPrerequisite dag name task
    addPrerequisites project fuel dag name

theorem addPrerequisites_succ (project : Project) (fuel : Nat) (dag : Dag) (task : String) :
    addPrerequisites project (fuel + 1) dag task =
      (prerequisites project task).foldlM (take project fuel task) dag :=
  rfl

/-- What the walk wants of a task: a sound graph with all that the task needs. -/
structure Left (project : Project) (root task : String) (before after : Dag) : Prop where
  sound : Sound project root after
  gains : Gains project before after
  filled : Filled project after task

/-- A step of the walk adds a prerequisite with all that it needs, or ends in an error. -/
theorem take_settles {fuel : Nat} {dag : Dag} {name task : String}
    (leaves : ∀ before, Sound project root before → before.contains name →
      absent project before < absent project dag →
      Settles (Left project root name before) (OrderFault project root)
        (addPrerequisites project fuel before name))
    (sound : Sound project root dag) (hasTask : dag.contains task)
    (needed : Leads (prerequisites project) task name) :
    Settles
      (fun after => Sound project root after ∧ Gains project dag after ∧ after.Edge name task)
      (OrderFault project root) (take project fuel task dag name) := by
  have reached := sound.reached task hasTask
  unfold take
  cases found : project.task? name with
  | none => exact .unknown found needed reached
  | some _ =>
      have known : (project.task? name).isSome := by rw [found, Option.isSome_some]
      rw [Option.isNone_some, if_neg Bool.false_ne_true]
      by_cases present : dag.contains name
      · rw [if_pos present]
        exact (addPrerequisite_settles sound present hasTask needed).mono
          fun after ⟨sound, gains, edge, _⟩ => ⟨sound, gains, edge⟩
      · obtain ⟨single, added⟩ := Dag.exists_addNode present
        rw [if_neg present, ensureNode, if_neg present, added]
        -- The new node has no edges yet; the walk goes on to it once the first is added.
        have hasName : single.contains name := (Dag.contains_addNode added).mpr (Or.inl rfl)
        have kept : ∀ other, dag.contains other → single.contains other :=
          fun other old => (Dag.contains_addNode added).mpr (Or.inr old)
        refine (addPrerequisite_settles (sound.addNode added known (reached.tail needed)) hasName
          (kept task hasTask) needed).bind ?_
        intro linked ⟨linkedSound, linkedGains, edge, same⟩
        refine (leaves linked linkedSound ((same name).mpr hasName) ?_).mono ?_
        · exact absent_addNode_lt present known ((same name).mpr hasName)
            fun other old => (same other).mpr (kept other old)
        · intro after left
          refine ⟨left.sound, ⟨?_, ?_, ?_⟩, left.gains.edges name task edge⟩
          · exact fun other old => left.gains.nodes other ((same other).mpr (kept other old))
          · exact fun first second old => left.gains.edges first second
              (linkedGains.edges first second ((Dag.edge_addNode added).mpr old))
          · intro other new old
            by_cases here : other = name
            · exact here ▸ left.filled
            · refine left.gains.filled other new fun earlier => ?_
              rcases (Dag.contains_addNode added).mp ((same other).mp earlier) with rfl | older
              · exact here rfl
              · exact old older

/-- **The walk.** It adds all that a task needs to the graph, or ends in an error about a
task that is missing or comes before itself. -/
theorem addPrerequisites_settles : ∀ (fuel : Nat) (dag : Dag) (task : String),
    Sound project root dag → dag.contains task → absent project dag < fuel →
    Settles (Left project root task dag) (OrderFault project root)
      (addPrerequisites project fuel dag task) := by
  intro fuel
  induction fuel with
  | zero =>
      intro dag task _ _ enough
      exact (Nat.not_lt_zero _ enough).elim
  | succ fuel ih =>
      intro dag task sound hasTask enough
      rw [addPrerequisites_succ]
      -- Of the prerequisites dealt with so far each has its edge to the task.
      refine Settles.mono (Settles.foldlM
        (fun done state => Sound project root state ∧ Gains project dag state ∧
          ∀ name ∈ done, state.Edge name task)
        (prerequisites project task) [] dag ⟨sound, .refl dag, by simp⟩ ?_) ?_
      · intro done name state needed ⟨stateSound, gains, edges⟩
        refine (take_settles ?_ stateSound (gains.nodes task hasTask) needed).mono ?_
        · intro before beforeSound hasName fewer
          have within := absent_le gains
          exact ih before name beforeSound hasName (by omega)
        · intro after ⟨afterSound, more, edge⟩
          refine ⟨afterSound, gains.trans more, ?_⟩
          intro other member
          rcases List.mem_append.mp member with old | new
          · exact more.edges other task (edges other old)
          · exact List.mem_singleton.mp new ▸ edge
      · intro after ⟨afterSound, gains, edges⟩
        exact ⟨afterSound, gains, edges⟩

/-- With the graph of all that a task needs, every task that is needed exists and none of
them comes before itself. -/
theorem Left.complete {before after : Dag} (left : Left project root root before after)
    (only : ∀ name, before.contains name → name = root) (hasRoot : before.contains root) :
    (∀ name, Reaches (prerequisites project) root name → (project.task? name).isSome) ∧
      AcyclicFrom (prerequisites project) root := by
  have filled : ∀ task, after.contains task → Filled project after task := by
    intro task present
    by_cases old : before.contains task
    · exact only task old ▸ left.filled
    · exact left.gains.filled task present old
  have present : ∀ name, Reaches (prerequisites project) root name → after.contains name := by
    intro name path
    induction path with
    | refl => exact left.gains.nodes root hasRoot
    | tail _ leads member => exact Dag.contains_of_edge (filled _ member _ leads)
  refine ⟨fun name path => left.sound.known name (present name path), ?_⟩
  intro name path cycle
  have back : ∀ other, Relation.TransGen (Leads (prerequisites project)) name other →
      Reaches (prerequisites project) root other ∧ Relation.TransGen after.Edge other name := by
    intro other way
    induction way with
    | single leads => exact ⟨path.tail leads, .single (filled _ (present _ path) _ leads)⟩
    | tail _ leads ih =>
        exact ⟨ih.1.tail leads, .head (filled _ (present _ ih.1) _ leads) ih.2⟩
  exact left.sound.acyclic name (back name cycle).2

/-- Where every task that is needed exists and none comes before itself, nothing is
wrong. -/
theorem OrderFault.false {error : Error} (fault : OrderFault project root error)
    (known : ∀ name, Reaches (prerequisites project) root name → (project.task? name).isSome)
    (acyclic : AcyclicFrom (prerequisites project) root) : False := by
  cases fault with
  | unknown missing needed reached =>
      have present := known _ (reached.tail needed)
      rw [missing] at present
      cases present
  | cycle needed back reached => exact acyclic _ reached (.head' needed back)

/-- The order is worked out from what the walk leaves, or is the error that ends it. -/
theorem taskOrder_settles (known : (project.task? root).isSome) :
    Settles
      (fun order => order =
          PostOrder.orderFrom (prerequisites project) (project.tasks.size + 1) root ∧
        (∀ name, Reaches (prerequisites project) root name → (project.task? name).isSome) ∧
        AcyclicFrom (prerequisites project) root)
      (OrderFault project root) (taskOrder project root) := by
  have fresh : ¬ Dag.contains {} root := by simp [Dag.contains]
  obtain ⟨single, added⟩ := Dag.exists_addNode fresh
  have isSome : ¬ (project.task? root).isNone := by
    rw [← Option.not_isSome, known]
    simp
  rw [taskOrder, if_neg isSome, ensureNode, if_neg fresh, added]
  have hasRoot : single.contains root := (Dag.contains_addNode added).mpr (Or.inl rfl)
  have only : ∀ name, single.contains name → name = root := by
    intro name present
    exact ((Dag.contains_addNode added).mp present).resolve_right (by simp [Dag.contains])
  have enough : absent project single < project.tasks.size + 1 := by
    rw [← Std.ExtTreeMap.length_keys]
    exact Nat.lt_succ_of_le (List.length_filter_le _ _)
  refine (addPrerequisites_settles _ single root (sound_empty.addNode added known .refl) hasRoot
    enough).bind ?_
  intro after left
  exact ⟨rfl, left.complete only hasRoot⟩

theorem isSome_of_taskOrder {task : String} {order : List String}
    (made : taskOrder project task = .ok order) : (project.task? task).isSome := by
  cases found : project.task? task with
  | none =>
      rw [taskOrder, found] at made
      cases made
  | some _ => rfl

theorem taskOrder_eq (isSome : (project.task? root).isSome)
    (known : ∀ name, Reaches (prerequisites project) root name → (project.task? name).isSome)
    (acyclic : AcyclicFrom (prerequisites project) root) :
    taskOrder project root =
      .ok (PostOrder.orderFrom (prerequisites project) (project.tasks.size + 1) root) := by
  have outcome := taskOrder_settles isSome
  cases made : taskOrder project root with
  | ok order =>
      rw [made] at outcome
      rw [outcome.1]
  | error error =>
      rw [made] at outcome
      exact (OrderFault.false outcome known acyclic).elim

/-- An order that was worked out is that of the walk, over tasks that exist and without a
cycle. -/
theorem of_taskOrder {order : List String} (made : taskOrder project root = .ok order) :
    order = PostOrder.orderFrom (prerequisites project) (project.tasks.size + 1) root ∧
      (∀ name, Reaches (prerequisites project) root name → (project.task? name).isSome) ∧
      AcyclicFrom (prerequisites project) root := by
  have outcome := taskOrder_settles (isSome_of_taskOrder made)
  rwa [made] at outcome

theorem mem_keys_of_isSome
    (known : ∀ name, Reaches (prerequisites project) root name → (project.task? name).isSome)
    (name : String) (path : Reaches (prerequisites project) root name) :
    name ∈ project.tasks.keys := by
  rw [Std.ExtTreeMap.mem_keys, Std.ExtTreeMap.mem_iff_isSome_getElem?]
  exact known name path

theorem length_keys_lt (project : Project) :
    project.tasks.keys.length < project.tasks.size + 1 := by
  rw [Std.ExtTreeMap.length_keys]
  exact Nat.lt_succ_self _

/-- The tasks of an order exist. -/
theorem isSome_of_mem_taskOrder {order : List String} (made : taskOrder project root = .ok order)
    {name : String} (member : name ∈ order) : (project.task? name).isSome := by
  obtain ⟨rfl, known, acyclic⟩ := of_taskOrder made
  obtain ⟨-, listed, -, -⟩ :=
    PostOrder.orderFrom_leaves acyclic (mem_keys_of_isSome known) (length_keys_lt project)
  exact known name ((listed name).mp member)

/-- **The order of tasks.** There is one exactly if the task and all that it needs exist
and none of these tasks comes before itself. It lists these tasks, each once and after its
prerequisites, the task itself last. Of two prerequisites of the task the one declared
later comes first only if it is needed by one declared no later than the other, or is
that one. -/
theorem taskOrder_exact (project : Project) (task : String) :
    ((∃ order, taskOrder project task = .ok order) ↔
      (project.task? task).isSome ∧
      (∀ name, Reaches (prerequisites project) task name → (project.task? name).isSome) ∧
      AcyclicFrom (prerequisites project) task) ∧
    ∀ order, taskOrder project task = .ok order →
      order.Nodup ∧
      (∀ name, name ∈ order ↔ Reaches (prerequisites project) task name) ∧
      (∀ before name after, order = before ++ name :: after →
        ∀ prerequisite ∈ prerequisites project name, prerequisite ∈ before) ∧
      order.getLast? = some task ∧
      ∀ (i j : Nat) (earlier later : String), i < j →
        (prerequisites project task)[i]? = some earlier →
        (prerequisites project task)[j]? = some later →
        order.idxOf later < order.idxOf earlier →
        ∃ m ≤ i, ∃ cause, (prerequisites project task)[m]? = some cause ∧
          Reaches (prerequisites project) cause later := by
  refine ⟨⟨?_, ?_⟩, ?_⟩
  · rintro ⟨order, made⟩
    exact ⟨isSome_of_taskOrder made, (of_taskOrder made).2⟩
  · rintro ⟨isSome, exist, acyclic⟩
    exact ⟨_, taskOrder_eq isSome exist acyclic⟩
  · intro order made
    obtain ⟨rfl, exist, acyclic⟩ := of_taskOrder made
    have inside := mem_keys_of_isSome exist
    have enough := length_keys_lt project
    obtain ⟨nodup, listed, ordered, last⟩ := PostOrder.orderFrom_leaves acyclic inside enough
    refine ⟨nodup, listed, ordered, last, ?_⟩
    intro i j earlier later _ declared _ before
    -- Up to the earlier one the walk lists what those prerequisites lead to, and no more.
    obtain ⟨front, back, split, members, reached⟩ := PostOrder.orderFrom_begins acyclic inside
      enough (List.take_append_drop (i + 1) (prerequisites project task)).symm
    rw [split] at before
    have inFront : earlier ∈ front :=
      members earlier (List.mem_take_iff_getElem.mpr (by
        obtain ⟨bound, same⟩ := List.getElem?_eq_some_iff.mp declared
        exact ⟨i, by omega, same⟩))
    have laterInFront : later ∈ front := by
      by_contra outside
      rw [List.idxOf_append_of_mem inFront, List.idxOf_append_of_notMem outside] at before
      have bound := List.idxOf_lt_length_of_mem inFront
      omega
    obtain ⟨cause, member, path⟩ := reached later laterInFront
    obtain ⟨m, bound, same⟩ := List.mem_take_iff_getElem.mp member
    refine ⟨m, by omega, cause, ?_, path⟩
    exact List.getElem?_eq_some_iff.mpr ⟨by omega, same⟩

/-- A task that stands for its prerequisites. -/
def stage (name : String) (prerequisites : List String) : String × Project.Task :=
  (name, { name, prerequisites })

/-- A project in which a prerequisite of the last task needs one that is declared later. -/
def pipeline : Project where
  name := "shop"
  tasks := .ofList [stage "release" ["test", "compile", "package"], stage "test" ["compile"],
    stage "package" ["compile", "compile"], stage "compile" []]

/-- Where names can be listed before all they lead to, none of them leads back to itself. -/
theorem acyclicFrom_of_listed {next : String → List String} {names : List String}
    (later : ∀ name ∈ names, ∀ target ∈ next name,
      target ∈ names ∧ names.idxOf name < names.idxOf target)
    {start : String} (member : start ∈ names) :
    (∀ reached, Reaches next start reached → reached ∈ names) ∧ AcyclicFrom next start := by
  have inside : ∀ reached, Reaches next start reached → reached ∈ names := by
    intro reached path
    induction path with
    | refl => exact member
    | tail _ leads listed => exact (later _ listed _ leads).1
  refine ⟨inside, fun reached path cycle => ?_⟩
  have increases : ∀ target, Relation.TransGen (Leads next) reached target →
      target ∈ names ∧ names.idxOf reached < names.idxOf target := by
    intro target way
    induction way with
    | single leads => exact later _ (inside _ path) _ leads
    | tail _ leads ih =>
        obtain ⟨listed, further⟩ := later _ ih.1 _ leads
        exact ⟨listed, ih.2.trans further⟩
  exact Nat.lt_irrefl _ (increases reached cycle).2

theorem taskOrder_exact_pipeline :
    ∃ order, taskOrder pipeline "release" = .ok order ∧ order.Nodup ∧
      order.getLast? = some "release" ∧
      (order.idxOf "compile" < order.idxOf "test" →
        ∃ m ≤ 0, ∃ cause, (prerequisites pipeline "release")[m]? = some cause ∧
          Reaches (prerequisites pipeline) cause "compile") := by
  obtain ⟨inside, acyclic⟩ :=
    @acyclicFrom_of_listed (prerequisites pipeline) ["release", "test", "package", "compile"]
      (by decide +kernel) "release" (by decide)
  have exist : ∀ name ∈ ["release", "test", "package", "compile"],
      (pipeline.task? name).isSome := by decide +kernel
  have exact := taskOrder_exact pipeline "release"
  obtain ⟨order, made⟩ := exact.1.mpr
    ⟨exist _ (by decide), fun name path => exist name (inside name path), acyclic⟩
  obtain ⟨nodup, -, -, last, declared⟩ := exact.2 order made
  refine ⟨order, made, nodup, last, ?_⟩
  exact declared 0 1 "test" "compile" (by decide) (by decide +kernel) (by decide +kernel)

end ContainerTasks.Graph
