import ContainerTasks.Proofs.Graph.ContainerGraph
import ContainerTasks.Proofs.Graph.PostOrder

/-! # The order in which containers start

The walk that collects the containers of a task refuses cycles and records all it can
reach, so the post-order walk of the recorded graph meets each container once and
leaves it after all it depends on, the main container last.
-/

namespace ContainerTasks.ContainerGraph

open Project ContainerTasks.Graph

variable {project : Project} {main : String} {own : NameSet} {graph : ContainerGraph}

namespace Complete

/-- A container of the graph leads to what is recorded for it. -/
theorem leads_iff (complete : Complete project main own graph) {name target : String}
    (member : name ∈ graph.adjacency) :
    Leads graph.dependenciesOf name target ↔ Leads (steps project main own) name target := by
  unfold Leads dependenciesOf
  rw [complete.recorded name member, Option.getD_some]

/-- Only containers of the graph lead anywhere. -/
theorem member_of_leads {name target : String} (leads : Leads graph.dependenciesOf name target) :
    name ∈ graph.adjacency := by
  by_contra absent
  have missing : graph.adjacency[name]? = none := Std.ExtTreeMap.getElem?_eq_none absent
  unfold Leads dependenciesOf at leads
  rw [missing, Option.getD_none, Std.ExtTreeSet.mem_toList] at leads
  exact Std.ExtTreeSet.not_mem_empty leads

theorem leads_steps (complete : Complete project main own graph) {name target : String}
    (leads : Leads graph.dependenciesOf name target) :
    Leads (steps project main own) name target :=
  (complete.leads_iff (member_of_leads leads)).mp leads

/-- The containers of the graph are those that can be reached along its records. -/
theorem reaches_iff (complete : Complete project main own graph) {name : String} :
    Reaches graph.dependenciesOf graph.root name ↔ name ∈ graph.adjacency := by
  rw [complete.root, complete.mem_iff]
  constructor
  · exact Relation.ReflTransGen.mono (fun _ _ => complete.leads_steps) main name
  · intro path
    induction path with
    | refl => exact .refl
    | tail path leads reached =>
        exact reached.tail ((complete.leads_iff ((complete.mem_iff _).mpr path)).mpr leads)

theorem acyclicFrom (complete : Complete project main own graph) :
    AcyclicFrom graph.dependenciesOf graph.root := by
  intro reached path cycle
  refine complete.acyclic reached ?_
    (Relation.TransGen.mono (fun _ _ => complete.leads_steps) reached reached cycle)
  exact (complete.mem_iff reached).mp (complete.reaches_iff.mp path)

end Complete

/-- A graph that was made for a task is complete for its root. -/
theorem exists_complete {task : Task} (made : ofTask project task = .ok graph) :
    ∃ own, Complete project graph.root own graph := by
  cases runs : task.run with
  | none => simp only [ofTask, runs, reduceCtorEq] at made
  | some run =>
      have outcome := ofTask_settles project runs
      rw [made] at outcome
      obtain ⟨-, root, -, complete⟩ := outcome
      exact ⟨root.dependencies ∪ task.dependencies, by rwa [complete.root]⟩

theorem startOrder_leaves {task : Task} (made : ofTask project task = .ok graph) :
    graph.startOrder.Nodup ∧
      ∀ name, name ∈ graph.startOrder ↔ Reaches graph.dependenciesOf graph.root name := by
  obtain ⟨own, complete⟩ := exists_complete made
  obtain ⟨nodup, listed, -, -⟩ := PostOrder.orderFrom_leaves complete.acyclicFrom
    (fun name path => Std.ExtTreeMap.mem_keys.mpr (complete.reaches_iff.mp path)) (by
      rw [Std.ExtTreeMap.length_keys]
      exact Nat.lt_succ_self _)
  exact ⟨nodup, listed⟩

/-- The start order lists each container after all it depends on directly, and the main one
last. -/
theorem startOrder_follows {task : Task} (made : ofTask project task = .ok graph) :
    (∀ before name after, graph.startOrder = before ++ name :: after →
      ∀ dependency ∈ graph.dependenciesOf name, dependency ∈ before) ∧
      graph.startOrder.getLast? = some graph.root := by
  obtain ⟨own, complete⟩ := exists_complete made
  obtain ⟨-, -, ordered, last⟩ := PostOrder.orderFrom_leaves complete.acyclicFrom
    (fun name path => Std.ExtTreeMap.mem_keys.mpr (complete.reaches_iff.mp path)) (by
      rw [Std.ExtTreeMap.length_keys]
      exact Nat.lt_succ_self _)
  exact ⟨ordered, last⟩

/-- The main container of a task is the root of its graph. -/
theorem root_eq_of_keyed {task : Task} {run : TaskRun} (keyed : project.Keyed)
    (runs : task.run = some run) (made : ofTask project task = .ok graph) :
    graph.root = run.container ∧ (project.container? run.container).isSome := by
  have outcome := ofTask_settles project runs
  rw [made] at outcome
  obtain ⟨-, root, found, complete⟩ := outcome
  exact ⟨complete.root.trans (keyed run.container root found), by rw [found, Option.isSome_some]⟩

/-- **The start order.** It lists every container of the graph of a task once and nothing
else, each after all it depends on directly, and the main container last. -/
theorem startOrder_sorted (project : Project) (task : Task) (graph : ContainerGraph)
    (made : ofTask project task = .ok graph) :
    graph.startOrder.Nodup ∧
      (∀ name, name ∈ graph.startOrder ↔ name ∈ graph.adjacency) ∧
      (∀ before name after, graph.startOrder = before ++ name :: after →
        ∀ dependency ∈ graph.dependenciesOf name, dependency ∈ before) ∧
      graph.startOrder.getLast? = some graph.root := by
  obtain ⟨own, complete⟩ := exists_complete made
  have inside : ∀ name, Reaches graph.dependenciesOf graph.root name →
      name ∈ graph.adjacency.keys :=
    fun name path => Std.ExtTreeMap.mem_keys.mpr (complete.reaches_iff.mp path)
  have enough : graph.adjacency.keys.length < graph.adjacency.size + 1 := by
    rw [Std.ExtTreeMap.length_keys]
    exact Nat.lt_succ_self _
  obtain ⟨nodup, listed, ordered, last⟩ :=
    PostOrder.orderFrom_leaves complete.acyclicFrom inside enough
  exact ⟨nodup, fun name => (listed name).trans complete.reaches_iff, ordered, last⟩

theorem startOrder_sorted_diamond :
    ∃ graph, ofTask diamond serve = .ok graph ∧
      graph.startOrder = ["store", "api", "jobs", "mail", "web"] ∧ graph.startOrder.Nodup ∧
      (∀ name, name ∈ graph.startOrder ↔ name ∈ graph.adjacency) ∧
      (∀ before name after, graph.startOrder = before ++ name :: after →
        ∀ dependency ∈ graph.dependenciesOf name, dependency ∈ before) ∧
      graph.startOrder.getLast? = some graph.root := by
  have order : (ofTask diamond serve).map (·.startOrder) =
      .ok ["store", "api", "jobs", "mail", "web"] := by decide +kernel
  cases made : ofTask diamond serve with
  | ok graph =>
      rw [made] at order
      exact ⟨graph, rfl, Except.ok.inj order, startOrder_sorted diamond serve graph made⟩
  | error error =>
      rw [made] at order
      cases order

end ContainerTasks.ContainerGraph
