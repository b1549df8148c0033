import ContainerTasks.Proofs.Graph.ContainerWalk

/-! # Which containers a task needs

The graph of a task holds the containers that can be reached from its main one, each
with all it depends on (`Complete`). There is such a graph exactly if every container
that can be reached exists and none of them leads back to itself; a task without one
has a fault that says which of these fails (`TaskFault`).
-/

namespace ContainerTasks

/-- Every container stands under its own name. -/
def Project.Keyed (project : Project) : Prop :=
  ∀ name container, project.container? name = some container → container.name = name

theorem Project.keyed_iff {project : Project} :
    (∀ entry ∈ project.containers.toList, entry.2.name = entry.1) ↔ project.Keyed := by
  constructor
  · intro entries name container found
    exact entries (name, container) (Std.ExtTreeMap.mem_toList_iff_getElem?_eq_some.mpr found)
  · intro keyed entry member
    exact keyed entry.1 entry.2 (Std.ExtTreeMap.mem_toList_iff_getElem?_eq_some.mp member)

instance (project : Project) : Decidable project.Keyed :=
  decidable_of_iff _ Project.keyed_iff

namespace ContainerGraph

open Project ContainerTasks.Graph

/-- What each container depends on while a task runs in `main`: what it says itself,
and for the main one also what the task adds. -/
def taskNeeds (project : Project) (task : Task) (main : String) : String → NameSet :=
  needs project main (declared project main ∪ task.dependencies)

/-- What each container leads to while a task runs in `main`. -/
abbrev taskSteps (project : Project) (task : Task) (main container : String) : List String :=
  (taskNeeds project task main container).toList

/-- A graph records exactly the containers that can be reached from the main one, with
what they depend on, and has no cycle. -/
structure Complete (project : Project) (main : String) (own : NameSet) (graph : ContainerGraph) :
    Prop where
  root : graph.root = main
  mem_iff : ∀ name, name ∈ graph.adjacency ↔ Reaches (steps project main own) main name
  recorded : ∀ name ∈ graph.adjacency,
    graph.adjacency[name]? = some (needs project main own name)
  known : ∀ name ∈ graph.adjacency, name = main ∨ (project.container? name).isSome
  acyclic : AcyclicFrom (steps project main own) main

/-- A walk from the main container that has finished everything leaves a complete
graph. -/
theorem Finished.complete {project : Project} {main task : String} {own : NameSet}
    {before adjacency : Std.ExtTreeMap String NameSet}
    (finished : Finished project main own [] main before adjacency) :
    Complete project main own { task, root := main, adjacency } where
  root := rfl
  mem_iff := by
    intro name
    refine ⟨finished.explored.reached name, fun path => ?_⟩
    induction path with
    | refl => exact finished.member
    | tail _ leads member =>
        exact (finished.explored.closed _ member List.not_mem_nil _ leads).1
  recorded := finished.explored.recorded
  known := finished.explored.known
  acyclic := .of_acc (finished.explored.ends main finished.member List.not_mem_nil)

/-- What may be wrong with a task that runs in a container: the task names a container
that does not exist, or there is a fault among those that can be reached. -/
inductive TaskFault (project : Project) (task : Task) (run : TaskRun) : Graph.Error → Prop
  | main (missing : project.container? run.container = none) :
      TaskFault project task run (.unknownContainer run.container (.task task.name))
  | dependency {name : String} (missing : project.container? name = none)
      (member : name ∈ task.dependencies) :
      TaskFault project task run (.unknownContainer name (.task task.name))
  | walk {root : Container} {error : Graph.Error}
      (found : project.container? run.container = some root)
      (fault : Fault project root.name (root.dependencies ∪ task.dependencies) error) :
      TaskFault project task run error

theorem insertMany_toList (left right : NameSet) : left.insertMany right.toList = left ∪ right := by
  refine Std.ExtTreeSet.ext_mem fun name => ?_
  rw [Std.ExtTreeSet.mem_insertMany_list, Std.ExtTreeSet.mem_union_iff, List.contains_iff_mem,
    Std.ExtTreeSet.mem_toList]

/-- Working out the containers of a task leaves a complete graph, or an error that says
what is wrong. -/
theorem ofTask_settles (project : Project) {task : Task} {run : TaskRun}
    (runs : task.run = some run) :
    Settles
      (fun graph => graph.task = task.name ∧
        ∃ root, project.container? run.container = some root ∧
          Complete project root.name (root.dependencies ∪ task.dependencies) graph)
      (TaskFault project task run) (ofTask project task) := by
  cases found : project.container? run.container with
  | none =>
      simp only [ofTask, runs, found]
      exact TaskFault.main found
  | some root =>
      cases search : task.dependencies.toList.find? fun name =>
          (project.container? name).isNone with
      | some missing =>
          have absent := List.find?_some search
          have member := List.mem_of_find?_eq_some search
          simp only [ofTask, runs, found, search]
          exact TaskFault.dependency (Option.isNone_iff_eq_none.mp absent)
            (Std.ExtTreeSet.mem_toList.mp member)
      | none =>
          have walk := @visit_settles project root.name (root.dependencies ∪ task.dependencies)
            (project.containers.size + 1) [] root.name ∅ .begin Std.ExtTreeMap.not_mem_empty
            .empty (by simp)
          rw [needs_main] at walk
          simp only [ofTask, runs, found, search, insertMany_toList]
          cases visited : visit project (project.containers.size + 1) [] root.name
              (root.dependencies ∪ task.dependencies) ∅ with
          | ok adjacency =>
              rw [visited] at walk
              exact ⟨rfl, root, rfl, Finished.complete walk⟩
          | error error =>
              rw [visited] at walk
              exact TaskFault.walk found walk

theorem eq_declared_of_keyed {project : Project} (keyed : project.Keyed) {name : String}
    {root : Container} (found : project.container? name = some root) :
    root.name = name ∧ root.dependencies = declared project name := by
  refine ⟨keyed name root found, ?_⟩
  simp only [declared, found, Option.elim_some]

/-- Where every container that can be reached exists and none leads back to itself,
nothing is wrong. -/
theorem TaskFault.false {project : Project} {task : Task} {run : TaskRun} {error : Graph.Error}
    (fault : TaskFault project task run error) (keyed : project.Keyed)
    (known : ∀ name, Reaches (taskSteps project task run.container) run.container name →
      (project.container? name).isSome)
    (acyclic : AcyclicFrom (taskSteps project task run.container) run.container) : False := by
  have present : ∀ name, Reaches (taskSteps project task run.container) run.container name →
      project.container? name ≠ none := by
    intro name path absent
    have isSome := known name path
    rw [absent] at isSome
    cases isSome
  cases fault with
  | main missing => exact present run.container .refl missing
  | dependency missing member =>
      refine present _ (.single ?_) missing
      change _ ∈ (taskNeeds project task run.container run.container).toList
      rw [taskNeeds, needs_main, Std.ExtTreeSet.mem_toList, Std.ExtTreeSet.mem_union_iff]
      exact Or.inr member
  | walk found fault =>
      obtain ⟨named, declares⟩ := eq_declared_of_keyed keyed found
      rw [named, declares] at fault
      cases fault with
      | cycle chain _ reached => exact acyclic _ reached (cycle_of_isChain chain)
      | unknown missing leads reached => exact present _ (.tail reached leads) missing

/-- **The containers of a task.** A task that runs in a container has a graph exactly if
every container that can be reached from its main one exists and none of them leads
back to itself. The graph then holds just these containers, each with all it depends
on, and its root is the main container. -/
theorem ofTask_exact (project : Project) (task : Task) (run : TaskRun) (keyed : project.Keyed)
    (runs : task.run = some run) :
    ((∃ graph, ofTask project task = .ok graph) ↔
      (∀ name, Reaches (taskSteps project task run.container) run.container name →
        (project.container? name).isSome) ∧
      AcyclicFrom (taskSteps project task run.container) run.container) ∧
    ∀ graph, ofTask project task = .ok graph →
      graph.root = run.container ∧
      (∀ name, name ∈ graph.adjacency ↔
        Reaches (taskSteps project task run.container) run.container name) ∧
      ∀ name ∈ graph.adjacency,
        graph.adjacency[name]? = some (taskNeeds project task run.container name) := by
  have outcome := ofTask_settles project runs
  have complete : ∀ graph, ofTask project task = .ok graph →
      (project.container? run.container).isSome ∧
        Complete project run.container
          (declared project run.container ∪ task.dependencies) graph := by
    intro graph made
    rw [made] at outcome
    obtain ⟨-, root, found, complete⟩ := outcome
    obtain ⟨named, declares⟩ := eq_declared_of_keyed keyed found
    rw [named, declares] at complete
    exact ⟨by rw [found, Option.isSome_some], complete⟩
  refine ⟨⟨?_, ?_⟩, ?_⟩
  · rintro ⟨graph, made⟩
    obtain ⟨mainKnown, complete⟩ := complete graph made
    refine ⟨fun name path => ?_, complete.acyclic⟩
    rcases complete.known name ((complete.mem_iff name).mpr path) with rfl | known
    · exact mainKnown
    · exact known
  · rintro ⟨known, acyclic⟩
    cases made : ofTask project task with
    | ok graph => exact ⟨graph, rfl⟩
    | error error =>
        rw [made] at outcome
        exact (TaskFault.false outcome keyed known acyclic).elim
  · intro graph made
    obtain ⟨-, complete⟩ := complete graph made
    exact ⟨complete.root, complete.mem_iff, complete.recorded⟩

/-- A container that depends on others. -/
def box (name : String) (dependencies : List String) : String × Container :=
  (name, { name, source := .pull "alpine", dependencies := .ofList dependencies })

/-- A project in which two containers share a third. -/
def diamond : Project where
  name := "shop"
  containers := .ofList [box "web" ["api", "jobs"], box "api" ["store"], box "jobs" ["store"],
    box "store" [], box "mail" []]

/-- A task of `diamond` that adds a dependency to its main container. -/
def serve : Task where
  name := "serve"
  run := some { container := "web" }
  dependencies := .ofList ["mail"]

theorem ofTask_exact_diamond :
    diamond.Keyed ∧ serve.run = some { container := "web" } ∧
      (∀ name, Reaches (taskSteps diamond serve "web") "web" name →
        (diamond.container? name).isSome) ∧
      AcyclicFrom (taskSteps diamond serve "web") "web" := by
  have keyed : diamond.Keyed := by decide +kernel
  refine ⟨keyed, rfl, (ofTask_exact diamond serve { container := "web" } keyed rfl).1.mp ?_⟩
  have made : (ofTask diamond serve).isOk = true := by decide +kernel
  cases built : ofTask diamond serve with
  | ok graph => exact ⟨graph, rfl⟩
  | error error =>
      rw [built] at made
      cases made

end ContainerGraph

end ContainerTasks
