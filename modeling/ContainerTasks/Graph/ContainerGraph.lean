import ContainerTasks.Graph.Error
import ContainerTasks.Graph.PostOrder
import ContainerTasks.Journal.Quoted

/-! # The containers of a task

The main container of a task and all that it depends on. The main container
depends on what it says itself and on what the task adds; every other container
on what it says itself.
-/

namespace ContainerTasks

/-- The containers a task needs, each with those it depends on directly. -/
structure ContainerGraph where
  task : String
  /-- The main container. -/
  root : String
  adjacency : Std.ExtTreeMap String NameSet

namespace ContainerGraph

open Project ContainerTasks.Graph

/-- What a container of the graph depends on directly. -/
def dependenciesOf (graph : ContainerGraph) (container : String) : List String :=
  ((graph.adjacency[container]?).getD ∅).toList

/-- All containers of the graph, in the order of their names. -/
def containers (graph : ContainerGraph) : List String :=
  graph.adjacency.keys

/-- All containers of the graph, each after those it depends on; the main
container is last. -/
def startOrder (graph : ContainerGraph) : List String :=
  PostOrder.orderFrom graph.dependenciesOf (graph.adjacency.size + 1) graph.root

/-- Records a container and what it depends on, and goes on with each dependency
that is not recorded yet. `path` holds the containers on the way here; one of
them among the dependencies closes a cycle. No path is longer than `fuel`. -/
def visit (project : Project) : (fuel : Nat) → (path : List String) → (container : String) →
    NameSet → Std.ExtTreeMap String NameSet → Except Graph.Error (Std.ExtTreeMap String NameSet)
  | 0, _, _, _, adjacency => .ok adjacency
  | fuel + 1, path, container, dependencies, adjacency =>
    let path := path ++ [container]
    dependencies.toList.foldlM
      (fun adjacency dependency =>
        if path.contains dependency then
          .error (.dependencyCycle (path.dropWhile (· != dependency) ++ [dependency]))
        else if adjacency.contains dependency then .ok adjacency
        else
          match project.container? dependency with
          | none => .error (.unknownContainer dependency (.container container))
          | some found => visit project fuel path dependency found.dependencies adjacency)
      (adjacency.insert container dependencies)

/-- Works out the containers of a task. -/
def ofTask (project : Project) (task : Task) : Except Graph.Error ContainerGraph :=
  match task.run with
  | none => .error (.noMainContainer task.name)
  | some run =>
    match project.container? run.container with
    | none => .error (.unknownContainer run.container (.task task.name))
    | some root =>
      match task.dependencies.toList.find? fun name => (project.container? name).isNone with
      | some missing => .error (.unknownContainer missing (.task task.name))
      | none => do
        let dependencies := root.dependencies.insertMany task.dependencies.toList
        let adjacency ←
          visit project (project.containers.size + 1) [] root.name dependencies ∅
        return { task := task.name, root := root.name, adjacency }

/-- The entry that a new graph leaves in the journal. -/
def journalEntry (graph : ContainerGraph) : Journal.Entry :=
  ⟨.info, "Dependency graph for task created.",
    [("task", graph.task), ("dependencies", Journal.quoteSets graph.adjacency)]⟩

end ContainerGraph

end ContainerTasks
