import ContainerTasks.Project.Basic

/-! # Acyclic graphs

A directed graph over names that refuses an edge which would close a cycle. An
edge leads to a node of the graph; a refused operation leaves the graph as it
was.
-/

namespace ContainerTasks.Graph

/-- Why a node or an edge cannot be added. -/
inductive DagError
  | nodeNotFound (node : String)
  | nodeExists (node : String)
  | edgeCreatesCycle (source target : String)
deriving DecidableEq, Repr

/-- The wording of an error. -/
def DagError.message : DagError → String
  | nodeNotFound node => "node " ++ node ++ " not found"
  | nodeExists node => "node " ++ node ++ " already exists"
  | edgeCreatesCycle source target =>
    "edges " ++ source ++ " and " ++ target ++ " would create a cycle"

/-- A graph: its nodes, each with the nodes its edges lead to. -/
structure Dag where
  targets : Std.ExtTreeMap String NameSet := ∅

namespace Dag

/-- Whether a name is a node. -/
def contains (dag : Dag) (node : String) : Bool :=
  dag.targets.contains node

/-- The nodes that the edges of a node lead to. -/
def next (dag : Dag) (node : String) : List String :=
  ((dag.targets[node]?).getD ∅).toList

/-- The nodes among `unseen` that can be reached from those to visit through
nodes among `unseen`. -/
def collect (next : String → List String) (unseen visit : List String) : List String :=
  match visit with
  | [] => []
  | node :: visit =>
    if _found : node ∈ unseen then node :: collect next (unseen.erase node) (next node ++ visit)
    else collect next unseen visit
termination_by (unseen.length, visit.length)
decreasing_by
  · have := List.length_erase_of_mem _found
    have := List.length_pos_of_mem _found
    exact Prod.Lex.left _ _ (by omega)
  · exact Prod.Lex.right _ (by simp)

/-- The nodes that can be reached from a node, itself included. -/
def reachable (dag : Dag) (node : String) : List String :=
  collect dag.next dag.targets.keys [node]

/-- Whether an edge would close a cycle: its source can be reached from its
target. -/
def closesCycle (dag : Dag) (source target : String) : Bool :=
  source = target || (dag.reachable target).contains source

/-- Adds a node without edges. -/
def addNode (dag : Dag) (node : String) : Except DagError Dag :=
  if dag.contains node then .error (.nodeExists node)
  else .ok { targets := dag.targets.insert node ∅ }

/-- Adds an edge between two nodes. -/
def addEdge (dag : Dag) (source target : String) : Except DagError Dag :=
  if !dag.contains target then .error (.nodeNotFound target)
  else if dag.closesCycle source target then .error (.edgeCreatesCycle source target)
  else
    match dag.targets[source]? with
    | none => .error (.nodeNotFound source)
    | some targets => .ok { targets := dag.targets.insert source (targets.insert target) }

end Dag

end ContainerTasks.Graph
