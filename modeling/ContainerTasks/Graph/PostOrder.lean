/-! # Post-order

The order in which a depth-first walk leaves the nodes of a graph: every node
after those it leads to, if the graph has no cycles, and each once.
-/

namespace ContainerTasks.Graph.PostOrder

/-- Where a walk stands: the names it has come to and those it has left. -/
structure Walk where
  visited : List String := []
  order : List String := []
deriving Repr

/-- Walks from a name through names it has not come to. A path of such names is no
longer than `fuel`. -/
def visit (next : String → List String) : (fuel : Nat) → Walk → String → Walk
  | 0, walk, _ => walk
  | fuel + 1, walk, name =>
    if walk.visited.contains name then walk
    else
      let inner := (next name).foldl (visit next fuel) { walk with visited := name :: walk.visited }
      { inner with order := inner.order ++ [name] }

/-- The names a walk from a name leaves, in order. -/
def orderFrom (next : String → List String) (fuel : Nat) (name : String) : List String :=
  (visit next fuel {} name).order

end ContainerTasks.Graph.PostOrder
