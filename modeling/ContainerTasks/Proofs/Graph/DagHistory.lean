import ContainerTasks.Proofs.Graph.Dag

/-! # Histories of an acyclic graph

A graph is built up by adding nodes and edges, some of which it refuses. Whatever is
tried in whatever order, it stays closed and without cycles (`Sound`), and an edge is
therefore judged by exactly what stands in the graph: whether its target is a node,
whether it would close a cycle, and whether its source is a node, in this order.
-/

namespace ContainerTasks.Graph.Dag

/-- What may be asked of a graph. -/
inductive Request
  | node (name : String)
  | edge (source target : String)

/-- What a graph answers to a request: the graph with the addition, or why it is refused. -/
def answer (dag : Dag) : Request → Except DagError Dag
  | .node name => dag.addNode name
  | .edge source target => dag.addEdge source target

/-- The graph after a request. A refused request leaves it as it is. -/
def step (dag : Dag) (request : Request) : Dag :=
  match dag.answer request with
  | .ok after => after
  | .error _ => dag

/-- The graph that requests build up from the empty one. -/
def run (requests : List Request) : Dag :=
  requests.foldl step {}

variable {dag after : Dag} {name source target : String}

theorem step_of_ok {request : Request} (taken : dag.answer request = .ok after) :
    dag.step request = after := by
  rw [step, taken]

theorem step_of_error {request : Request} {error : DagError}
    (refused : dag.answer request = .error error) : dag.step request = dag := by
  rw [step, refused]

theorem run_concat (requests : List Request) (request : Request) :
    run (requests ++ [request]) = (run requests).step request :=
  List.foldl_append

/-- Without cycles, and every edge leads to a node. -/
structure Sound (dag : Dag) : Prop where
  acyclic : dag.Acyclic
  closed : dag.Closed

theorem not_edge_empty : ¬ Edge {} source target := by
  intro edge
  have node := contains_of_edge edge
  simp [contains] at node

theorem Sound.empty : Sound {} where
  acyclic := by
    intro name cycle
    obtain ⟨target, edge, -⟩ := Relation.TransGen.head'_iff.mp cycle
    exact not_edge_empty edge
  closed := fun _ _ edge => (not_edge_empty edge).elim

/-- The target of an edge leads to its source, or is the source. -/
def ClosesCycle (dag : Dag) (source target : String) : Prop :=
  source = target ∨ Relation.TransGen dag.Edge target source

theorem closesCycle_iff_reaches : dag.ClosesCycle source target ↔ Reaches dag.next target source := by
  unfold ClosesCycle Reaches
  rw [Relation.reflTransGen_iff_eq_or_transGen]

theorem addEdge_of_missing (missing : ¬ dag.contains target) :
    dag.addEdge source target = .error (.nodeNotFound target) := by
  have absent : (!dag.contains target) = true := by simpa using missing
  rw [addEdge, if_pos absent]

theorem addEdge_of_closesCycle (closed : dag.Closed) (node : dag.contains target)
    (cycle : dag.ClosesCycle source target) :
    dag.addEdge source target = .error (.edgeCreatesCycle source target) := by
  have back := (closesCycle_iff closed node).mpr (closesCycle_iff_reaches.mp cycle)
  rw [addEdge, node, Bool.not_true, if_neg Bool.false_ne_true, if_pos back]

theorem addEdge_of_not_closesCycle (closed : dag.Closed) (node : dag.contains target)
    (oneWay : ¬ dag.ClosesCycle source target) :
    dag.addEdge source target =
      match dag.targets[source]? with
      | none => .error (.nodeNotFound source)
      | some targets => .ok { targets := dag.targets.insert source (targets.insert target) } := by
  have noWay : ¬ dag.closesCycle source target = true := by
    rw [closesCycle_iff closed node]
    exact fun back => oneWay (closesCycle_iff_reaches.mpr back)
  have known : ¬ (!dag.contains target) = true := by simp [node]
  exact (if_neg known).trans (if_neg noWay)

/-- What a graph answers when it is asked for an edge. -/
structure Judges (dag : Dag) (source target : String) : Prop where
  target_missing : ¬ dag.contains target →
    dag.addEdge source target = .error (.nodeNotFound target)
  cycle : dag.contains target →
    (dag.ClosesCycle source target ↔
      dag.addEdge source target = .error (.edgeCreatesCycle source target))
  source_missing : dag.contains target → ¬ dag.ClosesCycle source target →
    ¬ dag.contains source → dag.addEdge source target = .error (.nodeNotFound source)
  added : dag.contains target → ¬ dag.ClosesCycle source target → dag.contains source →
    ∃ after, dag.addEdge source target = .ok after ∧
      (∀ name, after.contains name ↔ dag.contains name) ∧
      ∀ first second, after.Edge first second ↔
        dag.Edge first second ∨ first = source ∧ second = target

theorem Closed.judges (closed : dag.Closed) (source target : String) : dag.Judges source target where
  target_missing := addEdge_of_missing
  cycle := by
    intro node
    refine ⟨addEdge_of_closesCycle closed node, fun refused => ?_⟩
    by_contra oneWay
    rw [addEdge_of_not_closesCycle closed node oneWay] at refused
    split at refused <;> cases refused
  source_missing := by
    intro node oneWay missing
    have absent : dag.targets[source]? = none :=
      Std.ExtTreeMap.getElem?_eq_none fun member =>
        missing (Std.ExtTreeMap.contains_iff_mem.mpr member)
    rw [addEdge_of_not_closesCycle closed node oneWay, absent]
  added := by
    intro node oneWay present
    have noWay : ¬ Reaches dag.next target source :=
      fun back => oneWay (closesCycle_iff_reaches.mpr back)
    rcases addEdge_settles closed present node with ⟨back, -⟩ | ⟨-, after, added⟩
    · exact (noWay back).elim
    · exact ⟨after, added, fun _ => contains_addEdge added, fun _ _ => edge_addEdge added⟩

/-- An edge that a sound graph takes closes no cycle. -/
theorem Sound.not_reaches (sound : dag.Sound) (added : dag.addEdge source target = .ok after) :
    ¬ Reaches dag.next target source := by
  intro back
  have node := (addEdge_eq_ok added).1
  have refused := addEdge_of_closesCycle sound.closed node (closesCycle_iff_reaches.mpr back)
  rw [added] at refused
  cases refused

/-- Whatever is asked of a sound graph, it stays sound. -/
theorem Sound.step (sound : dag.Sound) (request : Request) : (dag.step request).Sound := by
  cases settled : dag.answer request with
  | error error =>
      rw [step_of_error settled]
      exact sound
  | ok after =>
      rw [step_of_ok settled]
      cases request with
      | node name => exact ⟨sound.acyclic.addNode settled, sound.closed.addNode settled⟩
      | edge source target =>
          exact ⟨sound.acyclic.addEdge settled (sound.not_reaches settled),
            sound.closed.addEdge settled⟩

theorem sound_run (requests : List Request) : (run requests).Sound := by
  induction requests using List.reverseRecOn with
  | nil => exact .empty
  | append_singleton requests request ih =>
      rw [run_concat]
      exact ih.step request

/-- **Histories of a graph.** Whatever nodes and edges have been asked for, the graph has
no cycle and its edges lead to nodes. It judges a further edge by whether its target is a
node, then by whether it would close a cycle, then by whether its source is a node; an
edge that it takes is all it gains, and whatever it refuses leaves it as it was. -/
theorem run_judges (requests : List Request) :
    (run requests).Acyclic ∧ (run requests).Closed ∧
      (∀ source target, (run requests).Judges source target) ∧
      ∀ request error, (run requests).answer request = .error error →
        run (requests ++ [request]) = run requests := by
  have sound := sound_run requests
  refine ⟨sound.acyclic, sound.closed, sound.closed.judges, ?_⟩
  intro request error refused
  rw [run_concat]
  exact step_of_error refused

end ContainerTasks.Graph.Dag
