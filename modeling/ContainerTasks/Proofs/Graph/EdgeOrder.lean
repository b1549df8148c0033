import Mathlib.Order.Minimal
import ContainerTasks.Proofs.Graph.DagHistory

/-! # The order in which edges are added

A graph over given nodes is asked for edges between them, one after the other (`grown`). It
takes an edge unless the edges it has taken lead from the target back to the source, and what
it has refused once it would refuse ever after (`grown_settles`). So edges without a cycle are
all taken, and give the same graph in whatever order they come. Where they have cycles, what
is taken depends on the order; but some edge is refused in every order, and what is taken has
no room for another edge (`grown_exact`).
-/

namespace ContainerTasks.Graph.Dag

/-- The graph over some nodes after edges have been asked for, one after the other. -/
def grown (names : List String) (edges : List (String × String)) : Dag :=
  run (names.map .node ++ edges.map fun edge => .edge edge.1 edge.2)

/-- An edge of a list joins two names. -/
def Joined (edges : List (String × String)) (source target : String) : Prop :=
  (source, target) ∈ edges

/-- Along a relation nothing leads back to itself. -/
def Cycleless (relation : String → String → Prop) : Prop :=
  ∀ name, ¬ Relation.TransGen relation name name

variable {dag : Dag} {names : List String} {edges asked before more : List (String × String)}
  {source target : String}

/-- A graph is given by its nodes and its edges. -/
theorem eq_of_edges {first second : Dag}
    (nodes : ∀ name, first.contains name ↔ second.contains name)
    (edges : ∀ source target, first.Edge source target ↔ second.Edge source target) :
    first = second := by
  have same : first.targets = second.targets := by
    refine Std.ExtTreeMap.ext_getElem? fun name => ?_
    have node : name ∈ first.targets ↔ name ∈ second.targets := nodes name
    have leads : ∀ target, target ∈ (first.targets[name]?).getD ∅ ↔
        target ∈ (second.targets[name]?).getD ∅ := by
      intro target
      rw [← Std.ExtTreeSet.mem_toList, ← Std.ExtTreeSet.mem_toList]
      exact edges name target
    rw [Std.ExtTreeMap.mem_iff_isSome_getElem?, Std.ExtTreeMap.mem_iff_isSome_getElem?] at node
    cases left : first.targets[name]? with
    | none =>
        cases right : second.targets[name]? with
        | none => rfl
        | some targets => simp [left, right] at node
    | some targets =>
        cases right : second.targets[name]? with
        | none => simp [left, right] at node
        | some others =>
            rw [left, right] at leads
            exact congrArg some (Std.ExtTreeSet.ext_mem leads)
  cases first
  cases second
  exact congrArg mk same

theorem contains_step_node (name other : String) :
    (dag.step (.node name)).contains other ↔ other = name ∨ dag.contains other := by
  by_cases present : dag.contains name
  · have refused : dag.answer (.node name) = .error (.nodeExists name) := if_pos present
    rw [step_of_error refused]
    exact ⟨Or.inr, fun either => either.elim (fun same => same ▸ present) id⟩
  · obtain ⟨after, added⟩ := exists_addNode present
    have taken : dag.answer (.node name) = .ok after := added
    rw [step_of_ok taken]
    exact contains_addNode added

theorem contains_step_edge (source target other : String) :
    (dag.step (.edge source target)).contains other ↔ dag.contains other := by
  cases settled : dag.answer (.edge source target) with
  | error error => rw [step_of_error settled]
  | ok after =>
      rw [step_of_ok settled]
      exact contains_addEdge settled

theorem edge_step_node (name first second : String) :
    (dag.step (.node name)).Edge first second ↔ dag.Edge first second := by
  cases settled : dag.answer (.node name) with
  | error error => rw [step_of_error settled]
  | ok after =>
      rw [step_of_ok settled]
      exact edge_addNode settled

theorem grown_concat (names : List String) (edges : List (String × String))
    (source target : String) :
    grown names (edges ++ [(source, target)]) = (grown names edges).step (.edge source target) := by
  unfold grown
  rw [List.map_append, ← List.append_assoc]
  exact run_concat _ _

theorem grown_nil_concat (names : List String) (name : String) :
    grown (names ++ [name]) [] = (grown names []).step (.node name) := by
  simp [grown, run]

theorem sound_grown (names : List String) (edges : List (String × String)) :
    (grown names edges).Sound :=
  sound_run _

theorem contains_grown (names : List String) (edges : List (String × String)) (name : String) :
    (grown names edges).contains name ↔ name ∈ names := by
  induction edges using List.reverseRecOn with
  | nil =>
      induction names using List.reverseRecOn with
      | nil => simp [grown, run, contains]
      | append_singleton names other ih =>
          rw [grown_nil_concat, contains_step_node, ih, List.mem_append, List.mem_singleton, or_comm]
  | append_singleton edges edge ih => rw [grown_concat, contains_step_edge, ih]

theorem not_edge_grown_nil (names : List String) (source target : String) :
    ¬ (grown names []).Edge source target := by
  induction names using List.reverseRecOn with
  | nil => exact not_edge_empty
  | append_singleton names other ih => rwa [grown_nil_concat, edge_step_node]

/-- What a graph takes it goes on having. -/
theorem edge_step (edge : dag.Edge source target) (request : Request) :
    (dag.step request).Edge source target := by
  cases settled : dag.answer request with
  | error error => rwa [step_of_error settled]
  | ok after =>
      rw [step_of_ok settled]
      cases request with
      | node name => exact (edge_addNode settled).mpr edge
      | edge first second => exact (edge_addEdge settled).mpr (Or.inl edge)

theorem edge_grown_append (more : List (String × String))
    (edge : (grown names before).Edge source target) :
    (grown names (before ++ more)).Edge source target := by
  induction more using List.reverseRecOn with
  | nil => rwa [List.append_nil]
  | append_singleton more other ih =>
      rw [← List.append_assoc, grown_concat]
      exact edge_step ih _

/-- A graph has no edges but those it was asked for. -/
theorem joined_of_edge (edge : (grown names edges).Edge source target) :
    Joined edges source target := by
  induction edges using List.reverseRecOn with
  | nil => exact (not_edge_grown_nil names source target edge).elim
  | append_singleton edges last ih =>
      rw [grown_concat] at edge
      cases settled : (grown names edges).answer (.edge last.1 last.2) with
      | error error =>
          rw [step_of_error settled] at edge
          exact List.mem_append_left _ (ih edge)
      | ok after =>
          rw [step_of_ok settled] at edge
          rcases (edge_addEdge settled).mp edge with old | ⟨rfl, rfl⟩
          · exact List.mem_append_left _ (ih old)
          · exact List.mem_append_right _ (List.mem_singleton_self _)

/-- How an edge is settled that is asked for somewhere on the way: it is taken and stays, or it
is refused, then and in the end, because it would close a cycle. -/
theorem grown_settles (split : asked = before ++ (source, target) :: more)
    (hasSource : source ∈ names) (hasTarget : target ∈ names) :
    (∃ next, (grown names before).addEdge source target = .ok next) ∧
        (grown names asked).Edge source target ∨
      (grown names before).addEdge source target = .error (.edgeCreatesCycle source target) ∧
        Reaches (grown names asked).next target source := by
  have parts : asked = before ++ [(source, target)] ++ more := by
    rw [split, List.append_assoc, List.singleton_append]
  have settles := addEdge_settles (sound_grown names before).closed
    ((contains_grown names before source).mpr hasSource)
    ((contains_grown names before target).mpr hasTarget)
  rcases settles with ⟨back, refused⟩ | ⟨-, next, added⟩
  · refine Or.inr ⟨refused, Relation.ReflTransGen.mono (fun first second edge => ?_) _ _ back⟩
    rw [split]
    exact edge_grown_append _ edge
  · refine Or.inl ⟨⟨next, added⟩, ?_⟩
    rw [parts]
    refine edge_grown_append more ?_
    have taken : (grown names before).answer (.edge source target) = .ok next := added
    rw [grown_concat, step_of_ok taken]
    exact (edge_addEdge added).mpr (Or.inr ⟨rfl, rfl⟩)

/-- A relation that joins two names and leads back has a cycle. -/
theorem Cycleless.not_reaches {relation : String → String → Prop} (cycleless : Cycleless relation)
    (joins : relation source target) : ¬ Relation.ReflTransGen relation target source :=
  fun back => cycleless source (.head' joins back)

section Asked

variable (between : ∀ edge ∈ edges, edge.1 ∈ names ∧ edge.2 ∈ names)
  (same : ∀ edge, edge ∈ asked ↔ edge ∈ edges)
include between same

theorem mem_of_split (split : asked = before ++ (source, target) :: more) :
    (source, target) ∈ edges ∧ source ∈ names ∧ target ∈ names := by
  have wanted : (source, target) ∈ edges :=
    (same _).mp (split ▸ List.mem_append_right before List.mem_cons_self)
  exact ⟨wanted, between _ wanted⟩

/-- With no cycle among all edges those that were taken lead nowhere back. -/
theorem taken_of_cycleless (cycleless : Cycleless (Joined edges))
    (split : asked = before ++ (source, target) :: more) :
    (∃ next, (grown names before).addEdge source target = .ok next) ∧
      (grown names asked).Edge source target := by
  obtain ⟨wanted, hasSource, hasTarget⟩ := mem_of_split between same split
  refine (grown_settles split hasSource hasTarget).resolve_right fun ⟨_, back⟩ => ?_
  refine cycleless.not_reaches wanted (Relation.ReflTransGen.mono ?_ _ _ back)
  exact fun first second edge => (same _).mp (joined_of_edge edge)

theorem edge_grown_iff (cycleless : Cycleless (Joined edges)) (source target : String) :
    (grown names asked).Edge source target ↔ (source, target) ∈ edges := by
  refine ⟨fun edge => (same _).mp (joined_of_edge edge), fun wanted => ?_⟩
  obtain ⟨before, more, split⟩ := List.append_of_mem ((same _).mpr wanted)
  exact (taken_of_cycleless between same cycleless split).2

/-- If all edges were taken they would have their cycle in the graph. -/
theorem exists_refused {name : String} (cycle : Relation.TransGen (Joined edges) name name) :
    ∃ before source target more, asked = before ++ (source, target) :: more ∧
      (grown names before).addEdge source target = .error (.edgeCreatesCycle source target) := by
  by_contra none
  refine (sound_grown names asked).acyclic name (Relation.TransGen.mono ?_ _ _ cycle)
  intro source target wanted
  obtain ⟨before, more, split⟩ := List.append_of_mem ((same _).mpr wanted)
  obtain ⟨-, hasSource, hasTarget⟩ := mem_of_split between same split
  rcases grown_settles split hasSource hasTarget with ⟨-, edge⟩ | ⟨refused, -⟩
  · exact edge
  · exact (none ⟨before, source, target, more, split, refused⟩).elim

/-- What is refused on the way would be refused in the end. -/
theorem refused_again (split : asked = before ++ (source, target) :: more) {error : DagError}
    (failed : (grown names before).addEdge source target = .error error) :
    error = .edgeCreatesCycle source target ∧
      (grown names asked).addEdge source target = .error error := by
  obtain ⟨-, hasSource, hasTarget⟩ := mem_of_split between same split
  rcases grown_settles split hasSource hasTarget with ⟨⟨next, added⟩, -⟩ | ⟨refused, back⟩
  · cases added.symm.trans failed
  · obtain rfl := Except.error.inj (refused.symm.trans failed)
    refine ⟨rfl, addEdge_of_closesCycle (sound_grown names asked).closed ?_ ?_⟩
    · exact (contains_grown names asked target).mpr hasTarget
    · exact closesCycle_iff_reaches.mpr back

/-- What is taken has no room for another edge. -/
theorem maximal_grown :
    Maximal (fun part => part ≤ Joined edges ∧ Cycleless part) (grown names asked).Edge := by
  refine ⟨⟨fun first second edge => (same _).mp (joined_of_edge edge),
    (sound_grown names asked).acyclic⟩, ?_⟩
  intro part ⟨within, cycleless⟩ larger source target joins
  have wanted : (source, target) ∈ edges := within source target joins
  obtain ⟨before, more, split⟩ := List.append_of_mem ((same _).mpr wanted)
  obtain ⟨-, hasSource, hasTarget⟩ := mem_of_split between same split
  rcases grown_settles split hasSource hasTarget with ⟨-, taken⟩ | ⟨-, back⟩
  · exact taken
  · exact (cycleless.not_reaches joins (Relation.ReflTransGen.mono larger _ _ back)).elim

end Asked

/-- **The order of edges.** Edges between some nodes that have no cycle among them are taken
one and all, and give the same graph in any order and with any repetition. If they have a
cycle, then in any order one of them is refused because it would close a cycle; the graph in
the end has as many of the edges as it can without a cycle, and what it refused it would still
refuse. -/
theorem grown_exact (names : List String) (edges : List (String × String))
    (between : ∀ edge ∈ edges, edge.1 ∈ names ∧ edge.2 ∈ names) :
    (Cycleless (Joined edges) →
      ∃ graph : Dag, (∀ name, graph.contains name ↔ name ∈ names) ∧
        (∀ source target, graph.Edge source target ↔ (source, target) ∈ edges) ∧
        ∀ asked, (∀ edge, edge ∈ asked ↔ edge ∈ edges) →
          grown names asked = graph ∧
          ∀ before source target more, asked = before ++ (source, target) :: more →
            ∃ next, (grown names before).addEdge source target = .ok next) ∧
    ((∃ name, Relation.TransGen (Joined edges) name name) →
      ∀ asked, (∀ edge, edge ∈ asked ↔ edge ∈ edges) →
        (∃ before source target more, asked = before ++ (source, target) :: more ∧
          (grown names before).addEdge source target =
            .error (.edgeCreatesCycle source target)) ∧
        (∀ name, (grown names asked).contains name ↔ name ∈ names) ∧
        Maximal (fun part => part ≤ Joined edges ∧ Cycleless part) (grown names asked).Edge ∧
        ∀ before source target more, asked = before ++ (source, target) :: more →
          ∀ error, (grown names before).addEdge source target = .error error →
            error = .edgeCreatesCycle source target ∧
              (grown names asked).addEdge source target = .error error) := by
  constructor
  · intro cycleless
    have edge_iff := edge_grown_iff between (fun _ => Iff.rfl) cycleless
    refine ⟨grown names edges, contains_grown names edges, edge_iff, ?_⟩
    intro asked same
    refine ⟨eq_of_edges (fun name => ?_) fun source target => ?_, ?_⟩
    · rw [contains_grown, contains_grown]
    · rw [edge_grown_iff between same cycleless, edge_iff]
    · exact fun before source target more split =>
        (taken_of_cycleless between same cycleless split).1
  · intro ⟨name, cycle⟩ asked same
    exact ⟨exists_refused between same cycle, contains_grown names asked,
      maximal_grown between same,
      fun before source target more split error => refused_again between same split⟩

theorem grown_exact_triangle :
    (∀ edge ∈ [("a", "b"), ("b", "c"), ("c", "a")],
        edge.1 ∈ ["a", "b", "c"] ∧ edge.2 ∈ ["a", "b", "c"]) ∧
      (∃ name, Relation.TransGen (Joined [("a", "b"), ("b", "c"), ("c", "a")]) name name) ∧
      (∀ edge, edge ∈ [("c", "a"), ("b", "c"), ("c", "a"), ("a", "b")] ↔
        edge ∈ [("a", "b"), ("b", "c"), ("c", "a")]) ∧
      Maximal (fun part => part ≤ Joined [("a", "b"), ("b", "c"), ("c", "a")] ∧ Cycleless part)
        (grown ["a", "b", "c"] [("c", "a"), ("b", "c"), ("c", "a"), ("a", "b")]).Edge := by
  have between : ∀ edge ∈ [("a", "b"), ("b", "c"), ("c", "a")],
      edge.1 ∈ ["a", "b", "c"] ∧ edge.2 ∈ ["a", "b", "c"] := by decide
  have joined : ∀ edge ∈ [("a", "b"), ("b", "c"), ("c", "a")],
      Joined [("a", "b"), ("b", "c"), ("c", "a")] edge.1 edge.2 := fun edge member => member
  have cycle : ∃ name, Relation.TransGen (Joined [("a", "b"), ("b", "c"), ("c", "a")]) name name :=
    ⟨"a", .head (joined ("a", "b") (by decide))
      (.head (joined ("b", "c") (by decide)) (.single (joined ("c", "a") (by decide))))⟩
  have same : ∀ edge, edge ∈ [("c", "a"), ("b", "c"), ("c", "a"), ("a", "b")] ↔
      edge ∈ [("a", "b"), ("b", "c"), ("c", "a")] := by
    intro edge
    simp only [List.mem_cons, List.not_mem_nil, or_false]
    tauto
  exact ⟨between, cycle, same, ((grown_exact _ _ between).2 cycle _ same).2.2.1⟩

end ContainerTasks.Graph.Dag
