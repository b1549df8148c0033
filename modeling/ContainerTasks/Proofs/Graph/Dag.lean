import ContainerTasks.Graph.Dag
import ContainerTasks.Proofs.Graph.Reachability

/-! # What an acyclic graph admits

The search through a graph collects all that can be reached (`mem_reachable_iff`), so a
graph whose edges lead to nodes of its own refuses an edge between two of its nodes
exactly if the target leads to the source already (`addEdge_settles`). An edge that it
takes is all it gains (`edge_addEdge`), and no cycle comes with it (`Acyclic.addEdge`).
-/

namespace ContainerTasks.Graph.Dag

variable {next : String → List String}

/-- What is to be visited and has not been seen is collected. -/
theorem mem_collect_of_visit {unseen visit : List String} {name : String}
    (member : name ∈ visit) (fresh : name ∈ unseen) : name ∈ collect next unseen visit := by
  induction unseen, visit using collect.induct next with
  | case1 unseen => simp at member
  | case2 unseen node visit found ih =>
      rw [collect, dif_pos found]
      by_cases same : name = node
      · exact same ▸ List.mem_cons_self
      · have later : name ∈ visit := (List.mem_cons.mp member).resolve_left same
        exact List.mem_cons_of_mem _
          (ih (List.mem_append_right _ later) ((List.mem_erase_of_ne same).mpr fresh))
  | case3 unseen node visit seen ih =>
      rw [collect, dif_neg seen]
      have other : name ≠ node := fun same => seen (same ▸ fresh)
      exact ih ((List.mem_cons.mp member).resolve_left other) fresh

/-- With a name all it leads to is collected, unless it has been seen. -/
theorem mem_collect_of_leads {unseen visit : List String} {name target : String}
    (collected : name ∈ collect next unseen visit) (leads : Leads next name target)
    (fresh : target ∈ unseen) : target ∈ collect next unseen visit := by
  induction unseen, visit using collect.induct next with
  | case1 unseen => simp [collect] at collected
  | case2 unseen node visit found ih =>
      rw [collect, dif_pos found] at collected ⊢
      by_cases same : target = node
      · exact same ▸ List.mem_cons_self
      · have still : target ∈ unseen.erase node := (List.mem_erase_of_ne same).mpr fresh
        refine List.mem_cons_of_mem _ ?_
        rcases List.mem_cons.mp collected with rfl | later
        · exact mem_collect_of_visit (List.mem_append_left _ leads) still
        · exact ih later still
  | case3 unseen node visit seen ih =>
      rw [collect, dif_neg seen] at collected ⊢
      exact ih collected fresh

/-- Only what can be reached from the names to visit is collected. -/
theorem reaches_of_mem_collect {unseen visit : List String} {name : String}
    (collected : name ∈ collect next unseen visit) : ∃ start ∈ visit, Reaches next start name := by
  induction unseen, visit using collect.induct next with
  | case1 unseen => simp [collect] at collected
  | case2 unseen node visit found ih =>
      rw [collect, dif_pos found] at collected
      rcases List.mem_cons.mp collected with rfl | later
      · exact ⟨name, List.mem_cons_self, .refl⟩
      · obtain ⟨start, member, path⟩ := ih later
        rcases List.mem_append.mp member with leads | old
        · exact ⟨node, List.mem_cons_self, .head leads path⟩
        · exact ⟨start, List.mem_cons_of_mem _ old, path⟩
  | case3 unseen node visit seen ih =>
      rw [collect, dif_neg seen] at collected
      obtain ⟨start, member, path⟩ := ih collected
      exact ⟨start, List.mem_cons_of_mem _ member, path⟩

variable {dag after : Dag} {source target name : String}

/-- A node leads somewhere in a graph. -/
abbrev Edge (dag : Dag) (source target : String) : Prop :=
  Leads dag.next source target

/-- Every edge leads to a node. -/
def Closed (dag : Dag) : Prop :=
  ∀ source target, dag.Edge source target → dag.contains target

/-- No node leads back to itself. -/
def Acyclic (dag : Dag) : Prop :=
  ∀ name, ¬ Relation.TransGen dag.Edge name name

theorem contains_iff : dag.contains name ↔ name ∈ dag.targets.keys := by
  rw [contains, Std.ExtTreeMap.contains_iff_mem, Std.ExtTreeMap.mem_keys]

/-- Only nodes have edges. -/
theorem contains_of_edge (edge : dag.Edge source target) : dag.contains source := by
  by_contra absent
  have missing : dag.targets[source]? = none :=
    Std.ExtTreeMap.getElem?_eq_none fun member =>
      absent (Std.ExtTreeMap.contains_iff_mem.mpr member)
  unfold Edge Leads next at edge
  rw [missing, Option.getD_none, Std.ExtTreeSet.mem_toList] at edge
  exact Std.ExtTreeSet.not_mem_empty edge

theorem mem_reachable_iff (closed : dag.Closed) (node : dag.contains source) :
    target ∈ dag.reachable source ↔ Reaches dag.next source target := by
  constructor
  · intro collected
    obtain ⟨start, member, path⟩ := reaches_of_mem_collect collected
    rwa [List.mem_singleton.mp member] at path
  · intro path
    induction path with
    | refl =>
        exact mem_collect_of_visit (List.mem_singleton_self _) (contains_iff.mp node)
    | tail _ leads collected =>
        exact mem_collect_of_leads collected leads (contains_iff.mp (closed _ _ leads))

theorem closesCycle_iff (closed : dag.Closed) (node : dag.contains target) :
    dag.closesCycle source target ↔ Reaches dag.next target source := by
  rw [closesCycle, Bool.or_eq_true, decide_eq_true_eq, List.contains_iff_mem,
    mem_reachable_iff closed node]
  exact ⟨fun either => either.elim (fun same => same ▸ .refl) id, Or.inr⟩

/-- Between two nodes an edge is refused if it would close a cycle, and taken if not. -/
theorem addEdge_settles (closed : dag.Closed) (hasSource : dag.contains source)
    (hasTarget : dag.contains target) :
    (Reaches dag.next target source ∧
      dag.addEdge source target = .error (.edgeCreatesCycle source target)) ∨
    (¬ Reaches dag.next target source ∧ ∃ after, dag.addEdge source target = .ok after) := by
  unfold addEdge
  rw [hasTarget, Bool.not_true, if_neg Bool.false_ne_true]
  by_cases back : Reaches dag.next target source
  · rw [if_pos ((closesCycle_iff closed hasTarget).mpr back)]
    exact Or.inl ⟨back, rfl⟩
  · rw [if_neg (mt (closesCycle_iff closed hasTarget).mp back)]
    have present : dag.targets[source]?.isSome :=
      Std.ExtTreeMap.mem_iff_isSome_getElem?.mp (Std.ExtTreeMap.contains_iff_mem.mp hasSource)
    obtain ⟨targets, found⟩ := Option.isSome_iff_exists.mp present
    rw [found]
    exact Or.inr ⟨back, _, rfl⟩

/-- What a graph that took an edge has recorded. -/
theorem addEdge_eq_ok (added : dag.addEdge source target = .ok after) :
    dag.contains target ∧ ∃ targets, dag.targets[source]? = some targets ∧
      after = { targets := dag.targets.insert source (targets.insert target) } := by
  unfold addEdge at added
  split at added
  · cases added
  · rename_i present
    split at added
    · cases added
    · split at added
      · cases added
      · rename_i targets found
        refine ⟨?_, targets, found, (Except.ok.inj added).symm⟩
        simpa using present

theorem contains_addEdge (added : dag.addEdge source target = .ok after) :
    after.contains name ↔ dag.contains name := by
  obtain ⟨-, targets, found, rfl⟩ := addEdge_eq_ok added
  have old : source ∈ dag.targets := by
    rw [Std.ExtTreeMap.mem_iff_isSome_getElem?, found, Option.isSome_some]
  simp only [contains, Std.ExtTreeMap.contains_iff_mem, Std.ExtTreeMap.mem_insert,
    Std.compare_eq_iff_eq]
  exact ⟨fun either => either.elim (fun same => same ▸ old) id, Or.inr⟩

theorem edge_addEdge (added : dag.addEdge source target = .ok after) {first second : String} :
    after.Edge first second ↔ dag.Edge first second ∨ first = source ∧ second = target := by
  obtain ⟨-, targets, found, rfl⟩ := addEdge_eq_ok added
  simp only [Edge, Leads, next, Std.ExtTreeMap.getElem?_insert, Std.compare_eq_iff_eq]
  by_cases same : source = first
  · subst same
    simp only [↓reduceIte, Option.getD_some, found, Std.ExtTreeSet.mem_toList,
      Std.ExtTreeSet.mem_insert, Std.compare_eq_iff_eq, true_and]
    rw [or_comm, eq_comm]
  · simp only [same, ↓reduceIte, Ne.symm same, false_and, or_false]

theorem Closed.addEdge (closed : dag.Closed) (added : dag.addEdge source target = .ok after) :
    after.Closed := by
  intro first second edge
  rw [contains_addEdge added]
  rcases (edge_addEdge added).mp edge with old | ⟨-, rfl⟩
  · exact closed first second old
  · exact (addEdge_eq_ok added).1

/-- A way through a graph with one more edge goes through the old graph, or up to the
new edge and on behind it. -/
theorem reaches_addEdge (added : dag.addEdge source target = .ok after) {first last : String}
    (path : Reaches after.next first last) :
    Reaches dag.next first last ∨
      Reaches dag.next first source ∧ Reaches dag.next target last := by
  induction path with
  | refl => exact Or.inl .refl
  | tail _ leads ih =>
      rcases (edge_addEdge added).mp leads with old | ⟨rfl, rfl⟩
      · exact ih.imp (fun whole => whole.tail old) (And.imp_right fun rest => rest.tail old)
      · exact Or.inr ⟨ih.elim id And.left, .refl⟩

/-- An edge whose target does not lead to its source closes no cycle. -/
theorem Acyclic.addEdge (acyclic : dag.Acyclic) (added : dag.addEdge source target = .ok after)
    (oneWay : ¬ Reaches dag.next target source) : after.Acyclic := by
  intro name cycle
  obtain ⟨middle, leads, back⟩ := Relation.TransGen.head'_iff.mp cycle
  rcases (edge_addEdge added).mp leads with old | ⟨rfl, rfl⟩
  · rcases reaches_addEdge added back with whole | ⟨toSource, fromTarget⟩
    · exact acyclic name (.head' old whole)
    · exact oneWay (fromTarget.trans (.head old toSource))
  · exact oneWay ((reaches_addEdge added back).elim id And.right)

theorem exists_addNode (fresh : ¬ dag.contains name) : ∃ after, dag.addNode name = .ok after := by
  rw [addNode, if_neg fresh]
  exact ⟨_, rfl⟩

theorem contains_addNode (added : dag.addNode name = .ok after) {other : String} :
    after.contains other ↔ other = name ∨ dag.contains other := by
  unfold addNode at added
  split at added
  · cases added
  · rw [← Except.ok.inj added]
    simp only [contains, Std.ExtTreeMap.contains_iff_mem, Std.ExtTreeMap.mem_insert,
      Std.compare_eq_iff_eq]
    exact or_congr_left eq_comm

theorem edge_addNode (added : dag.addNode name = .ok after) :
    after.Edge source target ↔ dag.Edge source target := by
  unfold addNode at added
  split at added
  · cases added
  · rename_i fresh
    rw [← Except.ok.inj added]
    by_cases same : name = source
    · subst same
      refine ⟨fun edge => ?_, fun edge => (fresh (contains_of_edge edge)).elim⟩
      simp [Edge, Leads, next] at edge
    · simp only [Edge, Leads, next, Std.ExtTreeMap.getElem?_insert, Std.compare_eq_iff_eq, same,
        ↓reduceIte]

theorem Closed.addNode (closed : dag.Closed) (added : dag.addNode name = .ok after) :
    after.Closed := by
  intro source target edge
  rw [contains_addNode added]
  exact Or.inr (closed source target ((edge_addNode added).mp edge))

theorem Acyclic.addNode (acyclic : dag.Acyclic) (added : dag.addNode name = .ok after) :
    after.Acyclic := by
  intro other cycle
  exact acyclic other
    (Relation.TransGen.mono (fun _ _ edge => (edge_addNode added).mp edge) other other cycle)

end ContainerTasks.Graph.Dag
