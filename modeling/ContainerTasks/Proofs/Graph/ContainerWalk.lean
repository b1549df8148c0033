import Mathlib.Data.List.Perm.Subperm
import ContainerTasks.Graph.ContainerGraph
import ContainerTasks.Proofs.Graph.Reachability
import ContainerTasks.Proofs.Outcome

/-! # The walk that collects the containers of a task

The walk goes along a trail of containers from the main one and records what each
depends on. Recorded containers that are off the trail are finished: all they depend
on is recorded and off the trail as well, and every way from them ends. An error of
the walk is either a cycle through its trail or a container that does not exist
(`visit_settles`). The trail has no room for more names than there are containers,
so the walk is never cut short.
-/

namespace ContainerTasks.ContainerGraph

open Project ContainerTasks.Graph

/-- What a container says it depends on. -/
def declared (project : Project) (container : String) : NameSet :=
  (project.container? container).elim ∅ Container.dependencies

/-- What each container depends on if the main one depends on `own`. -/
def needs (project : Project) (main : String) (own : NameSet) (container : String) : NameSet :=
  if container = main then own else declared project container

/-- What each container leads to if the main one depends on `own`. -/
abbrev steps (project : Project) (main : String) (own : NameSet) (container : String) :
    List String :=
  (needs project main own container).toList

variable {project : Project} {main : String} {own : NameSet}

@[simp]
theorem needs_main : needs project main own main = own := by
  simp only [needs, ↓reduceIte]

theorem needs_of_ne {name : String} {container : Container} (other : name ≠ main)
    (found : project.container? name = some container) :
    needs project main own name = container.dependencies := by
  simp only [needs, other, ↓reduceIte, declared, found, Option.elim_some]

/-- The way a walk has come: distinct containers from the main one on, each leading
to the next. -/
structure Trail (project : Project) (main : String) (own : NameSet) (path : List String) :
    Prop where
  chain : path.IsChain (Leads (steps project main own))
  nodup : path.Nodup
  start : path.head? = some main
  reached : ∀ name ∈ path, Reaches (steps project main own) main name
  known : ∀ name ∈ path, name = main ∨ name ∈ project.containers.keys

theorem container?_isSome_iff {name : String} :
    (project.container? name).isSome ↔ name ∈ project.containers.keys := by
  rw [Std.ExtTreeMap.mem_keys, Std.ExtTreeMap.mem_iff_isSome_getElem?]
  rfl

namespace Trail

variable {path : List String}

/-- The trail that stands at the main container. -/
theorem begin : Trail project main own [main] where
  chain := .singleton _
  nodup := List.pairwise_singleton _ _
  start := rfl
  reached := by
    intro name member
    rw [List.mem_singleton.mp member]
  known := fun name member => Or.inl (List.mem_singleton.mp member)

/-- A trail goes on to a container that the last one leads to. -/
theorem concat {last name : String} (trail : Trail project main own (path ++ [last]))
    (leads : Leads (steps project main own) last name) (fresh : name ∉ path ++ [last])
    (known : (project.container? name).isSome) :
    Trail project main own (path ++ [last] ++ [name]) where
  chain := by
    refine trail.chain.append (.singleton name) ?_
    intro before member after final
    simp only [List.getLast?_concat, Option.mem_some_iff] at member
    simp only [List.head?_cons, Option.mem_some_iff] at final
    exact member ▸ final ▸ leads
  nodup := by
    refine List.nodup_append.mpr ⟨trail.nodup, List.pairwise_singleton _ _, ?_⟩
    intro other member final single same
    rw [List.mem_singleton.mp single] at same
    exact fresh (same ▸ member)
  start := by
    rw [List.head?_append, trail.start]
    rfl
  reached := by
    intro other member
    rcases List.mem_append.mp member with member | member
    · exact trail.reached other member
    · rw [List.mem_singleton.mp member]
      exact .tail (trail.reached last (by simp)) leads
  known := by
    intro other member
    rcases List.mem_append.mp member with member | member
    · exact trail.known other member
    · rw [List.mem_singleton.mp member]
      exact Or.inr (container?_isSome_iff.mp known)

/-- Behind the main container a trail holds distinct containers of the project. -/
theorem length_le (trail : Trail project main own path) :
    path.length ≤ project.containers.size + 1 := by
  have nodup := trail.nodup
  have known := trail.known
  have start := trail.start
  cases path with
  | nil => simp
  | cons first rest =>
      obtain rfl : first = _ := Option.some.inj start
      rw [List.nodup_cons] at nodup
      have inside : rest ⊆ project.containers.keys := by
        intro name member
        rcases known name (List.mem_cons_of_mem _ member) with rfl | key
        · exact (nodup.1 member).elim
        · exact key
      have bound := (List.subperm_of_subset nodup.2 inside).length_le
      rw [Std.ExtTreeMap.length_keys] at bound
      simpa using bound

end Trail

/-- What may be wrong with the containers that can be reached: a cycle, or a
container that does not exist. -/
inductive Fault (project : Project) (main : String) (own : NameSet) : Graph.Error → Prop
  | cycle {first : String} {rest : List String}
      (chain : (first :: rest ++ [first]).IsChain (Leads (steps project main own)))
      (nodup : (first :: rest).Nodup)
      (reached : Reaches (steps project main own) main first) :
      Fault project main own (.dependencyCycle (first :: rest ++ [first]))
  | unknown {name referrer : String} (missing : project.container? name = none)
      (leads : Leads (steps project main own) referrer name)
      (reached : Reaches (steps project main own) main referrer) :
      Fault project main own (.unknownContainer name (.container referrer))

/-- A step back onto the trail closes a cycle. -/
theorem Trail.fault {path : List String} {last name : String}
    (trail : Trail project main own (path ++ [last]))
    (leads : Leads (steps project main own) last name) (member : name ∈ path ++ [last]) :
    Fault project main own
      (.dependencyCycle ((path ++ [last]).dropWhile (· != name) ++ [name])) := by
  obtain ⟨before, after, split, earliest⟩ := List.eq_append_cons_of_mem member
  have suffix : (path ++ [last]).dropWhile (· != name) = name :: after := by
    rw [split, List.dropWhile_append_of_pos, List.dropWhile_cons_of_neg (by simp)]
    intro other earlier
    exact bne_iff_ne.mpr fun same => earliest (same ▸ earlier)
  have final : (name :: after).getLast? = some last := by
    have ending := congrArg List.getLast? split
    rwa [List.getLast?_concat, List.getLast?_append_of_ne_nil _ (by simp), eq_comm] at ending
  rw [suffix]
  refine .cycle ?_ ?_ (trail.reached name member)
  · have chain : (name :: after).IsChain (Leads (steps project main own)) :=
      trail.chain.suffix ⟨before, split.symm⟩
    refine chain.append (.singleton name) ?_
    intro source ends target starts
    rw [final, Option.mem_some_iff] at ends
    simp only [List.head?_cons, Option.mem_some_iff] at starts
    exact ends ▸ starts ▸ leads
  · exact (List.IsSuffix.sublist ⟨before, split.symm⟩).nodup trail.nodup

/-- What the walk has recorded: what each container depends on, for containers that
can be reached; whatever is off the trail is finished. -/
structure Explored (project : Project) (main : String) (own : NameSet) (path : List String)
    (adjacency : Std.ExtTreeMap String NameSet) : Prop where
  recorded : ∀ name ∈ adjacency, adjacency[name]? = some (needs project main own name)
  reached : ∀ name ∈ adjacency, Reaches (steps project main own) main name
  known : ∀ name ∈ adjacency, name = main ∨ (project.container? name).isSome
  closed : ∀ name ∈ adjacency, name ∉ path → ∀ target, Leads (steps project main own) name target →
    target ∈ adjacency ∧ target ∉ path
  ends : ∀ name ∈ adjacency, name ∉ path →
    Acc (fun target name => Leads (steps project main own) name target) name

namespace Explored

variable {path : List String} {adjacency : Std.ExtTreeMap String NameSet} {container : String}

theorem empty : Explored project main own [] ∅ := by
  constructor <;> simp

/-- Recording the last container of the trail. -/
theorem insert (explored : Explored project main own path adjacency)
    (trail : Trail project main own (path ++ [container])) (fresh : container ∉ adjacency) :
    Explored project main own (path ++ [container])
      (adjacency.insert container (needs project main own container)) := by
  have either : ∀ name ∈ adjacency.insert container (needs project main own container),
      name = container ∨ name ∈ adjacency := by
    intro name member
    rw [Std.ExtTreeMap.mem_insert, Std.compare_eq_iff_eq] at member
    exact member.imp_left Eq.symm
  have before : ∀ name ∈ adjacency.insert container (needs project main own container),
      name ∉ path ++ [container] → name ∈ adjacency ∧ name ∉ path := by
    intro name member off
    rw [List.mem_append, List.mem_singleton, not_or] at off
    exact ⟨(either name member).resolve_left off.2, off.1⟩
  refine ⟨?_, ?_, ?_, ?_, ?_⟩
  · intro name member
    rcases either name member with rfl | old
    · exact Std.ExtTreeMap.getElem?_insert_self
    · have other : container ≠ name := fun same => fresh (same ▸ old)
      rw [Std.ExtTreeMap.getElem?_insert, explored.recorded name old]
      simp only [Std.compare_eq_iff_eq, other, ↓reduceIte]
  · intro name member
    rcases either name member with rfl | old
    · exact trail.reached name (by simp)
    · exact explored.reached name old
  · intro name member
    rcases either name member with rfl | old
    · rw [container?_isSome_iff]
      exact trail.known name (by simp)
    · exact explored.known name old
  · intro name member off target leads
    obtain ⟨old, offPath⟩ := before name member off
    obtain ⟨targetOld, targetOff⟩ := explored.closed name old offPath target leads
    refine ⟨Std.ExtTreeMap.mem_insert.mpr (Or.inr targetOld), ?_⟩
    rw [List.mem_append, List.mem_singleton, not_or]
    exact ⟨targetOff, fun same => fresh (same ▸ targetOld)⟩
  · intro name member off
    obtain ⟨old, offPath⟩ := before name member off
    exact explored.ends name old offPath

/-- The last container of the trail is finished once all it depends on is. -/
theorem finish (explored : Explored project main own (path ++ [container]) adjacency)
    (targets : ∀ target, Leads (steps project main own) container target →
      target ∈ adjacency ∧ target ∉ path ++ [container]) :
    Explored project main own path adjacency where
  recorded := explored.recorded
  reached := explored.reached
  known := explored.known
  closed := by
    intro name member off target leads
    have target : target ∈ adjacency ∧ target ∉ path ++ [container] := by
      by_cases same : name = container
      · exact targets target (same ▸ leads)
      · exact explored.closed name member (by simp [off, same]) target leads
    exact ⟨target.1, fun onPath => target.2 (List.mem_append_left _ onPath)⟩
  ends := by
    intro name member off
    by_cases same : name = container
    · refine .intro name fun target leads => ?_
      obtain ⟨targetMember, targetOff⟩ := targets target (same ▸ leads)
      exact explored.ends target targetMember targetOff
    · exact explored.ends name member (by simp [off, same])

end Explored

/-- What the walk reaches by going on to a container: it and all it leads to are
finished, and nothing recorded is lost. -/
structure Finished (project : Project) (main : String) (own : NameSet) (path : List String)
    (container : String) (before after : Std.ExtTreeMap String NameSet) : Prop where
  explored : Explored project main own path after
  member : container ∈ after
  kept : ∀ name ∈ before, name ∈ after

/-- One step of the walk: what it does about a container that the last one of the
trail depends on. -/
def follow (project : Project) (fuel : Nat) (trail : List String) (last : String)
    (adjacency : Std.ExtTreeMap String NameSet) (dependency : String) :
    Except Graph.Error (Std.ExtTreeMap String NameSet) :=
  if trail.contains dependency then
    .error (.dependencyCycle (trail.dropWhile (· != dependency) ++ [dependency]))
  else if adjacency.contains dependency then .ok adjacency
  else
    match project.container? dependency with
    | none => .error (.unknownContainer dependency (.container last))
    | some found => visit project fuel trail dependency found.dependencies adjacency

theorem visit_succ (project : Project) (fuel : Nat) (path : List String) (container : String)
    (dependencies : NameSet) (adjacency : Std.ExtTreeMap String NameSet) :
    visit project (fuel + 1) path container dependencies adjacency =
      dependencies.toList.foldlM (follow project fuel (path ++ [container]) container)
        (adjacency.insert container dependencies) :=
  rfl

/-- A step of the walk finishes the container it leads to, or ends in an error. -/
theorem follow_settles {fuel : Nat} {path : List String} {last dependency : String}
    {adjacency : Std.ExtTreeMap String NameSet}
    (visits : Trail project main own (path ++ [last] ++ [dependency]) →
      dependency ∉ adjacency →
      Settles (Finished project main own (path ++ [last]) dependency adjacency)
        (Fault project main own)
        (visit project fuel (path ++ [last]) dependency (needs project main own dependency)
          adjacency))
    (trail : Trail project main own (path ++ [last]))
    (explored : Explored project main own (path ++ [last]) adjacency)
    (leads : Leads (steps project main own) last dependency) :
    Settles
      (fun after => Finished project main own (path ++ [last]) dependency adjacency after ∧
        dependency ∉ path ++ [last])
      (Fault project main own)
      (follow project fuel (path ++ [last]) last adjacency dependency) := by
  unfold follow
  by_cases onTrail : dependency ∈ path ++ [last]
  · rw [if_pos (List.contains_iff_mem.mpr onTrail)]
    exact trail.fault leads onTrail
  · rw [if_neg (mt List.contains_iff_mem.mp onTrail)]
    by_cases old : dependency ∈ adjacency
    · rw [if_pos (Std.ExtTreeMap.contains_iff_mem.mpr old)]
      exact ⟨⟨explored, old, fun _ => id⟩, onTrail⟩
    · rw [if_neg (mt Std.ExtTreeMap.contains_iff_mem.mp old)]
      cases found : project.container? dependency with
      | none => exact .unknown found leads (trail.reached last (by simp))
      | some container =>
          have other : dependency ≠ main := by
            rintro rfl
            exact onTrail (List.mem_of_mem_head? trail.start)
          have known : (project.container? dependency).isSome := by
            rw [found, Option.isSome_some]
          have visited := visits (trail.concat leads onTrail known) old
          rw [needs_of_ne other found] at visited
          exact visited.mono fun after finished => ⟨finished, onTrail⟩

/-- **The walk.** Going on to a container that has not been recorded finishes it, or
ends in an error about a cycle or a container that is not there. -/
theorem visit_settles : ∀ (fuel : Nat) (path : List String) (container : String)
    (adjacency : Std.ExtTreeMap String NameSet),
    Trail project main own (path ++ [container]) → container ∉ adjacency →
    Explored project main own path adjacency →
    project.containers.size + 1 ≤ fuel + path.length →
    Settles (Finished project main own path container adjacency) (Fault project main own)
      (visit project fuel path container (needs project main own container) adjacency) := by
  intro fuel
  induction fuel with
  | zero =>
      intro path container adjacency trail _ _ enough
      have room := trail.length_le
      rw [List.length_append, List.length_singleton] at room
      omega
  | succ fuel ih =>
      intro path container adjacency trail fresh explored enough
      rw [visit_succ]
      -- Of the containers dealt with so far each is finished while the last one is not.
      refine Settles.mono (Settles.foldlM
        (fun done state =>
          Finished project main own (path ++ [container]) container adjacency state ∧
          ∀ target ∈ done, target ∈ state ∧ target ∉ path ++ [container])
        (steps project main own container) [] _ ?_ ?_) ?_
      · refine ⟨⟨explored.insert trail fresh, Std.ExtTreeMap.mem_insert_self, ?_⟩, by simp⟩
        exact fun name member => Std.ExtTreeMap.mem_insert.mpr (Or.inr member)
      · intro done dependency state leads ⟨finished, targets⟩
        refine Settles.mono (follow_settles ?_ trail finished.explored leads) ?_
        · intro longer new
          refine ih (path ++ [container]) dependency state longer new finished.explored ?_
          rw [List.length_append, List.length_singleton]
          omega
        · intro after ⟨next, off⟩
          refine ⟨⟨next.explored, next.kept container finished.member,
            fun name member => next.kept name (finished.kept name member)⟩, ?_⟩
          intro target member
          rcases List.mem_append.mp member with member | member
          · exact ⟨next.kept target (targets target member).1, (targets target member).2⟩
          · rw [List.mem_singleton.mp member]
            exact ⟨next.member, off⟩
      · intro after ⟨finished, targets⟩
        exact ⟨finished.explored.finish targets, finished.member, finished.kept⟩

end ContainerTasks.ContainerGraph
