import Mathlib.Data.List.Chain

/-! # Reachability between names

A graph is given by the names each name leads to. Cycles matter only where they can
be reached from a name (`AcyclicFrom`): a chain that closes is one, and a name from
which every way ends has none ahead.
-/

namespace ContainerTasks.Graph

/-- A name leads directly to another one. -/
def Leads (next : String → List String) (name target : String) : Prop :=
  target ∈ next name

/-- A name leads to another one in any number of steps. -/
abbrev Reaches (next : String → List String) : String → String → Prop :=
  Relation.ReflTransGen (Leads next)

/-- No name that can be reached from `name` leads back to itself. -/
def AcyclicFrom (next : String → List String) (name : String) : Prop :=
  ∀ reached, Reaches next name reached → ¬ Relation.TransGen (Leads next) reached reached

variable {next : String → List String}

theorem AcyclicFrom.target {name target : String} (acyclic : AcyclicFrom next name)
    (leads : Leads next name target) : AcyclicFrom next target :=
  fun reached path => acyclic reached (.head leads path)

/-- Without cycles there is no way back from where a name leads to. -/
theorem AcyclicFrom.not_reaches {name target : String} (acyclic : AcyclicFrom next name)
    (leads : Leads next name target) : ¬ Reaches next target name :=
  fun back => acyclic name .refl (.head' leads back)

/-- A chain of names that ends where it began is a cycle. -/
theorem cycle_of_isChain {first : String} {rest : List String}
    (chain : (first :: rest ++ [first]).IsChain (Leads next)) :
    Relation.TransGen (Leads next) first first := by
  rw [List.cons_append] at chain
  cases rest with
  | nil => exact .single chain.rel
  | cons second rest =>
      refine .head' chain.rel ?_
      exact List.relationReflTransGen_of_exists_isChain_cons _ chain.tail (by simp)

/-- If every way from a name ends, no cycle can be reached from it. -/
theorem AcyclicFrom.of_acc {name : String}
    (ends : Acc (fun target name => Leads next name target) name) : AcyclicFrom next name := by
  induction ends with
  | intro name _ ih =>
      intro reached path
      rcases Relation.ReflTransGen.cases_head path with rfl | ⟨target, leads, path⟩
      · intro cycle
        obtain ⟨target, leads, back⟩ := Relation.TransGen.head'_iff.mp cycle
        exact ih target leads target .refl (.tail' back leads)
      · exact ih target leads reached path

end ContainerTasks.Graph
