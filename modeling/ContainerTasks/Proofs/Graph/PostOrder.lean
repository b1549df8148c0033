import Mathlib.Data.List.Perm.Subperm
import ContainerTasks.Graph.PostOrder
import ContainerTasks.Proofs.Graph.Reachability

/-! # Post-order walks of acyclic graphs

A walk marks a name when it comes to it and lists it when it leaves it. Names that
are marked and not listed are still open; a walk never meets one of them where the
graph has no cycles, so it leaves every name it can reach once, and after all
names that one leads to (`visit_leaves`). From an empty walk this gives the
topological order `orderFrom` (`orderFrom_leaves`), which departs from the order in
which a name leads to others only where it has to (`orderFrom_begins`).
-/

namespace ContainerTasks.Graph

variable {next : String → List String}

namespace PostOrder

/-- Every name in a list comes after all names it leads to. -/
def Ordered (next : String → List String) (order : List String) : Prop :=
  ∀ before name after, order = before ++ name :: after → ∀ target ∈ next name, target ∈ before

theorem Ordered.nil : Ordered next [] := by
  intro before name after split
  simp at split

/-- A name can be listed once all names it leads to are. -/
theorem Ordered.concat {order : List String} {name : String} (ordered : Ordered next order)
    (listed : ∀ target ∈ next name, target ∈ order) : Ordered next (order ++ [name]) := by
  intro before last after split target leads
  rcases List.eq_nil_or_concat after with rfl | ⟨init, final, rfl⟩
  · obtain ⟨rfl, same⟩ := List.append_inj' split rfl
    obtain rfl : name = last := by simpa using same
    exact listed target leads
  · rw [List.concat_eq_append, ← List.cons_append, ← List.append_assoc] at split
    exact ordered before last init (List.append_inj' split rfl).1 target leads

/-- What every walk keeps: names are listed once, after they have been marked, and
after those they lead to. -/
structure Walk.Sound (next : String → List String) (walk : Walk) : Prop where
  nodup : walk.order.Nodup
  marked : ∀ name ∈ walk.order, name ∈ walk.visited
  ordered : Ordered next walk.order

/-- A walk may go to a name: no cycle and no open name lies ahead, and all names
ahead are among `names`. -/
structure Clear (next : String → List String) (names : List String) (walk : Walk)
    (name : String) : Prop where
  acyclic : AcyclicFrom next name
  closed : ∀ reached, Reaches next name reached → reached ∈ walk.visited → reached ∈ walk.order
  inside : ∀ reached, Reaches next name reached → reached ∈ names

/-- A walk has gone on to `after` by listing names that can be reached from one of
`starts`; nothing but what it listed has been marked. -/
structure Onward (next : String → List String) (starts : List String) (walk after : Walk) :
    Prop where
  sound : after.Sound next
  listed : ∃ new, after.order = walk.order ++ new ∧
    ∀ name ∈ new, ∃ start ∈ starts, Reaches next start name
  marks : ∀ name, name ∈ after.visited ↔ name ∈ walk.visited ∨ name ∈ after.order

/-- How many of the names have not been marked. -/
def unmarked (names : List String) (walk : Walk) : Nat :=
  (names.filter fun name => name ∉ walk.visited).length

theorem unmarked_le {names : List String} {walk after : Walk}
    (grows : ∀ name ∈ walk.visited, name ∈ after.visited) :
    unmarked names after ≤ unmarked names walk := by
  refine (List.monotone_filter_right names ?_).length_le
  intro name fresh
  simp only [decide_eq_true_eq] at fresh ⊢
  exact fun old => fresh (grows name old)

/-- Marking one of the names leaves fewer unmarked. -/
theorem unmarked_mark_lt {names : List String} {walk : Walk} {name : String}
    (inside : name ∈ names) (fresh : name ∉ walk.visited) :
    unmarked names { walk with visited := name :: walk.visited } < unmarked names walk := by
  have sublist : List.Sublist
      (names.filter fun other => other ∉ name :: walk.visited)
      ((names.filter fun other => other ∉ walk.visited).filter fun other => other ≠ name) := by
    rw [List.filter_filter]
    refine List.monotone_filter_right names ?_
    intro other unseen
    simp_all
  refine Nat.lt_of_le_of_lt sublist.length_le
    (List.length_filter_lt_length_iff_exists.mpr ⟨name, ?_, by simp⟩)
  simp [inside, fresh]

namespace Onward

variable {names starts : List String} {walk middle after : Walk}

theorem refl (sound : walk.Sound next) : Onward next starts walk walk where
  sound := sound
  listed := ⟨[], by simp, by simp⟩
  marks := fun name => ⟨Or.inl, fun either => either.elim id (sound.marked name)⟩

theorem order_subset (onward : Onward next starts walk after) {name : String}
    (listed : name ∈ walk.order) : name ∈ after.order := by
  obtain ⟨new, grown, -⟩ := onward.listed
  rw [grown]
  exact List.mem_append_left _ listed

theorem visited_subset (onward : Onward next starts walk after) {name : String}
    (marked : name ∈ walk.visited) : name ∈ after.visited :=
  (onward.marks name).mpr (Or.inl marked)

theorem trans {more : List String} (first : Onward next starts walk middle)
    (second : Onward next more middle after) : Onward next (starts ++ more) walk after where
  sound := second.sound
  listed := by
    obtain ⟨new, grown, reached⟩ := first.listed
    obtain ⟨later, laterGrown, laterReached⟩ := second.listed
    refine ⟨new ++ later, by rw [laterGrown, grown, List.append_assoc], ?_⟩
    intro name member
    rcases List.mem_append.mp member with member | member
    · obtain ⟨start, present, path⟩ := reached name member
      exact ⟨start, List.mem_append_left _ present, path⟩
    · obtain ⟨start, present, path⟩ := laterReached name member
      exact ⟨start, List.mem_append_right _ present, path⟩
  marks := by
    intro name
    rw [second.marks, first.marks, or_assoc]
    exact or_congr_right ⟨fun either => either.elim second.order_subset id, Or.inr⟩

/-- What may be visited before other names were may be visited after them. -/
theorem clear {name : String} (onward : Onward next starts walk after)
    (clear : Clear next names walk name) : Clear next names after name where
  acyclic := clear.acyclic
  inside := clear.inside
  closed := by
    intro reached path marked
    rcases (onward.marks reached).mp marked with old | listed
    · exact onward.order_subset (clear.closed reached path old)
    · exact listed

end Onward

/-- One after another, names that may all be visited are all listed, provided each
visit lists its own. -/
theorem foldl_leaves {names : List String} {fuel : Nat}
    (leaves : ∀ walk name, walk.Sound next → Clear next names walk name →
      unmarked names walk < fuel →
      Onward next [name] walk (visit next fuel walk name) ∧
        name ∈ (visit next fuel walk name).order) :
    ∀ (starts : List String) (walk : Walk), walk.Sound next →
      (∀ name ∈ starts, Clear next names walk name) → unmarked names walk < fuel →
      Onward next starts walk (starts.foldl (visit next fuel) walk) ∧
        ∀ name ∈ starts, name ∈ (starts.foldl (visit next fuel) walk).order := by
  intro starts
  induction starts with
  | nil =>
      intro walk sound _ _
      exact ⟨.refl sound, by simp⟩
  | cons start rest ih =>
      intro walk sound clear enough
      obtain ⟨first, startListed⟩ := leaves walk start sound (clear start List.mem_cons_self) enough
      have stillEnough : unmarked names (visit next fuel walk start) < fuel :=
        Nat.lt_of_le_of_lt (unmarked_le fun _ => first.visited_subset) enough
      obtain ⟨others, othersListed⟩ := ih (visit next fuel walk start) first.sound
        (fun name member => first.clear (clear name (List.mem_cons_of_mem _ member))) stillEnough
      refine ⟨first.trans others, ?_⟩
      intro name member
      rcases List.mem_cons.mp member with rfl | member
      · exact others.order_subset startListed
      · exact othersListed name member

/-- Marking a name that may be visited clears the way to the names it leads to. -/
theorem Clear.target {names : List String} {walk : Walk} {name target : String}
    (clear : Clear next names walk name) (leads : Leads next name target) :
    Clear next names { walk with visited := name :: walk.visited } target where
  acyclic := clear.acyclic.target leads
  inside := fun reached path => clear.inside reached (.head leads path)
  closed := by
    intro reached path marked
    rcases List.mem_cons.mp marked with rfl | old
    · exact (clear.acyclic.not_reaches leads path).elim
    · exact clear.closed reached (.head leads path) old

/-- A fresh name is listed behind all that its visit lists before it. -/
theorem Onward.close {names : List String} {walk inner : Walk} {name : String}
    (clear : Clear next names walk name) (sound : walk.Sound next) (fresh : name ∉ walk.visited)
    (onward : Onward next (next name) { walk with visited := name :: walk.visited } inner)
    (listed : ∀ target ∈ next name, target ∈ inner.order) :
    Onward next [name] walk { inner with order := inner.order ++ [name] } := by
  obtain ⟨new, grown, reached⟩ := onward.listed
  simp only at grown
  have unlisted : name ∉ inner.order := by
    rw [grown]
    intro member
    rcases List.mem_append.mp member with old | member
    · exact fresh (sound.marked name old)
    · obtain ⟨target, leads, path⟩ := reached name member
      exact clear.acyclic.not_reaches leads path
  refine ⟨⟨?_, ?_, onward.sound.ordered.concat listed⟩, ⟨new ++ [name], ?_, ?_⟩, ?_⟩
  · exact List.nodup_append.mpr ⟨onward.sound.nodup, List.pairwise_singleton _ name, by
      intro other member last final same
      rw [List.mem_singleton.mp final] at same
      exact unlisted (same ▸ member)⟩
  · intro other member
    rcases List.mem_append.mp member with member | member
    · exact onward.sound.marked other member
    · rw [List.mem_singleton.mp member]
      exact onward.visited_subset List.mem_cons_self
  · rw [grown, List.append_assoc]
  · intro other member
    refine ⟨name, List.mem_singleton_self name, ?_⟩
    rcases List.mem_append.mp member with member | member
    · obtain ⟨target, leads, path⟩ := reached other member
      exact .head leads path
    · rw [List.mem_singleton.mp member]
  · intro other
    rw [onward.marks, List.mem_append, List.mem_singleton, List.mem_cons]
    tauto

/-- **A visit leaves its name.** From a name that may be visited a walk goes on by
listing names that can be reached from it, at last the name itself. -/
theorem visit_leaves {names : List String} :
    ∀ (fuel : Nat) (walk : Walk) (name : String), walk.Sound next →
      Clear next names walk name → unmarked names walk < fuel →
      Onward next [name] walk (visit next fuel walk name) ∧
        name ∈ (visit next fuel walk name).order := by
  intro fuel
  induction fuel with
  | zero =>
      intro walk name _ _ enough
      exact (Nat.not_lt_zero _ enough).elim
  | succ fuel ih =>
      intro walk name sound clear enough
      by_cases marked : name ∈ walk.visited
      · have unchanged : visit next (fuel + 1) walk name = walk := by
          simp only [visit, List.contains_eq_mem, marked, decide_true, ↓reduceIte]
        rw [unchanged]
        exact ⟨.refl sound, clear.closed name .refl marked⟩
      -- Marking the name uses up fuel and one of the names that were left.
      · have marking : Walk.Sound next { walk with visited := name :: walk.visited } :=
          ⟨sound.nodup, fun other member => List.mem_cons_of_mem _ (sound.marked other member),
            sound.ordered⟩
        have fewer := unmarked_mark_lt (clear.inside name .refl) marked
        obtain ⟨inner, listed⟩ := foldl_leaves ih (next name) _ marking
          (fun target leads => clear.target leads) (by omega)
        simp only [visit, List.contains_eq_mem, marked, decide_false, Bool.false_eq_true,
          ↓reduceIte]
        exact ⟨inner.close clear sound marked listed, by simp⟩

/-- **The topological order.** Where no cycle can be reached from a name and all
that can be reached is among `names`, the order from it lists what can be reached,
each name once and after those it leads to, and the name itself last. -/
theorem orderFrom_leaves {names : List String} {fuel : Nat} {name : String}
    (acyclic : AcyclicFrom next name)
    (inside : ∀ reached, Reaches next name reached → reached ∈ names)
    (enough : names.length < fuel) :
    (orderFrom next fuel name).Nodup ∧
      (∀ other, other ∈ orderFrom next fuel name ↔ Reaches next name other) ∧
      Ordered next (orderFrom next fuel name) ∧
      (orderFrom next fuel name).getLast? = some name := by
  have start : Walk.Sound next {} := ⟨List.nodup_nil, by simp, .nil⟩
  have clear : Clear next names {} name := ⟨acyclic, by simp, inside⟩
  have fewer : unmarked names {} < fuel :=
    Nat.lt_of_le_of_lt (List.length_filter_le _ _) enough
  obtain ⟨onward, listed⟩ := visit_leaves fuel {} name start clear fewer
  have closed : ∀ other, Reaches next name other → other ∈ orderFrom next fuel name := by
    intro other path
    induction path with
    | refl => exact listed
    | tail _ leads member =>
        obtain ⟨before, after, split⟩ := List.append_of_mem member
        have earlier := onward.sound.ordered before _ after split _ leads
        rw [split]
        exact List.mem_append_left _ earlier
  refine ⟨onward.sound.nodup, fun other => ⟨?_, closed other⟩, onward.sound.ordered, ?_⟩
  · intro member
    obtain ⟨new, grown, reached⟩ := onward.listed
    obtain ⟨start, same, path⟩ := reached other (by simpa [orderFrom, grown] using member)
    rwa [List.mem_singleton.mp same] at path
  · cases fuel with
    | zero => exact (Nat.not_lt_zero _ enough).elim
    | succ fuel => simp [orderFrom, visit]

/-- **The declared order.** The order from a name begins with what can be reached from the
first names it leads to, however many of them are taken. -/
theorem orderFrom_begins {names firsts rest : List String} {fuel : Nat} {name : String}
    (acyclic : AcyclicFrom next name)
    (inside : ∀ reached, Reaches next name reached → reached ∈ names)
    (enough : names.length < fuel) (split : next name = firsts ++ rest) :
    ∃ listed later, orderFrom next fuel name = listed ++ later ∧
      (∀ first ∈ firsts, first ∈ listed) ∧
      ∀ other ∈ listed, ∃ first ∈ firsts, Reaches next first other := by
  cases fuel with
  | zero => exact (Nat.not_lt_zero _ enough).elim
  | succ fuel =>
      have clear : Clear next names {} name := ⟨acyclic, by simp, inside⟩
      have marking : Walk.Sound next { visited := [name] } := ⟨List.nodup_nil, by simp, .nil⟩
      have fewer : unmarked names { visited := [name] } < fuel := by
        have marked : unmarked names { visited := [name] } < unmarked names {} :=
          @unmarked_mark_lt names {} name (inside name .refl) List.not_mem_nil
        have all : unmarked names {} ≤ names.length := List.length_filter_le _ _
        omega
      have ahead : ∀ target ∈ firsts ++ rest, Clear next names { visited := [name] } target :=
        fun target member => clear.target (show target ∈ next name from split ▸ member)
      obtain ⟨first, firstListed⟩ := foldl_leaves (visit_leaves fuel) firsts _ marking
        (fun target member => ahead target (List.mem_append_left _ member)) fewer
      obtain ⟨second, -⟩ := foldl_leaves (visit_leaves fuel) rest _ first.sound
        (fun target member => first.clear (ahead target (List.mem_append_right _ member)))
        (Nat.lt_of_le_of_lt (unmarked_le fun _ => first.visited_subset) fewer)
      obtain ⟨later, grown, -⟩ := second.listed
      obtain ⟨listed, only, reached⟩ := first.listed
      refine ⟨listed, later ++ [name], ?_, ?_, reached⟩
      · rw [List.nil_append] at only
        simp only [orderFrom, visit, List.contains_nil, Bool.false_eq_true, ↓reduceIte, split,
          List.foldl_append]
        rw [grown, only, List.append_assoc]
      · intro target member
        simpa [only] using firstListed target member

end PostOrder

end ContainerTasks.Graph
