import Mathlib.Data.List.Induction
import ContainerTasks.Tree

/-! # Trees laid over each other

Laying tables over each other lays the values of each name over each other and leaves the
other names alone (`given_foldl_overlay`). Of values laid over each other the last one counts,
up to the entries of tables (`outcome_merged`). Hence what trees make of a name in a section is
the last value that any of them gives to it, as long as the section is a table in all of them
(`outcome_within_overlay`).
-/

namespace ContainerTasks.Tree

/-- The values that entries give to a name, in their order. -/
def valuesOf (name : String) (entries : List (String × Tree)) : List Tree :=
  (entries.filter (·.1 = name)).map Prod.snd

/-- The values that a table gives to a name. Other trees give none. -/
def given (name : String) : Tree → List Tree
  | table entries => valuesOf name entries
  | _ => []

/-- The values that a tree gives to a name in a section. -/
def within (sectionName name : String) (tree : Tree) : List Tree :=
  (tree.given sectionName).flatMap (given name)

/-- A tree is a table. -/
def IsTable (tree : Tree) : Prop :=
  tree.table?.isSome = true

instance (tree : Tree) : Decidable tree.IsTable :=
  inferInstanceAs (Decidable (tree.table?.isSome = true))

theorem isTable_table (entries : List (String × Tree)) : (table entries).IsTable :=
  rfl

theorem IsTable.exists {tree : Tree} (isTable : tree.IsTable) :
    ∃ entries, tree = table entries := by
  cases tree with
  | table entries => exact ⟨entries, rfl⟩
  | null | bool | integer | real | text | list => cases isTable

section Values

variable (name : String)

theorem valuesOf_cons (entry : String × Tree) (entries : List (String × Tree)) :
    valuesOf name (entry :: entries) =
      if entry.1 = name then entry.2 :: valuesOf name entries else valuesOf name entries := by
  unfold valuesOf
  by_cases here : entry.1 = name
  · simp only [List.filter_cons, here, decide_true, ↓reduceIte, List.map_cons]
  · simp only [List.filter_cons, here, decide_false, Bool.false_eq_true, ↓reduceIte]

/-- Looking up a name finds the first value given to it. -/
theorem lookup_eq_head? (entries : List (String × Tree)) :
    entries.lookup name = (valuesOf name entries).head? := by
  induction entries with
  | nil => rfl
  | cons entry entries ih =>
      rw [valuesOf_cons, List.lookup_cons]
      by_cases here : entry.1 = name
      · rw [if_pos here, here, beq_self_eq_true, List.head?_cons]
      · rw [if_neg here, beq_false_of_ne (Ne.symm here)]
        exact ih

/-- Dropping the entries of another name leaves the values. -/
theorem valuesOf_filter (other : String) (entries : List (String × Tree)) :
    valuesOf name (entries.filter (·.1 != other)) =
      if other = name then [] else valuesOf name entries := by
  unfold valuesOf
  rw [List.filter_filter]
  split
  · rename_i same
    simp [same]
  · rename_i differ
    congr 1
    refine List.filter_congr fun entry _ => ?_
    by_cases here : entry.1 = name
    · simp [here, Ne.symm differ]
    · simp [here]

end Values

section Merged

/-- A value laid over one that may be missing. -/
def laid (earlier : Option Tree) (later : Tree) : Tree :=
  earlier.elim later (overlay · later)

/-- What becomes of the values given to a name when others are laid over them. -/
def merged (values later : List Tree) : List Tree :=
  later.foldl (fun values value => [laid values.head? value]) values

@[simp]
theorem merged_nil (values : List Tree) : merged values [] = values :=
  rfl

theorem merged_cons (values later : List Tree) (value : Tree) :
    merged values (value :: later) = merged [laid values.head? value] later :=
  rfl

theorem merged_append (values middle later : List Tree) :
    merged values (middle ++ later) = merged (merged values middle) later :=
  List.foldl_append

theorem merged_singleton (value : Tree) (later : List Tree) :
    merged [value] later = [later.foldl overlay value] := by
  induction later generalizing value with
  | nil => rfl
  | cons next later ih => exact ih (overlay value next)

/-- A tree of which only the kind counts if it is a table. -/
def bare : Tree → Tree
  | table _ => table []
  | tree => tree

theorem bare_overlay (earlier later : Tree) : (overlay earlier later).bare = later.bare := by
  cases later with
  | table entries => cases earlier <;> simp [overlay, bare]
  | null | bool | integer | real | text | list => simp [overlay]

theorem bare_laid (earlier : Option Tree) (later : Tree) :
    (laid earlier later).bare = later.bare := by
  cases earlier with
  | none => rfl
  | some earlier => exact bare_overlay earlier later

theorem isTable_bare {tree : Tree} : tree.bare.IsTable ↔ tree.IsTable := by
  cases tree <;> exact Iff.rfl

/-- What is no table is told apart from all other trees. -/
theorem eq_of_bare {value other : Tree} (plain : ¬ value.IsTable)
    (same : other.bare = value.bare) : other = value := by
  cases value with
  | table entries => exact (plain (isTable_table entries)).elim
  | null | bool | integer | real | text | list =>
      cases other with
      | table => cases same
      | null | bool | integer | real | text | list => exact same

theorem isTable_laid {earlier : Option Tree} {later : Tree} :
    (laid earlier later).IsTable ↔ later.IsTable := by
  rw [← isTable_bare, bare_laid, isTable_bare]

theorem isTable_of_mem_merged {values later : List Tree}
    (tables : ∀ value ∈ values ++ later, value.IsTable) :
    ∀ value ∈ merged values later, value.IsTable := by
  cases later using List.reverseRecOn with
  | nil =>
      intro value member
      exact tables value (List.mem_append_left _ member)
  | append_singleton later last =>
      rw [merged_append, merged_cons, merged_nil, List.forall_mem_singleton, isTable_laid]
      exact tables last (by simp)

/-- The last of some values, without the entries if it is a table. -/
def outcome (values : List Tree) : Option Tree :=
  values.getLast?.map bare

theorem outcome_append (values more : List Tree) :
    outcome (values ++ more) = (outcome more).or (outcome values) := by
  rw [outcome, List.getLast?_append, Option.map_or]
  rfl

/-- Of values laid over each other the last one counts. -/
theorem outcome_merged (values later : List Tree) :
    outcome (merged values later) = outcome (values ++ later) := by
  induction later using List.reverseRecOn with
  | nil => rw [merged_nil, List.append_nil]
  | append_singleton later value _ =>
      rw [merged_append, merged_cons, merged_nil, ← List.append_assoc, outcome_append]
      simp only [outcome, List.getLast?_singleton, Option.map_some, bare_laid, Option.some_or]

end Merged

section Overlay

theorem overlay_table (base entries : List (String × Tree)) :
    overlay (table base) (table entries) = table (overlayAll base entries) := by
  rw [overlay]

/-- Laying entries over others lays the values of each name over each other. -/
theorem valuesOf_overlayAll (name : String) (base entries : List (String × Tree)) :
    valuesOf name (overlayAll base entries) =
      merged (valuesOf name base) (valuesOf name entries) := by
  induction entries generalizing base with
  | nil =>
      rw [overlayAll]
      rfl
  | cons entry entries ih =>
      obtain ⟨other, value⟩ := entry
      rw [overlayAll, ih, valuesOf_cons, valuesOf_cons, valuesOf_filter]
      by_cases here : other = name
      · subst here
        rw [if_pos rfl, if_pos rfl, if_pos rfl, merged_cons, ← lookup_eq_head?]
        cases base.lookup other <;> rfl
      · rw [if_neg here, if_neg here, if_neg here]

variable {base : Tree} {later : List Tree}

theorem IsTable.foldl_overlay (isTable : base.IsTable) (tables : ∀ tree ∈ later, tree.IsTable) :
    (later.foldl overlay base).IsTable := by
  induction later generalizing base with
  | nil => exact isTable
  | cons tree later ih =>
      obtain ⟨old, rfl⟩ := isTable.exists
      obtain ⟨new, rfl⟩ := (tables tree List.mem_cons_self).exists
      rw [List.foldl_cons, overlay_table]
      exact ih (isTable_table _) fun other member => tables other (List.mem_cons_of_mem _ member)

/-- **Names.** Tables laid over each other lay the values of each name over each other. -/
theorem given_foldl_overlay (name : String) (isTable : base.IsTable)
    (tables : ∀ tree ∈ later, tree.IsTable) :
    (later.foldl overlay base).given name = merged (base.given name) (later.flatMap (given name)) := by
  induction later generalizing base with
  | nil => rw [List.foldl_nil, List.flatMap_nil, merged_nil]
  | cons tree later ih =>
      obtain ⟨old, rfl⟩ := isTable.exists
      obtain ⟨new, rfl⟩ := (tables tree List.mem_cons_self).exists
      rw [List.foldl_cons, overlay_table, List.flatMap_cons, merged_append,
        ih (isTable_table _) fun other member => tables other (List.mem_cons_of_mem _ member)]
      exact congrArg (merged · _) (valuesOf_overlayAll name old new)

/-- Tables laid over each other are one table, if there are any. -/
theorem merged_eq (values later : List Tree) (single : values.length ≤ 1) :
    merged values later = [] ∧ values ++ later = [] ∨
      ∃ first more, merged values later = [more.foldl overlay first] ∧
        values ++ later = first :: more := by
  match values, later, single with
  | [], [], _ => exact .inl ⟨rfl, rfl⟩
  | [], first :: more, _ => exact .inr ⟨first, more, merged_singleton first more, rfl⟩
  | [first], more, _ => exact .inr ⟨first, more, merged_singleton first more, rfl⟩

/-- **Sections.** What trees laid over each other give to a name in a section is the last value
that one of them gives to it, if the section is a table in all of them. -/
theorem outcome_within_overlay (sectionName name : String) (isTable : base.IsTable)
    (tables : ∀ tree ∈ later, tree.IsTable) (single : (base.given sectionName).length ≤ 1)
    (sectioned : ∀ tree ∈ base :: later, ∀ value ∈ tree.given sectionName, value.IsTable) :
    outcome ((later.foldl overlay base).within sectionName name) =
      outcome ((base :: later).flatMap (within sectionName name)) := by
  have spread : (base :: later).flatMap (within sectionName name) =
      (base.given sectionName ++ later.flatMap (given sectionName)).flatMap (given name) := by
    rw [← List.flatMap_cons, List.flatMap_assoc]
    rfl
  have allTables : ∀ value ∈ base.given sectionName ++ later.flatMap (given sectionName),
      value.IsTable := by
    intro value member
    rw [← List.flatMap_cons, List.mem_flatMap] at member
    obtain ⟨tree, among, gives⟩ := member
    exact sectioned tree among value gives
  rw [spread, within, given_foldl_overlay sectionName isTable tables]
  rcases merged_eq _ (later.flatMap (given sectionName)) single with
    ⟨none, noneGiven⟩ | ⟨first, more, one, listed⟩
  · rw [none, noneGiven]
  · rw [listed] at allTables ⊢
    rw [one, List.flatMap_singleton, List.flatMap_cons,
      given_foldl_overlay name (allTables first List.mem_cons_self) fun tree member =>
        allTables tree (List.mem_cons_of_mem _ member),
      outcome_merged]

end Overlay

end ContainerTasks.Tree
