import ContainerTasks.Tree

/-! # Tables in TOML

A table is defined once: by a header, by the keys that lead into it, or as a value.
A header may define a table that other headers have led through before; keys may
lead into tables that keys have made, and nothing else may be defined again.
-/

namespace ContainerTasks.Toml

/-- How a table came to be. -/
inductive Origin
  /-- By a header of its own. -/
  | header
  /-- By headers of tables inside it. -/
  | passage
  /-- By keys that lead into it. -/
  | keys
deriving DecidableEq, Repr

/-- What a table holds under a key. -/
inductive Item
  | value (value : Tree)
  | table (origin : Origin) (entries : List (String × Item))
  /-- A list of tables, the last one first; it is never empty. -/
  | tables (last : List (String × Item)) (others : List (List (String × Item)))
deriving Inhabited

/-- The entries of a table. -/
abbrev Entries := List (String × Item)

namespace Entries

/-- What lies under a key. -/
def get? (key : String) (entries : Entries) : Option Item :=
  entries.lookup key

/-- Puts an item under a key, in place of one that lay there. -/
def put (key : String) (item : Item) : Entries → Entries
  | [] => [(key, item)]
  | (name, old) :: rest =>
    if name = key then (name, item) :: rest else (name, old) :: put key item rest

/-- Changes the table that the parts of a header lead to. Tables that are missing on
the way are made, and of a list of tables the last one is meant. -/
def changeAt (change : Entries → Option Entries) : List String → Entries → Option Entries
  | [], entries => change entries
  | part :: more, entries =>
    match entries.get? part with
    | none => (changeAt change more []).map fun inner => entries.put part (.table .passage inner)
    | some (.table origin inner) =>
      (changeAt change more inner).map fun inner => entries.put part (.table origin inner)
    | some (.tables last others) =>
      (changeAt change more last).map fun last => entries.put part (.tables last others)
    | some (.value _) => none

/-- Defines a table by a header. -/
def define (key : String) (entries : Entries) : Option Entries :=
  match entries.get? key with
  | none => some (entries.put key (.table .header []))
  | some (.table .passage inner) => some (entries.put key (.table .header inner))
  | some _ => none

/-- Adds a table to a list of tables by a header. -/
def extend (key : String) (entries : Entries) : Option Entries :=
  match entries.get? key with
  | none => some (entries.put key (.tables [] []))
  | some (.tables last others) => some (entries.put key (.tables [] (last :: others)))
  | some _ => none

/-- Sets the value that keys lead to. -/
def set (value : Tree) : List String → Entries → Option Entries
  | [], _ => none
  | [key], entries =>
    if (entries.get? key).isSome then none else some (entries.put key (.value value))
  | part :: more, entries =>
    match entries.get? part with
    | none => (set value more []).map fun inner => entries.put part (.table .keys inner)
    | some (.table .keys inner) =>
      (set value more inner).map fun inner => entries.put part (.table .keys inner)
    | some (.table .passage inner) =>
      if more.length < 2 then none
      else (set value more inner).map fun inner => entries.put part (.table .passage inner)
    | some (.tables last others) =>
      if more.length < 2 then none
      else (set value more last).map fun last => entries.put part (.tables last others)
    | some _ => none

end Entries

mutual

/-- An item as a setting. -/
def Item.toTree : Item → Tree
  | .value value => value
  | .table _ entries => .table (entriesToTree entries)
  | .tables last others => .list (tablesToTree others [.table (entriesToTree last)])

/-- Entries as settings. -/
def entriesToTree : List (String × Item) → List (String × Tree)
  | [] => []
  | (key, item) :: rest => (key, item.toTree) :: entriesToTree rest

/-- Tables as settings, the last one first, before others. -/
def tablesToTree : List (List (String × Item)) → List Tree → List Tree
  | [], after => after
  | entries :: rest, after => tablesToTree rest (.table (entriesToTree entries) :: after)

end

end ContainerTasks.Toml
