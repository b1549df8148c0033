/-! # Trees of settings

What a configuration file holds, whatever its format: tables with named entries,
lists and plain values. `Tree.fields?` reads a table, or a list in the order of
the names, as the fields of a structure.
-/

namespace ContainerTasks

/-- A value in a configuration. Numbers that are no integers carry nothing, since
no setting takes one. -/
inductive Tree
  | null
  | bool (value : Bool)
  | integer (value : Int)
  | real
  | text (value : String)
  | list (items : List Tree)
  | table (entries : List (String × Tree))
deriving Repr, Inhabited

namespace Tree

/-- The last of the entries with a name. -/
def lookup (name : String) : List (String × Tree) → Option Tree
  | [] => none
  | (key, value) :: rest =>
    match lookup name rest with
    | some found => some found
    | none => if key = name then some value else none

/-- Entries without those whose name comes again later. -/
def distinct : List (String × Tree) → List (String × Tree)
  | [] => []
  | (key, value) :: rest =>
    let rest := distinct rest
    if rest.any (·.1 = key) then rest else (key, value) :: rest

/-- A text. -/
def text? : Tree → Option String
  | text value => some value
  | _ => none

/-- A truth value. -/
def bool? : Tree → Option Bool
  | bool value => some value
  | _ => none

/-- An integer. -/
def integer? : Tree → Option Int
  | integer value => some value
  | _ => none

/-- The entries of a table. -/
def table? : Tree → Option (List (String × Tree))
  | table entries => some entries
  | _ => none

/-- A value inside tables with one entry each, the outermost name first. -/
def under (value : Tree) (names : List String) : Tree :=
  names.foldr (fun name inner => table [(name, inner)]) value

/-- A field of a structure. One that is `optional` may be missing at the end of a
list. -/
structure Field where
  name : String
  optional : Bool := false
deriving DecidableEq, Repr

/-- The fields of a structure given as a list. -/
def fieldsOfList : List Field → List Tree → Option (List (String × Tree))
  | [], _ => some []
  | field :: fields, [] => if field.optional then fieldsOfList fields [] else none
  | field :: fields, item :: items => (fieldsOfList fields items).map ((field.name, item) :: ·)

/-- The fields of a structure: those of a table, where no others may occur, or the
items of a list. -/
def fields? (fields : List Field) : Tree → Option (List (String × Tree))
  | table entries =>
    if entries.all fun (name, _) => fields.any (·.name = name) then some entries else none
  | list items => fieldsOfList fields items
  | _ => none

mutual

/-- A value laid over another: of two tables the entries are laid over each other, and
otherwise the later value counts. -/
def overlay (earlier : Tree) : Tree → Tree
  | table entries =>
    match earlier with
    | table base => table (overlayAll base entries)
    | _ => table entries
  | later => later

/-- Entries laid over others. -/
def overlayAll (base : List (String × Tree)) : List (String × Tree) → List (String × Tree)
  | [] => base
  | (name, value) :: rest =>
    let value :=
      match base.lookup name with
      | some earlier => overlay earlier value
      | none => value
    overlayAll ((name, value) :: base.filter (·.1 != name)) rest

end

end Tree

end ContainerTasks
