import ContainerTasks.Json.Basic

/-! # Fields of JSON values

A structure is given as an object, or as an array that holds its fields in order.
Members that are no field have no effect, and no field may be given twice.
-/

namespace ContainerTasks.Json

/-- How often a member with a name occurs. -/
def count (name : String) (members : List (String × Json)) : Nat :=
  members.countP fun (key, _) => key = name

/-- The fields of a structure, by their names. -/
def fields? (names : List String) : Json → Option (List (String × Json))
  | object members =>
    if names.all fun name => count name members ≤ 1 then some members else none
  | array items => if items.length = names.length then some (names.zip items) else none
  | _ => none

/-- The fields of a structure that is given as an object. -/
def objectFields? (names : List String) : Json → Option (List (String × Json))
  | object members => (object members).fields? names
  | _ => none

/-- A field that may be missing or null and is read otherwise. -/
def optional? {α : Type} (read : Json → Option α) : Option Json → Option (Option α)
  | none | some null => some none
  | some value => (read value).map some

/-- An integer of 64 bits with a sign. -/
def signed? (json : Json) : Option Int :=
  json.integer?.filter fun n => Int64.minValue.toInt ≤ n && n ≤ Int64.maxValue.toInt

end ContainerTasks.Json
