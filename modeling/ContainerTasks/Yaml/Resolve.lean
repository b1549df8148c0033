import ContainerTasks.Codec.Decimal
import ContainerTasks.Tree
import ContainerTasks.Yaml.Node

/-! # From nodes to settings

A plain scalar stands for a null, a truth value or a number if it has the form of
one in the core schema of YAML 1.2, and every other scalar for a text. A node with a
local tag stands for its value inside tables under the names in the tag. Keys are
always texts. Of entries with one key the last counts. References stand for the
nodes they name; collections may be nested 128 deep, references included, and each
part of the document may be referred to a hundred times.
-/

namespace ContainerTasks.Yaml

/-- A spelling of nothing. -/
def isNull (text : List Char) : Bool :=
  ["null", "Null", "NULL", "~"].contains (String.ofList text)

/-- A spelling of a truth value. -/
def boolOf? (text : List Char) : Option Bool :=
  if ["true", "True", "TRUE"].contains (String.ofList text) then some true
  else if ["false", "False", "FALSE"].contains (String.ofList text) then some false
  else none

/-- A number with a zero in front, which is a text. -/
def isPaddedNumber (text : List Char) : Bool :=
  let digits := match text with
    | '-' :: rest => rest
    | '+' :: rest => rest
    | _ => text
  1 < digits.length && digits.head? == some '0' && digits.all Char.isDigit

/-- The digits and the base of an integer without sign. -/
def basedDigits (text : List Char) : Nat × List Char :=
  match text with
  | '0' :: 'x' :: rest => (16, rest)
  | '0' :: 'o' :: rest => (8, rest)
  | '0' :: 'b' :: rest => (2, rest)
  | _ => (10, text)

/-- An integer of at most 128 bits. -/
def integerOf? (text : List Char) : Option Int :=
  if isPaddedNumber text then none
  else
    let (negative, unsigned) := match text with
      | '-' :: rest => (true, rest)
      | '+' :: rest => (false, rest)
      | _ => (false, text)
    let (base, digits) := basedDigits unsigned
    match Codec.Decimal.natural? base digits with
    | none => none
    | some n =>
      if negative then if n ≤ Nat.pow 2 127 then some (-(n : Int)) else none
      else if n < Nat.pow 2 128 then some n else none

/-- A number that is no integer. -/
def isReal (text : List Char) : Bool :=
  let unsigned := Codec.Decimal.dropPlus text
  if unsigned.length < text.length &&
      (unsigned.head? == some '+' || unsigned.head? == some '-') then false
  else
    [".inf", ".Inf", ".INF"].contains (String.ofList unsigned) ||
      ["-.inf", "-.Inf", "-.INF", ".nan", ".NaN", ".NAN"].contains (String.ofList text) ||
      Codec.Decimal.isFiniteNumber unsigned

/-- What a plain scalar without tag stands for. -/
def plainTree (text : List Char) : Tree :=
  if text.isEmpty || isNull text then .null
  else
    match boolOf? text with
    | some value => .bool value
    | none =>
      match integerOf? text with
      | some value => .integer value
      | none =>
        if !isPaddedNumber text && isReal text then .real else .text (String.ofList text)

/-- What a scalar stands for. -/
def scalarTree (tag : Option Tag) (style : Style) (text : List Char) : Option Tree :=
  let untagged := if style = .plain then plainTree text else .text (String.ofList text)
  match Tag.meaning tag with
  | .silent => some untagged
  | .under names => some (untagged.under names)
  | .null => if isNull text then some .null else none
  | .bool => (boolOf? text).map .bool
  | .integer => (integerOf? text).map .integer
  | .real => if isReal text then some .real else none
  | .text => some (.text (String.ofList text))

/-- What a collection stands for, given its content. -/
def collectionTree (tag : Option Tag) (content : Tree) : Tree :=
  match Tag.meaning tag with
  | .under names => content.under names
  | _ => content

mutual

/-- How many events a node makes when a document is read: one for each scalar and
reference, two for each collection. -/
def Node.eventCount : Node → Nat
  | .scalar .. | .reference _ => 1
  | .sequence _ items => 2 + eventCountList items
  | .mapping _ pairs => 2 + eventCountPairs pairs
  | .anchored _ node => node.eventCount

/-- The events of nodes one after another. -/
def eventCountList : List Node → Nat
  | [] => 0
  | node :: rest => node.eventCount + eventCountList rest

/-- The events of pairs one after another. -/
def eventCountPairs : List (Node × Node) → Nat
  | [] => 0
  | (key, value) :: rest => key.eventCount + value.eventCount + eventCountPairs rest

end

mutual

/-- The anchored nodes with their numbers, in the order in which they begin. -/
def Node.anchors : Node → List (Nat × Node)
  | .scalar .. | .reference _ => []
  | .sequence _ items => anchorsList items
  | .mapping _ pairs => anchorsPairs pairs
  | .anchored number node => (number, node) :: node.anchors

/-- The anchored nodes among nodes. -/
def anchorsList : List Node → List (Nat × Node)
  | [] => []
  | node :: rest => node.anchors ++ anchorsList rest

/-- The anchored nodes among pairs. -/
def anchorsPairs : List (Node × Node) → List (Nat × Node)
  | [] => []
  | (key, value) :: rest => key.anchors ++ value.anchors ++ anchorsPairs rest

end

/-- A computation that may follow only so many references more. -/
abbrev Budget := StateT Nat Option

/-- The node itself, for a reference or an anchored node. `targets` holds the
anchored nodes, last first. -/
def target (targets : List (Nat × Node)) (node : Node) : Budget Node := do
  match node with
  | .anchored _ node => return node
  | .reference number =>
    match ← get with
    | 0 => failure
    | left + 1 =>
      set left
      match targets.lookup number with
      | some node => return node
      | none => failure
  | node => return node

/-- The text of a key. -/
def keyText (targets : List (Nat × Node)) (node : Node) : Budget String := do
  match ← target targets node with
  | .scalar _ _ text => return String.ofList text
  | _ => failure

/-- What a node stands for, if its collections are nested at most `depth` deep. -/
def toTree (targets : List (Nat × Node)) : (depth : Nat) → Node → Budget Tree
  | depth, node => do
    match ← target targets node with
    | .scalar tag style text => StateT.lift (scalarTree tag style text)
    | .sequence tag items =>
      match depth with
      | 0 => failure
      | depth + 1 =>
        return collectionTree tag (.list (← items.mapM (toTree targets depth)))
    | .mapping tag pairs =>
      match depth with
      | 0 => failure
      | depth + 1 =>
        return collectionTree tag (.table (Tree.distinct (← pairs.mapM fun (key, value) => do
          return (← keyText targets key, ← toTree targets depth value))))
    | _ => failure

/-- The entries of the outermost mapping, whose tag says nothing. An empty plain
scalar is an empty mapping. -/
def entriesOf (node : Node) : Option (List (String × Tree)) :=
  let targets := node.anchors.reverse
  let inner := match node with
    | .anchored _ node => node
    | node => node
  match inner with
  | .scalar _ .plain [] => some []
  | .mapping _ pairs =>
    match (toTree targets 128 (.mapping none pairs)).run (100 * node.eventCount) with
    | some (.table entries, _) => some entries
    | _ => none
  | _ => none

/-- The settings that a document holds; one without content holds none. -/
def parse? (text : String) : Option (List (String × Tree)) := do
  let tokens ← tokens? text.toList
  match ← readDocument tokens with
  | none => return []
  | some node => entriesOf node

end ContainerTasks.Yaml
