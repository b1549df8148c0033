import ContainerTasks.Text.Cut
import ContainerTasks.Text.Utf8
import ContainerTasks.Yaml.Scalar

/-! # Tags

What is known of a node beside its content. A tag of the core schema names the kind
of a scalar. A local tag begins with an exclamation mark and names the tables that
the value of its node lies in. In a document a tag may be shortened by a handle, and
its bytes may be written as digits behind percent signs.
-/

namespace ContainerTasks.Yaml

/-- A tag in full. Its bytes need not spell text. -/
abbrev Tag := Bytes

/-! ## Written tags -/

/-- Characters of a tag apart from percent signs. The `wide` ones include commas and
square brackets. -/
def isTagChar (wide : Bool) (c : Char) : Bool :=
  isNameChar c || [';', '/', '?', ':', '@', '&', '=', '+', '$', '.', '!', '~', '*', '\'', '(',
    ')'].contains c || (wide && [',', '[', ']'].contains c)

/-- The byte written as a percent sign and two digits at the front. -/
def percentByte? : List Char → Option (UInt8 × List Char)
  | '%' :: a :: b :: rest => do
    return (UInt8.ofNat ((← hexValue? a) * 16 + (← hexValue? b)), rest)
  | _ => none

/-- How many bytes follow the first byte of a character. -/
def bytesAfter? (byte : UInt8) : Option Nat :=
  if byte < 0x80 then some 0
  else if byte < 0xC0 then none
  else if byte < 0xE0 then some 1
  else if byte < 0xF0 then some 2
  else if byte < 0xF8 then some 3
  else none

/-- So many bytes inside a character, each behind its own percent sign. -/
def percentRest? : Nat → List Char → Option (Bytes × List Char)
  | 0, text => some ([], text)
  | count + 1, text => do
    let (byte, text) ← percentByte? text
    if byte < 0x80 || 0xC0 ≤ byte then none
    else
      let (bytes, text) ← percentRest? count text
      return (byte :: bytes, text)

/-- The bytes of a character written behind percent signs at the front. Only the
leading bits of each byte are looked at, so the bytes need not spell a character. -/
def percentChar? (text : List Char) : Option (Bytes × List Char) := do
  let (first, text) ← percentByte? text
  let (bytes, text) ← percentRest? (← bytesAfter? first) text
  return (first :: bytes, text)

/-- Reads the bytes of a tag behind those already read. -/
def readTagBytes (wide : Bool) : Nat → Bytes → Cursor → Option (Bytes × Cursor)
  | 0, _, _ => none
  | fuel + 1, bytes, cursor =>
    let (plain, cursor) := cursor.takeWhile (isTagChar wide)
    let bytes := bytes ++ Text.Utf8.encode plain
    if cursor.peek == some '%' then
      match percentChar? cursor.rest with
      | none => none
      | some (written, _) =>
        readTagBytes wide fuel (bytes ++ written) (cursor.skip (3 * written.length))
    else some (bytes, cursor)

/-- The bytes up to the first zero, which ends a tag. -/
def beforeZero (bytes : Bytes) : Bytes :=
  bytes.takeWhile (· != 0)

/-! ## Handles -/

/-- What tags stand for by their handles. -/
abbrev TagHandles := List (List Char × Bytes)

namespace Tag

/-- The exclamation mark, with which local tags begin. -/
def mark : UInt8 := 0x21

/-- A tag of the core schema. -/
def core (name : String) : Tag :=
  Text.Utf8.ofString ("tag:yaml.org,2002:" ++ name)

/-- The handles that need no directive. -/
def defaultHandles : TagHandles :=
  [(['!'], [mark]), (['!', '!'], core "")]

/-- The full tag for a handle and a suffix. -/
def ofHandle? (handles : TagHandles) (handle : List Char) (suffix : Bytes) : Option Tag :=
  if handle.isEmpty then some suffix
  else (handles.lookup handle).map (· ++ suffix)

/-! ## Meaning -/

/-- What a tag says about the value of a node. -/
inductive Meaning
  /-- Nothing: the value is read as if there were no tag. -/
  | silent
  /-- The value lies in tables under these names. -/
  | under (names : List String)
  | null
  | bool
  | integer
  | real
  | text
deriving DecidableEq, Repr

/-- The names in the name of a local tag. They stand between points, and the first
empty one ends them. -/
def localNames (name : String) : List String :=
  (Text.cut '.' name).takeWhile (!·.isEmpty)

/-- The name of a local tag, behind its mark. The mark alone is its own name. -/
def localName? : Tag → Option String
  | [] => none
  | first :: name =>
    if first = mark then Text.Utf8.toString? (if name.isEmpty then [mark] else name) else none

/-- What a node's tag says, if it has one. A local tag that spells no text says
nothing, and every tag that is neither local nor known here asks for a text. -/
def meaning : Option Tag → Meaning
  | none => .silent
  | some tag =>
    match localName? tag with
    | some name => .under (localNames name)
    | none =>
      if tag.head? = some mark then .silent
      else if tag = core "bool" then .bool
      else if tag = core "int" then .integer
      else if tag = core "float" then .real
      else if tag = core "null" then .null
      else .text

end Tag

end ContainerTasks.Yaml
