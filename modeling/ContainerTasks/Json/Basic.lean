/-! # JSON values

Values as a text spells them: an object keeps its members in order and keeps
members of one name; `get?` answers with the last. `Json.render` is the compact
text, in which a string escapes the quote, the backslash and the control
characters below space and nothing else.
-/

namespace ContainerTasks

/-- A JSON value. A number that is no integer of 64 bits keeps its text. -/
inductive Json
  | null
  | bool (value : Bool)
  | integer (value : Int)
  | decimal (text : String)
  | string (value : String)
  | array (items : List Json)
  | object (members : List (String × Json))
deriving Repr, Inhabited

namespace Json

/-- The text of a value that is a string. -/
def text? : Json → Option String
  | string value => some value
  | _ => none

/-- The value a value that is a truth value holds. -/
def bool? : Json → Option Bool
  | bool value => some value
  | _ => none

/-- The value of an integer. -/
def integer? : Json → Option Int
  | integer value => some value
  | _ => none

/-- The items of an array. -/
def items? : Json → Option (List Json)
  | array items => some items
  | _ => none

/-- The members of an object. -/
def members? : Json → Option (List (String × Json))
  | object members => some members
  | _ => none

/-- The last of the members with a name. -/
def lookup (name : String) : List (String × Json) → Option Json
  | [] => none
  | (key, value) :: rest =>
    match lookup name rest with
    | some found => some found
    | none => if key = name then some value else none

/-- The last member of an object with a name. -/
def get? (json : Json) (name : String) : Option Json :=
  json.members?.bind (lookup name)

/-- A lowercase digit in base sixteen. -/
def hexDigit (n : Nat) : Char :=
  if n < 10 then Char.ofNat (n + 48) else Char.ofNat (n + 87)

/-- A character as it stands inside quotes. -/
def escapeChar (c : Char) : List Char :=
  if c = '"' then ['\\', '"']
  else if c = '\\' then ['\\', '\\']
  else if c = '\n' then ['\\', 'n']
  else if c = '\r' then ['\\', 'r']
  else if c = '\t' then ['\\', 't']
  else if c = '\x08' then ['\\', 'b']
  else if c = '\x0c' then ['\\', 'f']
  else if c.toNat < 32 then
    ['\\', 'u', '0', '0', hexDigit (c.toNat / 16), hexDigit (c.toNat % 16)]
  else [c]

/-- A text between quotes. -/
def quoteChars (chars : List Char) : List Char :=
  '"' :: (chars.flatMap escapeChar ++ ['"'])

/-- A string between quotes. -/
def quote (text : String) : String :=
  String.ofList (quoteChars text.toList)

mutual

/-- The compact text of a value. -/
def render : Json → String
  | null => "null"
  | bool value => if value then "true" else "false"
  | integer value => if value < 0 then "-" ++ toString value.natAbs else toString value.natAbs
  | decimal text => text
  | string value => quote value
  | array items => "[" ++ renderItems items ++ "]"
  | object members => "\x7b" ++ renderMembers members ++ "\x7d"

/-- The items of an array, separated by commas. -/
def renderItems : List Json → String
  | [] => ""
  | [item] => item.render
  | item :: rest => item.render ++ "," ++ renderItems rest

/-- The members of an object, separated by commas. -/
def renderMembers : List (String × Json) → String
  | [] => ""
  | [(key, value)] => quote key ++ ":" ++ value.render
  | (key, value) :: rest => quote key ++ ":" ++ value.render ++ "," ++ renderMembers rest

end

end Json

end ContainerTasks
