import ContainerTasks.Codec.Decimal
import ContainerTasks.Text.Blank
import ContainerTasks.Tree

/-! # Loosely written values

The value of an environment variable may be a truth value, a number, a text in
quotes, a list in square brackets or a table in braces. Everything else is text as
it stands.
-/

namespace ContainerTasks.Settings.LooseValue

/-- White space around values. -/
def isSpace (c : Char) : Bool :=
  c == ' ' || c == '\t' || c == '\n' || c == '\r' || c == '\x0c'

/-- A character that ends a plain value. -/
def isSeparator (c : Char) : Bool :=
  c == ',' || c == '\x7b' || c == '\x7d' || c == '[' || c == ']'

/-- The character with a code given by digits in base sixteen. -/
def codeChar? (count : Nat) (chars : List Char) : Option (Char × List Char) :=
  if chars.length < count then none
  else
    match Codec.Decimal.natural? 16 (chars.take count) with
    | none => none
    | some n =>
      if n < 0xD800 || (0xE000 ≤ n && n < 0x110000) then some (Char.ofNat n, chars.drop count)
      else none

/-- The character that a letter after a backslash stands for. -/
def escaped? : Char → Option Char
  | '"' => some '"'
  | '\\' => some '\\'
  | 'b' => some '\x08'
  | 'f' => some '\x0c'
  | 'n' => some '\n'
  | 'r' => some '\r'
  | 't' => some '\t'
  | _ => none

/-- What follows a backslash that blanks and a line feed follow, without the blanks
and line feeds. -/
def joinLines? (chars : List Char) : Option (List Char) :=
  match chars.dropWhile fun c => c == ' ' || c == '\t' || c == '\r' with
  | '\n' :: rest => some (rest.dropWhile fun c => c == ' ' || c == '\t' || c == '\n')
  | _ => none

/-- Reads a text in double quotes from behind the first. -/
def readQuoted? : (fuel : Nat) → List Char → Option (List Char × List Char)
  | 0, _ => none
  | _ + 1, '"' :: rest => some ([], rest)
  | fuel + 1, '\\' :: rest =>
    let found : Option (List Char × List Char) :=
      match rest with
      | 'u' :: rest => (codeChar? 4 rest).map fun (c, rest) => ([c], rest)
      | 'U' :: rest => (codeChar? 8 rest).map fun (c, rest) => ([c], rest)
      | c :: rest =>
        match escaped? c with
        | some c => some ([c], rest)
        | none => (joinLines? (c :: rest)).map fun rest => ([], rest)
      | [] => none
    match found with
    | none => none
    | some (kept, rest) =>
      (readQuoted? fuel rest).map fun (body, after) => (kept ++ body, after)
  | fuel + 1, c :: rest =>
    if c == '\t' || (32 ≤ c.toNat && c.toNat != 127) then
      (readQuoted? fuel rest).map fun (body, after) => (c :: body, after)
    else none
  | _ + 1, [] => none

/-- An integer with a sign or without, in the range of 64 bits. -/
def integer? (chars : List Char) : Option Int :=
  match chars with
  | '-' :: digits =>
    (Codec.Decimal.natural? 10 digits).bind fun n =>
      if n ≤ Nat.pow 2 63 then some (-(n : Int)) else none
  | _ =>
    (Codec.Decimal.natural? 10 (Codec.Decimal.dropPlus chars)).bind fun n =>
      if n < Nat.pow 2 64 then some (n : Int) else none

/-- A value without quotes and brackets. -/
def plain (chars : List Char) : Tree :=
  let chars := Text.trimChars chars
  if chars.contains '.' && Codec.Decimal.isNumber chars then .real
  else
    match integer? chars with
    | some n => .integer n
    | none => .text (String.ofList chars)

/-- A character of a key without quotes. -/
def isKeyChar (c : Char) : Bool :=
  c.isAlphanum || c == '_' || c == '-'

/-- Reads the key of a table, with the white space around it. -/
def readKey? (chars : List Char) : Option (String × List Char) :=
  let found :=
    match chars.dropWhile isSpace with
    | '"' :: rest => readQuoted? (rest.length + 1) rest
    | rest =>
      let (key, rest) := rest.span isKeyChar
      if key.isEmpty then none else some (key, rest)
  found.map fun (key, rest) => (String.ofList key, rest.dropWhile isSpace)

mutual

/-- Reads a value, with the white space around it. -/
def readValue? : (fuel : Nat) → List Char → Option (Tree × List Char)
  | 0, _ => none
  | fuel + 1, chars =>
    let found : Option (Tree × List Char) :=
      match chars.dropWhile isSpace with
      | 't' :: 'r' :: 'u' :: 'e' :: rest => some (.bool true, rest)
      | 'f' :: 'a' :: 'l' :: 's' :: 'e' :: rest => some (.bool false, rest)
      | '\x7b' :: rest =>
        (readPairs? fuel rest).map fun (entries, rest) => (.table (Tree.distinct entries), rest)
      | '[' :: rest => (readItems? fuel rest).map fun (items, rest) => (.list items, rest)
      | '"' :: rest =>
        (readQuoted? (rest.length + 1) rest).map fun (body, rest) =>
          (.text (String.ofList body), rest)
      | '\'' :: c :: '\'' :: rest => some (.text (String.singleton c), rest)
      | '\'' :: _ => none
      | rest =>
        let (value, rest) := rest.span fun c => !isSeparator c
        some (plain value, rest)
    found.map fun (value, rest) => (value, rest.dropWhile isSpace)

/-- Reads the items of a list up to its end. -/
def readItems? : (fuel : Nat) → List Char → Option (List Tree × List Char)
  | 0, _ => none
  | _ + 1, ']' :: rest => some ([], rest)
  | fuel + 1, chars =>
    match readValue? fuel chars with
    | some (item, ',' :: rest) =>
      (readItems? fuel rest).map fun (items, rest) => (item :: items, rest)
    | some (item, ']' :: rest) => some ([item], rest)
    | _ => none

/-- Reads the entries of a table up to its end. -/
def readPairs? : (fuel : Nat) → List Char → Option (List (String × Tree) × List Char)
  | 0, _ => none
  | _ + 1, '\x7d' :: rest => some ([], rest)
  | fuel + 1, chars =>
    match readKey? chars with
    | some (key, '=' :: rest) =>
      match readValue? fuel rest with
      | some (value, ',' :: rest) =>
        (readPairs? fuel rest).map fun (entries, rest) => ((key, value) :: entries, rest)
      | some (value, '\x7d' :: rest) => some ([(key, value)], rest)
      | _ => none
    | _ => none

end

/-- The value that a text stands for. -/
def read (text : String) : Tree :=
  let chars := Text.trimChars text.toList
  match readValue? (2 * chars.length + 2) chars with
  | some (value, []) => value
  | _ => .text (String.ofList chars)

end ContainerTasks.Settings.LooseValue
