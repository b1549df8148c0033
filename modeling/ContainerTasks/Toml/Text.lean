import ContainerTasks.Codec.Decimal

/-! # Texts and keys in TOML

A text stands in double quotes, where a backslash escapes, or in single quotes,
where nothing does; three quotes let it run over several lines. A key is bare or
stands in quotes on one line, and several keys joined by points lead into tables.
-/

namespace ContainerTasks.Toml

/-- A text without the blanks at its front. -/
def skipBlanks (chars : List Char) : List Char :=
  chars.dropWhile fun c => c == ' ' || c == '\t'

/-- The rest after a line end. -/
def lineEnd? : List Char → Option (List Char)
  | '\n' :: rest => some rest
  | '\r' :: '\n' :: rest => some rest
  | _ => none

/-- A character that may stand on a line. -/
def isPlain (c : Char) : Bool :=
  c == '\t' || (32 ≤ c.toNat && c.toNat != 127)

/-- The character with a code given by digits in base sixteen. -/
def codeChar? (digits : List Char) : Option Char :=
  match Codec.Decimal.natural? 16 digits with
  | none => none
  | some n => if n < 0xD800 || (0xE000 ≤ n && n < 0x110000) then some (Char.ofNat n) else none

/-- The character that a letter after a backslash stands for. -/
def escaped? : Char → Option Char
  | 'b' => some '\x08'
  | 't' => some '\t'
  | 'n' => some '\n'
  | 'f' => some '\x0c'
  | 'r' => some '\r'
  | '"' => some '"'
  | '\\' => some '\\'
  | _ => none

/-- The character that the text after a backslash stands for, and the rest. -/
def escape? : List Char → Option (Char × List Char)
  | 'u' :: rest => (codeChar? (rest.take 4)).bind fun c =>
    if 4 ≤ rest.length then some (c, rest.drop 4) else none
  | 'U' :: rest => (codeChar? (rest.take 8)).bind fun c =>
    if 8 ≤ rest.length then some (c, rest.drop 8) else none
  | c :: rest => (escaped? c).map (·, rest)
  | [] => none

/-- Reads a text in double quotes from behind the first. -/
def readQuoted? : (fuel : Nat) → List Char → Option (List Char × List Char)
  | 0, _ => none
  | _ + 1, '"' :: rest => some ([], rest)
  | fuel + 1, '\\' :: rest =>
    match escape? rest with
    | none => none
    | some (c, rest) => (readQuoted? fuel rest).map fun (body, after) => (c :: body, after)
  | fuel + 1, c :: rest =>
    if isPlain c then (readQuoted? fuel rest).map fun (body, after) => (c :: body, after)
    else none
  | _ + 1, [] => none

/-- Reads a text in single quotes from behind the first. -/
def readLiteral? : List Char → Option (List Char × List Char)
  | '\'' :: rest => some ([], rest)
  | c :: rest =>
    if isPlain c then (readLiteral? rest).map fun (body, after) => (c :: body, after) else none
  | [] => none

/-- How many characters at the front are equal to `c`. -/
def countFront (c : Char) (chars : List Char) : Nat :=
  (chars.takeWhile (· == c)).length

/-- A text without the blanks and line ends at its front. -/
def skipLines : List Char → List Char
  | ' ' :: rest => skipLines rest
  | '\t' :: rest => skipLines rest
  | '\n' :: rest => skipLines rest
  | '\r' :: '\n' :: rest => skipLines rest
  | chars => chars

/-- Reads a text of several lines from behind the three quotes: `quote` is the
quotation mark, and a backslash escapes if `escapes`. Up to two quotes may stand
before the three at its end. -/
def readLong? (quote : Char) (escapes : Bool) : (fuel : Nat) → List Char →
    Option (List Char × List Char)
  | 0, _ => none
  | _ + 1, [] => none
  | fuel + 1, c :: rest =>
    let go (kept : List Char) (rest : List Char) :=
      (readLong? quote escapes fuel rest).map fun (body, after) => (kept ++ body, after)
    if c = quote then
      let count := countFront quote (c :: rest)
      if count < 3 then go [quote] rest
      else if count < 6 then some (List.replicate (count - 3) quote, rest.drop (count - 1))
      else none
    else if c = '\\' && escapes then
      match lineEnd? (skipBlanks rest) with
      | some rest => go [] (skipLines rest)
      | none => (escape? rest).bind fun (c, rest) => go [c] rest
    else
      match lineEnd? (c :: rest) with
      | some rest => go ['\n'] rest
      | none => if isPlain c then go [c] rest else none

/-- A text without one line end at its front. -/
def dropLineEnd (chars : List Char) : List Char :=
  (lineEnd? chars).getD chars

/-- Reads a text of any form. -/
def readText? (chars : List Char) : Option (String × List Char) :=
  let body :=
    match chars with
    | '"' :: '"' :: '"' :: rest => readLong? '"' true (rest.length + 1) (dropLineEnd rest)
    | '"' :: rest => readQuoted? (rest.length + 1) rest
    | '\'' :: '\'' :: '\'' :: rest => readLong? '\'' false (rest.length + 1) (dropLineEnd rest)
    | '\'' :: rest => readLiteral? rest
    | _ => none
  body.map fun (body, rest) => (String.ofList body, rest)

/-- A character of a bare key. -/
def isBare (c : Char) : Bool :=
  c.isAlphanum || c == '_' || c == '-'

/-- Reads one key. -/
def readKey? (chars : List Char) : Option (String × List Char) :=
  match chars with
  | '"' :: rest =>
    (readQuoted? (rest.length + 1) rest).map fun (body, rest) => (String.ofList body, rest)
  | '\'' :: rest => (readLiteral? rest).map fun (body, rest) => (String.ofList body, rest)
  | _ =>
    let (key, rest) := chars.span isBare
    if key.isEmpty then none else some (String.ofList key, rest)

/-- Reads keys joined by points, with blanks around each. -/
def readKeys? : (fuel : Nat) → List Char → Option (List String × List Char)
  | 0, _ => none
  | fuel + 1, chars =>
    match readKey? (skipBlanks chars) with
    | none => none
    | some (key, rest) =>
      match skipBlanks rest with
      | '.' :: rest => (readKeys? fuel rest).map fun (keys, rest) => (key :: keys, rest)
      | rest => some ([key], rest)

end ContainerTasks.Toml
