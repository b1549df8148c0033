import ContainerTasks.Toml.Number
import ContainerTasks.Toml.Table
import ContainerTasks.Toml.Text

/-! # TOML documents

A document is a sequence of lines, each of them a key with its value, the header of
a table or nothing, and perhaps a comment. Values may be lists and tables in
braces. `Toml.parse?` gives the settings that a document holds.
-/

namespace ContainerTasks.Toml

/-- A text without the comment at its front; none if a comment holds a character
that may not stand on a line. -/
def skipComment? (chars : List Char) : Option (List Char) :=
  match chars with
  | '#' :: rest =>
    let rest := rest.dropWhile isPlain
    if rest.isEmpty || (lineEnd? rest).isSome then some rest else none
  | _ => some chars

/-- A text without the blanks, line ends and comments at its front. -/
def skipSpace? : (fuel : Nat) → List Char → Option (List Char)
  | 0, chars => some chars
  | fuel + 1, chars =>
    match skipBlanks chars with
    | '#' :: rest => (skipComment? ('#' :: rest)).bind (skipSpace? fuel)
    | rest =>
      match lineEnd? rest with
      | some rest => skipSpace? fuel rest
      | none => some rest

/-- How many lists and tables in braces may be nested. -/
def maxDepth : Nat := 79

/-- How many keys may be joined by points. -/
def maxKeys : Nat := 79

mutual

/-- Reads a value. -/
def readValue? : (fuel depth : Nat) → List Char → Option (Tree × List Char)
  | 0, _, _ => none
  | fuel + 1, depth, chars =>
    match chars with
    | '[' :: rest =>
      if depth = 0 then none
      else (readItems? fuel (depth - 1) rest).map fun (items, rest) => (.list items, rest)
    | '\x7b' :: rest =>
      if depth = 0 then none
      else
        match skipBlanks rest with
        | '\x7d' :: rest => some (.table [], rest)
        | rest =>
          (readPairs? fuel (depth - 1) [] rest).map fun (entries, rest) =>
            (.table (entriesToTree entries), rest)
    | '"' :: _ | '\'' :: _ => (readText? chars).map fun (text, rest) => (.text text, rest)
    | 't' :: 'r' :: 'u' :: 'e' :: rest => some (.bool true, rest)
    | 'f' :: 'a' :: 'l' :: 's' :: 'e' :: rest => some (.bool false, rest)
    | _ => (readTime? chars).or (readNumber? chars)

/-- Reads the items of a list up to its end. -/
def readItems? : (fuel depth : Nat) → List Char → Option (List Tree × List Char)
  | 0, _, _ => none
  | fuel + 1, depth, chars =>
    match skipSpace? chars.length chars with
    | none => none
    | some (']' :: rest) => some ([], rest)
    | some rest =>
      match readValue? fuel depth rest with
      | none => none
      | some (item, rest) =>
        match skipSpace? rest.length rest with
        | some (']' :: rest) => some ([item], rest)
        | some (',' :: rest) =>
          (readItems? fuel depth rest).map fun (items, rest) => (item :: items, rest)
        | _ => none

/-- Reads the pairs of a table in braces up to its end, at least one, into those read
before. -/
def readPairs? : (fuel depth : Nat) → Entries → List Char → Option (Entries × List Char)
  | 0, _, _, _ => none
  | fuel + 1, depth, entries, chars =>
    match readKeys? chars.length chars with
    | some (keys, '=' :: rest) =>
      match readValue? fuel depth (skipBlanks rest) with
      | none => none
      | some (value, rest) =>
        match if keys.length ≤ maxKeys then entries.set value keys else none with
        | none => none
        | some entries =>
          match skipBlanks rest with
          | '\x7d' :: rest => some (entries, rest)
          | ',' :: rest => readPairs? fuel depth entries rest
          | _ => none
    | _ => none

end

/-- What has been read of a document: the entries, and the path of the table that
keys are set in. -/
structure Reading where
  entries : Entries := []
  path : List String := []

/-- Reads the header of a table from behind its first bracket. -/
def readHeader? (reading : Reading) (chars : List Char) : Option (Reading × List Char) := do
  let (isList, chars) :=
    match chars with
    | '[' :: rest => (true, rest)
    | _ => (false, chars)
  let (keys, rest) ← readKeys? chars.length chars
  let rest ← expect? ']' rest
  let rest ← if isList then expect? ']' rest else some rest
  let key ← keys.getLast?
  let change := if isList then Entries.extend key else Entries.define key
  let entries ← reading.entries.changeAt change keys.dropLast
  if keys.length ≤ maxKeys then return ({ entries, path := keys }, rest) else none

/-- Reads a key with its value. -/
def readPair? (reading : Reading) (chars : List Char) : Option (Reading × List Char) := do
  let (keys, rest) ← readKeys? chars.length chars
  let rest ← expect? '=' rest
  let (value, rest) ← readValue? (2 * rest.length + 2) maxDepth (skipBlanks rest)
  let entries ← reading.entries.changeAt (Entries.set value keys) reading.path
  if keys.length ≤ maxKeys then return ({ reading with entries }, rest) else none

/-- Reads the rest of a line: blanks, a comment and the line end. -/
def readLineEnd? (chars : List Char) : Option (List Char) := do
  let rest ← skipComment? (skipBlanks chars)
  if rest.isEmpty then return [] else lineEnd? rest

/-- Reads the lines of a document. -/
def readLines? : (fuel : Nat) → Reading → List Char → Option Reading
  | 0, reading, _ => some reading
  | fuel + 1, reading, chars => do
    match skipBlanks chars with
    | [] => return reading
    | '[' :: rest =>
      let (reading, rest) ← readHeader? reading rest
      readLines? fuel reading (← readLineEnd? rest)
    | c :: rest =>
      if c = '#' || (lineEnd? (c :: rest)).isSome then
        readLines? fuel reading (← readLineEnd? (c :: rest))
      else
        let (reading, rest) ← readPair? reading (c :: rest)
        readLines? fuel reading (← readLineEnd? rest)

/-- The settings that a document holds. Every line takes at least one character. -/
def parse? (text : String) : Option (List (String × Tree)) :=
  let chars :=
    match text.toList with
    | '\ufeff' :: rest => rest
    | chars => chars
  (readLines? (chars.length + 1) {} chars).map fun reading => entriesToTree reading.entries

end ContainerTasks.Toml
