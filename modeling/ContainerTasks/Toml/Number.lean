import ContainerTasks.Codec.Decimal
import ContainerTasks.Tree

/-! # Numbers and times in TOML

Integers have 64 bits and may be written in base two, eight or sixteen; single
underscores may stand between digits. Other numbers and times are checked for
their form only, since no setting takes one; a time counts as a table.
-/

namespace ContainerTasks.Toml

/-- Reads digits with single underscores between them. -/
def readDigits? (isDigit : Char → Bool) : List Char → Option (List Char × List Char)
  | '_' :: _ => none
  | c :: '_' :: rest =>
    if isDigit c then (readDigits? isDigit rest).map fun (digits, rest) => (c :: digits, rest)
    else none
  | c :: d :: rest =>
    if isDigit c then
      if isDigit d then
        (readDigits? isDigit (d :: rest)).map fun (digits, rest) => (c :: digits, rest)
      else some ([c], d :: rest)
    else none
  | [c] => if isDigit c then some ([c], []) else none
  | [] => none

/-- Whether a character is a digit in a base. -/
def isDigitIn (base : Nat) (c : Char) : Bool :=
  (Codec.Decimal.digitIn? base c).isSome

/-- Whether a number fits 64 bits with a sign. -/
def fits (n : Int) : Bool :=
  Int64.minValue.toInt ≤ n && n ≤ Int64.maxValue.toInt

/-- Reads an integer in another base than ten from behind its mark. -/
def readBased? (base : Nat) (chars : List Char) : Option (Tree × List Char) := do
  let (digits, rest) ← readDigits? (isDigitIn base) chars
  let n ← Codec.Decimal.natural? base digits
  if fits n then return (.integer n, rest) else none

/-- Reads the digits of a decimal integer: a zero alone, or digits that begin with
another. -/
def readWhole? : List Char → Option (List Char × List Char)
  | '0' :: rest => some (['0'], rest)
  | chars => readDigits? Char.isDigit chars

/-- Reads the exponent of a number if there is one, with its sign. -/
def readExponent? : List Char → Option (List Char × List Char)
  | c :: rest =>
    if c = 'e' || c = 'E' then
      match rest with
      | '-' :: rest =>
        (readDigits? Char.isDigit rest).map fun (digits, rest) => ('e' :: '-' :: digits, rest)
      | '+' :: rest =>
        (readDigits? Char.isDigit rest).map fun (digits, rest) => ('e' :: digits, rest)
      | rest => (readDigits? Char.isDigit rest).map fun (digits, rest) => ('e' :: digits, rest)
    else some ([], c :: rest)
  | [] => some ([], [])

/-- Reads a decimal number without its sign. -/
def readDecimal? (negative : Bool) (chars : List Char) : Option (Tree × List Char) := do
  let (whole, rest) ← readWhole? chars
  let (fraction, rest) ←
    match rest with
    | '.' :: rest =>
      (readDigits? Char.isDigit rest).map fun (digits, rest) => ('.' :: digits, rest)
    | _ => some ([], rest)
  let (exponent, rest) ← readExponent? rest
  if fraction.isEmpty && exponent.isEmpty then
    let n ← Codec.Decimal.natural? 10 whole
    let n : Int := if negative then -(n : Int) else n
    if fits n then return (.integer n, rest) else none
  else if negative || Codec.Decimal.isFiniteNumber (whole ++ fraction ++ exponent) then
    return (.real, rest)
  else none

/-- Reads a number. -/
def readNumber? : List Char → Option (Tree × List Char)
  | '0' :: 'x' :: rest => readBased? 16 rest
  | '0' :: 'o' :: rest => readBased? 8 rest
  | '0' :: 'b' :: rest => readBased? 2 rest
  | '-' :: 'i' :: 'n' :: 'f' :: rest | '+' :: 'i' :: 'n' :: 'f' :: rest
  | 'i' :: 'n' :: 'f' :: rest => some (.real, rest)
  | '-' :: 'n' :: 'a' :: 'n' :: rest | '+' :: 'n' :: 'a' :: 'n' :: rest
  | 'n' :: 'a' :: 'n' :: rest => some (.real, rest)
  | '-' :: rest => readDecimal? true rest
  | '+' :: rest => readDecimal? false rest
  | chars => readDecimal? false chars

/-- Reads a number of exactly so many decimal digits. -/
def readFixed? (count : Nat) (chars : List Char) : Option (Nat × List Char) :=
  let digits := chars.take count
  if digits.length = count && digits.all Char.isDigit then
    (Codec.Decimal.natural? 10 digits).map (·, chars.drop count)
  else none

/-- Reads a number of two digits in a range. -/
def readPart? (low high : Nat) (chars : List Char) : Option (Nat × List Char) :=
  (readFixed? 2 chars).filter fun (n, _) => low ≤ n && n ≤ high

/-- Takes one character. -/
def expect? (c : Char) : List Char → Option (List Char)
  | first :: rest => if first = c then some rest else none
  | [] => none

/-- How many days a month has. -/
def daysIn (year month : Nat) : Nat :=
  if month = 2 then
    if year % 4 = 0 && (year % 100 != 0 || year % 400 = 0) then 29 else 28
  else if [4, 6, 9, 11].contains month then 30
  else 31

/-- Reads a date. -/
def readDate? (chars : List Char) : Option (List Char) := do
  let (year, rest) ← readFixed? 4 chars
  let rest ← expect? '-' rest
  let (month, rest) ← readPart? 1 12 rest
  let rest ← expect? '-' rest
  let (_, rest) ← readPart? 1 (daysIn year month) rest
  return rest

/-- Reads a time of day. -/
def readClock? (chars : List Char) : Option (List Char) := do
  let (_, rest) ← readPart? 0 23 chars
  let rest ← expect? ':' rest
  let (_, rest) ← readPart? 0 59 rest
  let rest ← expect? ':' rest
  let (_, rest) ← readPart? 0 60 rest
  match rest with
  | '.' :: rest =>
    let (digits, rest) := rest.span Char.isDigit
    if digits.isEmpty then none else return rest
  | _ => return rest

/-- Reads the distance of a time from the reference time, if there is one. -/
def readOffset? : List Char → Option (List Char)
  | 'Z' :: rest | 'z' :: rest => some rest
  | '+' :: rest | '-' :: rest => do
    let (_, rest) ← readPart? 0 23 rest
    let rest ← expect? ':' rest
    let (_, rest) ← readPart? 0 59 rest
    return rest
  | chars => some chars

/-- Reads a time: a date, a time of day, or both. -/
def readTime? (chars : List Char) : Option (Tree × List Char) :=
  let rest :=
    match readDate? chars with
    | none => readClock? chars
    | some rest =>
      match rest with
      | 'T' :: clock | 't' :: clock | ' ' :: clock =>
        match readClock? clock with
        | some rest => readOffset? rest
        | none => some rest
      | _ => some rest
  rest.map fun rest =>
    (.table [("$__toml_private_datetime",
      .text (String.ofList (chars.take (chars.length - rest.length))))], rest)

end ContainerTasks.Toml
