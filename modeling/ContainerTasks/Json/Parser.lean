import ContainerTasks.Json.Basic
import ContainerTasks.Json.Double

/-! # Reading JSON

`Json.parse?` accepts one value with white space around it. Refused are: 128 or
more nested arrays and objects, surrogates that are not in pairs, control
characters inside quotes, and numbers outside the range of double precision.
-/

namespace ContainerTasks.Json

/-- White space between tokens. -/
def isSpace (c : Char) : Bool :=
  c == ' ' || c == '\n' || c == '\t' || c == '\r'

/-- What follows the white space at the front. -/
def skipSpace (chars : List Char) : List Char :=
  chars.dropWhile isSpace

/-- The value of a digit in base sixteen. -/
def hexValue? (c : Char) : Option Nat :=
  if '0' ≤ c && c ≤ '9' then some (c.toNat - 48)
  else if 'a' ≤ c && c ≤ 'f' then some (c.toNat - 87)
  else if 'A' ≤ c && c ≤ 'F' then some (c.toNat - 55)
  else none

/-- Four digits in base sixteen. -/
def hexFour? (a b c d : Char) : Option Nat := do
  return (((← hexValue? a) * 16 + (← hexValue? b)) * 16 + (← hexValue? c)) * 16 + (← hexValue? d)

/-- The character that a backslash and a letter stand for. -/
def unescape? (c : Char) : Option Char :=
  if c = '"' || c = '\\' || c = '/' then some c
  else if c = 'b' then some '\x08'
  else if c = 'f' then some '\x0c'
  else if c = 'n' then some '\n'
  else if c = 'r' then some '\r'
  else if c = 't' then some '\t'
  else none

/-- The first halves of surrogate pairs. -/
def isHighSurrogate (n : Nat) : Bool :=
  0xD800 ≤ n && n < 0xDC00

/-- The second halves of surrogate pairs. -/
def isLowSurrogate (n : Nat) : Bool :=
  0xDC00 ≤ n && n < 0xE000

/-- Reads a string behind its opening quote: its characters and what follows. -/
def stringBody : List Char → Option (List Char × List Char)
  | [] => none
  | '"' :: rest => some ([], rest)
  | '\\' :: 'u' :: a :: b :: c :: d :: rest =>
    match hexFour? a b c d with
    | none => none
    | some n =>
      if isHighSurrogate n then
        match rest with
        | '\\' :: 'u' :: e :: f :: g :: h :: rest =>
          match hexFour? e f g h with
          | none => none
          | some m =>
            if isLowSurrogate m then
              (stringBody rest).map fun (body, after) =>
                (Char.ofNat (0x10000 + (n - 0xD800) * 1024 + (m - 0xDC00)) :: body, after)
            else none
        | _ => none
      else if isLowSurrogate n then none
      else (stringBody rest).map fun (body, after) => (Char.ofNat n :: body, after)
  | '\\' :: c :: rest =>
    match unescape? c with
    | none => none
    | some c => (stringBody rest).map fun (body, after) => (c :: body, after)
  | c :: rest =>
    if c = '\\' || c.toNat < 32 then none
    else (stringBody rest).map fun (body, after) => (c :: body, after)

/-- The digits at the front and the rest. -/
def digits (chars : List Char) : List Char × List Char :=
  chars.span Char.isDigit

/-- The number that digits spell. -/
def digitsValue (chars : List Char) : Nat :=
  chars.foldl (fun n c => n * 10 + (c.toNat - 48)) 0

/-- Takes digits into a significand for as long as it stays below two to the
64th: the significand and how many digits were taken. -/
def significandFrom (start : Nat) (chars : List Char) : Nat × Nat :=
  chars.foldl (fun (n, taken, full) c =>
    let next := n * 10 + (c.toNat - 48)
    if full || Nat.pow 2 64 ≤ next then (n, taken, true) else (next, taken + 1, false))
    (start, 0, false) |> fun (n, taken, _) => (n, taken)

/-- Whether a decimal is in range, given the digits before and behind the point
and the exponent. Digits behind the point that do not fit are dropped; digits
before it that do not fit raise the exponent. -/
def decimalInRange (whole fraction : List Char) (exponent : Int) : Bool :=
  let (head, taken) := significandFrom 0 whole
  if taken < whole.length then
    Double.inRange head (exponent + (whole.length - taken : Nat))
  else
    let (significand, taken) := significandFrom head fraction
    Double.inRange significand (exponent - taken)

/-- Reads the exponent of a number, if there is one: its value and the rest. -/
def exponent? (chars : List Char) : Option (Option Int × List Char) :=
  match chars with
  | c :: rest =>
    if c = 'e' || c = 'E' then
      let (negative, rest) :=
        match rest with
        | '-' :: rest => (true, rest)
        | '+' :: rest => (false, rest)
        | rest => (false, rest)
      let (ds, rest) := digits rest
      if ds.isEmpty then none
      else
        let n : Int := digitsValue ds
        some (some (if negative then -n else n), rest)
    else some (none, chars)
  | [] => some (none, [])

/-- Reads the part of a number behind the point, if there is one. -/
def fraction? (chars : List Char) : Option (Option (List Char) × List Char) :=
  match chars with
  | '.' :: rest =>
    let (ds, rest) := digits rest
    if ds.isEmpty then none else some (some ds, rest)
  | _ => some (none, chars)

/-- Reads a number. An integer that fits 64 bits, with or without sign, is kept
as such; zero with a minus sign is none. -/
def readNumber? (chars : List Char) : Option (Json × List Char) := do
  let (negative, rest) :=
    match chars with
    | '-' :: rest => (true, rest)
    | _ => (false, chars)
  let (whole, rest) := digits rest
  if whole.isEmpty || (1 < whole.length && whole.head? == some '0') then none
  else
    let (fraction, rest) ← fraction? rest
    let (exponent, rest) ← exponent? rest
    let value := digitsValue whole
    if fraction.isNone && exponent.isNone && value < Nat.pow 2 64 &&
        (!negative || (0 < value && value ≤ Nat.pow 2 63)) then
      return (integer (if negative then -(value : Int) else value), rest)
    else if decimalInRange whole (fraction.getD []) (exponent.getD 0) then
      return (decimal (String.ofList (chars.take (chars.length - rest.length))), rest)
    else none

/-- Reads the rest of a word whose value is known. -/
def word? (word : List Char) (value : Json) (chars : List Char) : Option (Json × List Char) :=
  if word.isPrefixOf chars then some (value, chars.drop word.length) else none

/-- How many arrays and objects may be nested. -/
def maxDepth : Nat := 127

mutual

/-- Reads a value without white space at the front. -/
def readValue? : (fuel depth : Nat) → List Char → Option (Json × List Char)
  | 0, _, _ => none
  | fuel + 1, depth, chars =>
    match chars with
    | [] => none
    | '"' :: rest => (stringBody rest).map fun (body, rest) => (string (String.ofList body), rest)
    | '[' :: rest =>
      if depth = 0 then none
      else
        match skipSpace rest with
        | ']' :: rest => some (array [], rest)
        | rest => (readItems? fuel (depth - 1) rest).map fun (items, rest) => (array items, rest)
    | '\x7b' :: rest =>
      if depth = 0 then none
      else
        match skipSpace rest with
        | '\x7d' :: rest => some (object [], rest)
        | rest =>
          (readMembers? fuel (depth - 1) rest).map fun (members, rest) => (object members, rest)
    | 't' :: rest => word? ['r', 'u', 'e'] (bool true) rest
    | 'f' :: rest => word? ['a', 'l', 's', 'e'] (bool false) rest
    | 'n' :: rest => word? ['u', 'l', 'l'] null rest
    | _ => readNumber? chars

/-- Reads the items of an array up to its end, at least one. -/
def readItems? : (fuel depth : Nat) → List Char → Option (List Json × List Char)
  | 0, _, _ => none
  | fuel + 1, depth, chars =>
    match readValue? fuel depth chars with
    | none => none
    | some (item, rest) =>
      match skipSpace rest with
      | ']' :: rest => some ([item], rest)
      | ',' :: rest =>
        (readItems? fuel depth (skipSpace rest)).map fun (items, rest) => (item :: items, rest)
      | _ => none

/-- Reads the members of an object up to its end, at least one. -/
def readMembers? : (fuel depth : Nat) → List Char → Option (List (String × Json) × List Char)
  | 0, _, _ => none
  | fuel + 1, depth, chars =>
    match chars with
    | '"' :: rest =>
      match stringBody rest with
      | none => none
      | some (key, rest) =>
        match skipSpace rest with
        | ':' :: rest =>
          match readValue? fuel depth (skipSpace rest) with
          | none => none
          | some (value, rest) =>
            match skipSpace rest with
            | '\x7d' :: rest => some ([(String.ofList key, value)], rest)
            | ',' :: rest =>
              (readMembers? fuel depth (skipSpace rest)).map fun (members, rest) =>
                ((String.ofList key, value) :: members, rest)
            | _ => none
        | _ => none
    | _ => none

end

/-- Reads a text that holds one value. Each step of the reader takes at least
one character for two steps of fuel, so the fuel given suffices. -/
def parseChars? (chars : List Char) : Option Json :=
  match readValue? (2 * chars.length + 2) maxDepth (skipSpace chars) with
  | none => none
  | some (json, rest) => if (skipSpace rest).isEmpty then some json else none

/-- Reads a string that holds one value. -/
def parse? (text : String) : Option Json :=
  parseChars? text.toList

end ContainerTasks.Json
