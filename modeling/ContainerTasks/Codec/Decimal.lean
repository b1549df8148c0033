/-! # Decimal numbers in text

Integers in several bases and the shape of decimal numbers, with the question
whether a decimal number is finite in double precision.
-/

namespace ContainerTasks.Codec.Decimal

/-- The value of a digit or letter in a base of at most 36. -/
def digitIn? (base : Nat) (c : Char) : Option Nat :=
  let value :=
    if '0' ≤ c && c ≤ '9' then some (c.toNat - 48)
    else if 'a' ≤ c && c ≤ 'z' then some (c.toNat - 87)
    else if 'A' ≤ c && c ≤ 'Z' then some (c.toNat - 55)
    else none
  value.filter (· < base)

/-- The number that digits spell; there must be at least one. -/
def natural? (base : Nat) (chars : List Char) : Option Nat :=
  if chars.isEmpty then none
  else chars.foldlM (fun n c => (digitIn? base c).map (n * base + ·)) 0

/-- A text without one plus sign in front. -/
def dropPlus : List Char → List Char
  | '+' :: rest => rest
  | chars => chars

/-- The first number above the range of double precision after rounding. -/
def overflow : Nat := Nat.pow 2 1024 - Nat.pow 2 970

/-- Whether a significand of decimal digits times a power of ten is finite in double
precision. -/
def isFinite (digits : List Char) (exponent : Int) : Bool :=
  let digits := digits.dropWhile (· == '0')
  let magnitude := (digits.length : Int) + exponent
  if digits.isEmpty || magnitude < 308 then true
  else if 310 < magnitude then false
  else
    let significand := digits.foldl (fun n c => n * 10 + (c.toNat - 48)) 0
    if 0 ≤ exponent then significand * Nat.pow 10 exponent.toNat < overflow
    else significand < overflow * Nat.pow 10 exponent.natAbs

/-- Reads the exponent at the end of a decimal number; none is zero. -/
def exponent? : List Char → Option Int
  | [] => some 0
  | c :: rest =>
    if c = 'e' || c = 'E' then
      match rest with
      | '-' :: digits => (natural? 10 digits).map fun n => -(n : Int)
      | '+' :: digits => (natural? 10 digits).map fun n => (n : Int)
      | digits => (natural? 10 digits).map fun n => (n : Int)
    else none

/-- The parts of a decimal number: its digits, and the power of ten they are multiplied
by. A sign may come first, a point may stand anywhere among the digits, and an
exponent may follow. -/
def parts? (chars : List Char) : Option (List Char × Int) :=
  let unsigned := match chars with
    | '-' :: rest => rest
    | '+' :: rest => rest
    | _ => chars
  let (whole, rest) := unsigned.span Char.isDigit
  let (fraction, rest) := match rest with
    | '.' :: rest => rest.span Char.isDigit
    | _ => ([], rest)
  if whole.isEmpty && fraction.isEmpty then none
  else
    (exponent? rest).map fun exponent => (whole ++ fraction, exponent - fraction.length)

/-- Whether a text is a decimal number. -/
def isNumber (chars : List Char) : Bool :=
  (parts? chars).isSome

/-- Whether a text is a decimal number that is finite in double precision. -/
def isFiniteNumber (chars : List Char) : Bool :=
  match parts? chars with
  | none => false
  | some (digits, exponent) => isFinite digits exponent

end ContainerTasks.Codec.Decimal
