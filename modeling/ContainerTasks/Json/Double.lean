/-! # Range of double precision

Whether a decimal number stays within the range of double precision when it is
read as a significand of 64 bits, rounded, and then scaled by a rounded power of
ten with a rounded product. Only overflow is asked for, so values are kept as
natural numbers.
-/

namespace ContainerTasks.Json.Double

/-- A natural number rounded to 53 significant bits, a half to the even
neighbour. -/
def round (n : Nat) : Nat :=
  let excess := n.log2 - 52
  let unit := Nat.pow 2 excess
  let down := n / unit
  let rest := n % unit
  let up := 2 * rest > unit || (2 * rest == unit && down % 2 == 1)
  (if up then down + 1 else down) * unit

/-- The first number that is too large. -/
def bound : Nat := Nat.pow 2 1024

/-- Whether a significand scaled by a power of ten is within range. -/
def inRange (significand : Nat) (exponent : Int) : Bool :=
  significand == 0 || exponent ≤ 0 ||
    (exponent ≤ 308 && round (round significand * round (Nat.pow 10 exponent.toNat)) < bound)

end ContainerTasks.Json.Double
