import ContainerTasks.Text.Utf8

/-! # Base64

The standard alphabet with mandatory padding. Reading accepts exactly what
writing produces: the padding must be there, the bits it leaves over must be
zero, and nothing stands between the digits.
-/

namespace ContainerTasks.Codec.Base64

/-- The value of a digit. -/
def digit? (c : Char) : Option Nat :=
  if 'A' ≤ c && c ≤ 'Z' then some (c.toNat - 65)
  else if 'a' ≤ c && c ≤ 'z' then some (c.toNat - 71)
  else if '0' ≤ c && c ≤ '9' then some (c.toNat + 4)
  else if c = '+' then some 62
  else if c = '/' then some 63
  else none

/-- The digit for a value below 64. -/
def digit (n : Nat) : Char :=
  if n < 26 then Char.ofNat (n + 65)
  else if n < 52 then Char.ofNat (n + 71)
  else if n < 62 then Char.ofNat (n - 4)
  else if n = 62 then '+'
  else '/'

/-- The character that fills the last group. -/
def padding : Char := '='

/-- Writes groups of three bytes as four digits. -/
def encode : Bytes → List Char
  | [] => []
  | [x] =>
    let n := x.toNat * 16
    [digit (n / 64), digit (n % 64), padding, padding]
  | [x, y] =>
    let n := (x.toNat * 256 + y.toNat) * 4
    [digit (n / 4096), digit (n / 64 % 64), digit (n % 64), padding]
  | x :: y :: z :: rest =>
    let n := (x.toNat * 256 + y.toNat) * 256 + z.toNat
    digit (n / 262144) :: digit (n / 4096 % 64) :: digit (n / 64 % 64) :: digit (n % 64) ::
      encode rest

/-- The byte of a one-byte last group, given its two digits. -/
def lastOne (a b : Nat) : Option Bytes :=
  if b % 16 = 0 then some [UInt8.ofNat (a * 4 + b / 16)] else none

/-- The bytes of a two-byte last group, given its three digits. -/
def lastTwo (a b c : Nat) : Option Bytes :=
  if c % 4 = 0 then
    some [UInt8.ofNat (a * 4 + b / 16), UInt8.ofNat (b % 16 * 16 + c / 4)]
  else none

/-- The bytes of a full group, given its four digits. -/
def triple (a b c d : Nat) : Bytes :=
  [UInt8.ofNat (a * 4 + b / 16), UInt8.ofNat (b % 16 * 16 + c / 4), UInt8.ofNat (c % 4 * 64 + d)]

/-- Reads four characters at a time; padding may fill up the last group only. -/
def decode? : List Char → Option Bytes
  | [] => some []
  | w :: x :: y :: z :: rest => do
    let a ← digit? w
    let b ← digit? x
    if z = padding ∧ rest = [] then
      if y = padding then lastOne a b else lastTwo a b (← digit? y)
    else
      let c ← digit? y
      let d ← digit? z
      let tail ← decode? rest
      return triple a b c d ++ tail
  | _ => none

end ContainerTasks.Codec.Base64
