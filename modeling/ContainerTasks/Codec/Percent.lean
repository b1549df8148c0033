import ContainerTasks.Text.Utf8

/-! # Percent encoding

Letters, digits and four marks stand for themselves; every other byte of a text is
written as a percent sign and two digits. `decode?` reads the bytes back.
-/

namespace ContainerTasks.Codec.Percent

/-- A byte that stands for itself. -/
def isUnreserved (byte : UInt8) : Bool :=
  let c := Char.ofNat byte.toNat
  byte < 128 && (c.isAlphanum || c == '-' || c == '_' || c == '.' || c == '~')

/-- An uppercase digit in base sixteen. -/
def hexDigit (n : Nat) : Char :=
  if n < 10 then Char.ofNat (n + 48) else Char.ofNat (n + 55)

/-- The value of a digit in base sixteen. -/
def hexValue? (c : Char) : Option Nat :=
  if '0' ≤ c && c ≤ '9' then some (c.toNat - 48)
  else if 'A' ≤ c && c ≤ 'F' then some (c.toNat - 55)
  else if 'a' ≤ c && c ≤ 'f' then some (c.toNat - 87)
  else none

/-- A byte as it is written. -/
def encodeByte (byte : UInt8) : List Char :=
  if isUnreserved byte then [Char.ofNat byte.toNat]
  else ['%', hexDigit (byte.toNat / 16), hexDigit (byte.toNat % 16)]

/-- A text as it is written. -/
def encode (text : String) : String :=
  String.ofList ((Text.Utf8.ofString text).flatMap encodeByte)

/-- The bytes that a written text stands for. -/
def decode? : List Char → Option Bytes
  | [] => some []
  | '%' :: a :: b :: rest => do
    let byte := UInt8.ofNat ((← hexValue? a) * 16 + (← hexValue? b))
    return byte :: (← decode? rest)
  | c :: rest => if c = '%' then none else (decode? rest).map (String.utf8EncodeChar c ++ ·)

end ContainerTasks.Codec.Percent
