/-! # UTF-8

Byte strings and the text they hold. `decode?` accepts exactly the well-formed
sequences; `decodeLossy` accepts everything and puts one replacement character
for each longest part that could still have begun a character but does not
complete one. Both walk the bytes once, carrying the character begun so far.
-/

namespace ContainerTasks

/-- Bytes in the order in which they were read or will be written. -/
abbrev Bytes := List UInt8

namespace Text.Utf8

/-- A character of several bytes whose first bytes have been read: `value` is
what they contribute, the next byte must lie between `low` and `high`, and
`after` further bytes follow that one. -/
structure Opened where
  value : Nat
  low : UInt8
  high : UInt8
  after : Nat
deriving DecidableEq, Repr

/-- What a byte means where a character may begin. -/
inductive Lead
  | scalar (char : Char)
  | opened (rest : Opened)
  | stray
deriving DecidableEq, Repr

/-- Reads a first byte. The ranges of the second byte keep out overlong forms,
surrogates and values above the last code point. -/
def lead (byte : UInt8) : Lead :=
  let b := byte.toNat
  if b < 0x80 then .scalar (Char.ofNat b)
  else if b < 0xC2 then .stray
  else if b < 0xE0 then .opened ⟨b % 32, 0x80, 0xBF, 0⟩
  else if b = 0xE0 then .opened ⟨0, 0xA0, 0xBF, 1⟩
  else if b = 0xED then .opened ⟨13, 0x80, 0x9F, 1⟩
  else if b < 0xF0 then .opened ⟨b % 16, 0x80, 0xBF, 1⟩
  else if b = 0xF0 then .opened ⟨0, 0x90, 0xBF, 2⟩
  else if b < 0xF4 then .opened ⟨b % 8, 0x80, 0xBF, 2⟩
  else if b = 0xF4 then .opened ⟨4, 0x80, 0x8F, 2⟩
  else .stray

/-- Reads a further byte of an opened character: the finished character, the
character with that byte taken in, or `stray` when the byte cannot stand there. -/
def Opened.next (opened : Opened) (byte : UInt8) : Lead :=
  if opened.low ≤ byte && byte ≤ opened.high then
    let value := opened.value * 64 + byte.toNat % 64
    match opened.after with
    | 0 => .scalar (Char.ofNat value)
    | after + 1 => .opened ⟨value, 0x80, 0xBF, after⟩
  else .stray

/-- The character put where bytes form none. -/
def replacement : Char := '\ufffd'

/-- Strict decoding from inside a character. -/
def decodeFrom : Option Opened → Bytes → Option (List Char)
  | none, [] => some []
  | some _, [] => none
  | none, byte :: rest =>
    match lead byte with
    | .scalar c => (decodeFrom none rest).map (c :: ·)
    | .opened o => decodeFrom (some o) rest
    | .stray => none
  | some o, byte :: rest =>
    match o.next byte with
    | .scalar c => (decodeFrom none rest).map (c :: ·)
    | .opened o => decodeFrom (some o) rest
    | .stray => none

/-- The characters of a well-formed byte string. -/
def decode? (bytes : Bytes) : Option (List Char) :=
  decodeFrom none bytes

/-- Lossy decoding from inside a character. A byte that breaks an opened
character is read again as a first byte. -/
def decodeLossyFrom : Option Opened → Bytes → List Char
  | none, [] => []
  | some _, [] => [replacement]
  | none, byte :: rest =>
    match lead byte with
    | .scalar c => c :: decodeLossyFrom none rest
    | .opened o => decodeLossyFrom (some o) rest
    | .stray => replacement :: decodeLossyFrom none rest
  | some o, byte :: rest =>
    match o.next byte with
    | .scalar c => c :: decodeLossyFrom none rest
    | .opened o => decodeLossyFrom (some o) rest
    | .stray =>
      match lead byte with
      | .scalar c => replacement :: c :: decodeLossyFrom none rest
      | .opened o => replacement :: decodeLossyFrom (some o) rest
      | .stray => replacement :: replacement :: decodeLossyFrom none rest

/-- The characters of a byte string, with a replacement character for each
longest part that is not well formed. -/
def decodeLossy (bytes : Bytes) : List Char :=
  decodeLossyFrom none bytes

/-- The bytes of a text. -/
def encode (chars : List Char) : Bytes :=
  chars.flatMap String.utf8EncodeChar

/-- The bytes of a string. -/
def ofString (text : String) : Bytes :=
  encode text.toList

/-- The string a byte string spells, if it is well formed. -/
def toString? (bytes : Bytes) : Option String :=
  (decode? bytes).map String.ofList

/-- The string a byte string spells, with replacement characters. -/
def toStringLossy (bytes : Bytes) : String :=
  String.ofList (decodeLossy bytes)

end Text.Utf8

end ContainerTasks
