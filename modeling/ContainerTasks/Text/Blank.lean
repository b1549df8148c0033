/-! # Blank characters

The characters with the Unicode property White_Space, and the trimming of a
text by them.
-/

namespace ContainerTasks.Text

/-- Membership in the property White_Space. -/
def isBlank (c : Char) : Bool :=
  let n := c.toNat
  (9 ≤ n && n ≤ 13) || n == 0x20 || n == 0x85 || n == 0xA0 || n == 0x1680 ||
    (0x2000 ≤ n && n ≤ 0x200A) || n == 0x2028 || n == 0x2029 || n == 0x202F ||
    n == 0x205F || n == 0x3000

/-- A text without the characters at its end that satisfy `p`. -/
def dropWhileEnd (p : Char → Bool) (chars : List Char) : List Char :=
  (chars.reverse.dropWhile p).reverse

/-- A text without the blanks around it. -/
def trimChars (chars : List Char) : List Char :=
  dropWhileEnd isBlank (chars.dropWhile isBlank)

/-- A string without the blanks around it. -/
def trim (text : String) : String :=
  String.ofList (trimChars text.toList)

/-- A string without the blanks at its end. -/
def trimEnd (text : String) : String :=
  String.ofList (dropWhileEnd isBlank text.toList)

/-- A string of blanks only; the empty string is one. -/
def isBlankText (text : String) : Bool :=
  text.toList.all isBlank

end ContainerTasks.Text
