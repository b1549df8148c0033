import ContainerTasks.Journal
import ContainerTasks.Project.Basic

/-! # Structured values in the journal

Texts in quotes, lists in square brackets, and sets and maps in braces. Inside
quotes a backslash escapes quotes, backslashes and what cannot be printed.
-/

namespace ContainerTasks.Journal

/-- The digits of a number in base sixteen, without zeros in front. -/
def hexDigits (n : Nat) : List Char :=
  Nat.toDigits 16 n

/-- A character inside quotes. -/
def quoteChar (c : Char) : List Char :=
  if c = '"' then ['\\', '"']
  else if c = '\\' then ['\\', '\\']
  else if c = '\n' then ['\\', 'n']
  else if c = '\r' then ['\\', 'r']
  else if c = '\t' then ['\\', 't']
  else if c = '\x00' then ['\\', '0']
  else if c.toNat < 32 || c.toNat = 127 then
    ['\\', 'u', '\x7b'] ++ hexDigits c.toNat ++ ['\x7d']
  else [c]

/-- A text in quotes. -/
def quote (text : String) : String :=
  "\"" ++ String.ofList (text.toList.flatMap quoteChar) ++ "\""

/-- Texts in quotes between brackets. -/
def quoteList (texts : List String) : String :=
  "[" ++ String.intercalate ", " (texts.map quote) ++ "]"

/-- A set of names. -/
def quoteSet (names : NameSet) : String :=
  "\x7b" ++ String.intercalate ", " (names.toList.map quote) ++ "\x7d"

/-- Sets of names by name. -/
def quoteSets (sets : Std.ExtTreeMap String NameSet) : String :=
  "\x7b" ++ String.intercalate ", "
    (sets.toList.map fun (name, names) => quote name ++ ": " ++ quoteSet names) ++ "\x7d"

end ContainerTasks.Journal
