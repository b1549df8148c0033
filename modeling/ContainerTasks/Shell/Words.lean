/-! # Words of a command line

Splitting a command into words by the quoting rules of the shell: single quotes
keep everything, double quotes keep everything but a few escapes, a backslash
keeps the next character, and a number sign at the start of a word begins a
comment. The text is read one character at a time.
-/

namespace ContainerTasks.Shell

/-- Where the reading stands; inside a word, with what it holds so far. -/
inductive State
  | between
  | comment
  | plain (word : List Char)
  | escaped (word : List Char)
  | single (word : List Char)
  | double (word : List Char)
  | doubleEscaped (word : List Char)
deriving DecidableEq, Repr

/-- A character that separates words. -/
def isSeparator (c : Char) : Bool :=
  c == ' ' || c == '\t' || c == '\n'

/-- A character that a backslash keeps between double quotes. -/
def isEscapable (c : Char) : Bool :=
  c == '$' || c == '\x60' || c == '"' || c == '\\'

/-- Takes a character outside quotes into a word. -/
def enter (word : List Char) (c : Char) : State :=
  if c = '"' then .double word
  else if c = '\'' then .single word
  else if c = '\\' then .escaped word
  else .plain (word ++ [c])

/-- Takes one character: where the reading stands then, and the word that has
ended. -/
def step : State → Char → State × Option (List Char)
  | .between, c =>
    if isSeparator c then (.between, none)
    else if c = '#' then (.comment, none)
    else (enter [] c, none)
  | .comment, c => (if c = '\n' then .between else .comment, none)
  | .plain word, c => if isSeparator c then (.between, some word) else (enter word c, none)
  | .escaped word, c => (.plain (if c = '\n' then word else word ++ [c]), none)
  | .single word, c => (if c = '\'' then .plain word else .single (word ++ [c]), none)
  | .double word, c =>
    if c = '"' then (.plain word, none)
    else if c = '\\' then (.doubleEscaped word, none)
    else (.double (word ++ [c]), none)
  | .doubleEscaped word, c =>
    if isEscapable c then (.double (word ++ [c]), none)
    else if c = '\n' then (.double word, none)
    else (.double (word ++ ['\\', c]), none)

/-- The words left at the end of the text; none if it ends inside quotes or behind
a backslash. -/
def finish : State → Option (List (List Char))
  | .between | .comment => some []
  | .plain word => some [word]
  | .escaped _ | .single _ | .double _ | .doubleEscaped _ => none

/-- The words of a text that is read from some state on. -/
def wordsFrom : State → List Char → Option (List (List Char))
  | state, [] => finish state
  | state, c :: rest =>
    match step state c with
    | (state, none) => wordsFrom state rest
    | (state, some word) => (wordsFrom state rest).map (word :: ·)

/-- The words of a text. -/
def words? (text : String) : Option (List String) :=
  (wordsFrom .between text.toList).map (·.map String.ofList)

end ContainerTasks.Shell
