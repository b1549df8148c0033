import ContainerTasks.Text.Cut
import ContainerTasks.Text.WordCharacter

/-! # Filters of log lines

A filter is a list of directives with commas between them. A directive is a level, or
says for which targets and spans a level goes. Only their form matters here.
-/

namespace ContainerTasks.Settings.LogFilter

/-- The names of levels; the levels also have numbers. -/
def levelNames : List String :=
  ["trace", "debug", "info", "warn", "error", "off"]

/-- Whether a text is a level. Capital letters count as small ones. -/
def isLevel (chars : List Char) : Bool :=
  levelNames.contains (String.ofList (chars.map Char.toLower)) ||
    match chars with
    | [c] => '0' ≤ c && c ≤ '5'
    | _ => false

/-- Whether targets may contain a character. -/
def isTargetCharacter (c : Char) : Bool :=
  c = ':' || c = '-' || Text.isWordCharacter c

/-- The rest of a text behind a target or a span in brackets. -/
def afterPlace? : List Char → Option (List Char)
  | '[' :: rest =>
    match rest.dropWhile (· != ']') with
    | _ :: rest => some rest
    | [] => none
  | c :: rest =>
    if isTargetCharacter c then some (rest.dropWhile isTargetCharacter) else none
  | [] => none

/-- Whether a text ends a directive: with nothing, or with an equals sign and a level if
any. -/
def isEnding : List Char → Bool
  | [] => true
  | '=' :: level => level.isEmpty || isLevel level
  | _ => false

/-- Whether a text is a directive. -/
def isDirective (chars : List Char) : Bool :=
  isLevel chars ||
    match afterPlace? chars with
    | none => false
    | some rest => isEnding rest ||
      match afterPlace? rest with
      | none => false
      | some rest => isEnding rest

/-- Whether a text is a filter. Empty directives say nothing. -/
def isValid (text : String) : Bool :=
  (Text.cutAt ',' text.toList).all fun directive => directive.isEmpty || isDirective directive

/-- The filter to use: one that was asked for, or else that of the environment if it is
valid, or else that of the settings; none if this is not valid. -/
def choose (asked : Option String) (environment : Option String) (settings : String) :
    Except String String :=
  match asked, environment.filter isValid with
  | none, some filter => .ok filter
  | _, _ =>
    let filter := asked.getD settings
    if isValid filter then .ok filter else .error filter

end ContainerTasks.Settings.LogFilter
