import ContainerTasks.CommandLine.Grammar

/-! # Reading command lines

The words of a command line are read one after the other. The value of an option is
attached to it or is the next word, and it is looked at only when more is known
about the line: at the next option, at the next argument or at the end. After two
dashes every word is an argument.
-/

namespace ContainerTasks.CommandLine

/-- What a command line holds: the options with their values, and the arguments. -/
structure Found where
  options : List (String × String) := []
  arguments : List String := []
deriving DecidableEq, Repr

namespace Found

/-- Whether an option was given. -/
def has (found : Found) (option : String) : Bool :=
  found.options.any fun (name, _) => name = option

/-- The value of an option. -/
def value? (found : Found) (option : String) : Option String :=
  found.options.lookup option

/-- The values of an option, in order. -/
def values (found : Found) (option : String) : List String :=
  found.options.filterMap fun (name, value) => if name = option then some value else none

end Found

/-- An option whose value was not looked at yet, or is still to come. -/
structure Pending where
  switch : Switch
  kind : ValueKind
  value : Option String := none
deriving DecidableEq, Repr

/-- How far a command line was read. -/
structure Reading where
  found : Found := {}
  pending : Option Pending := none
deriving DecidableEq, Repr

namespace Reading

/-- Adds an option. -/
def add (reading : Reading) (switch : Switch) (value : String) : Except Interruption Reading :=
  if reading.found.has switch.long && !switch.repeats then
    .error (.usage (.conflict switch.long switch.long))
  else
    let found := { reading.found with options := reading.found.options ++ [(switch.long, value)] }
    .ok { reading with found }

/-- Adds an option with a value. -/
def addValue (reading : Reading) (switch : Switch) (kind : ValueKind) (value : String) :
    Except Interruption Reading := do
  let reading ← reading.add switch value
  match kind.fault? value with
  | none => return reading
  | some .empty => throw (.usage (.missingValue switch.long))
  | some .malformed => throw (.usage (.malformedValue switch.long value))

/-- Looks at the value that was not looked at yet. -/
def settle (reading : Reading) : Except Interruption Reading :=
  match reading.pending with
  | none => .ok reading
  | some { switch, value := none, .. } => .error (.usage (.missingValue switch.long))
  | some { switch, kind, value := some value } =>
    addValue { reading with pending := none } switch kind value

/-- Whether the next word is a value. -/
def isAwaiting (reading : Reading) : Bool :=
  match reading.pending with
  | some { value := none, .. } => true
  | _ => false

/-- Takes an option without a value attached to it. `isLong` says how it was named. -/
def takeBare (reading : Reading) (switch : Switch) (isLong : Bool) :
    Except Interruption Reading := do
  let reading ← reading.settle
  match switch.purpose with
  | .flag => reading.add switch ""
  | .value kind _ | .values kind _ => return { reading with pending := some { switch, kind } }
  | .help => throw (.help isLong)
  | .version => throw .version

/-- Takes an option with a value attached to it. -/
def takeAttached (reading : Reading) (switch : Switch) (value : String) :
    Except Interruption Reading :=
  match switch.kind? with
  | some kind => do (← reading.settle).addValue switch kind value
  | none => .error (.usage (.surplusValue switch.long value))

/-- Takes an option by its long name. -/
def takeLong (grammar : Grammar) (reading : Reading) (word : List Char) :
    Except Interruption Reading :=
  let (name, value) := word.span (· != '=')
  match grammar.long? (String.ofList name), value with
  | none, _ => .error (.usage (.unknownArgument ("--" ++ String.ofList word)))
  | some switch, [] => reading.takeBare switch true
  | some switch, _ :: value => reading.takeAttached switch (String.ofList value)

/-- Takes options by their short names. One that has a value takes what follows its
name, if anything does. -/
def takeShort (grammar : Grammar) (reading : Reading) : List Char → Except Interruption Reading
  | [] => .ok reading
  | name :: rest =>
    match grammar.short? name with
    | none => .error (.usage (.unknownArgument ("-" ++ String.ofList [name])))
    | some switch =>
      match switch.kind?, rest with
      | none, _ => do takeShort grammar (← reading.takeBare switch false) rest
      | some _, [] => reading.takeBare switch false
      | some _, '=' :: value => reading.takeAttached switch (String.ofList value)
      | some _, value => reading.takeAttached switch (String.ofList value)

/-- Takes an argument. -/
def takeArgument (grammar : Grammar) (reading : Reading) (word : String) :
    Except Interruption Reading :=
  if reading.found.arguments.length < grammar.arguments.length then do
    let reading ← reading.settle
    let found := { reading.found with arguments := reading.found.arguments ++ [word] }
    return { reading with found }
  else if grammar.commands.isEmpty then .error (.usage (.unknownArgument word))
  else .error (.usage (.unknownCommand word))

/-- Reads words that are arguments. -/
def readArguments (grammar : Grammar) (reading : Reading) (words : List String) :
    Except Interruption Reading :=
  words.foldlM (takeArgument grammar) reading

/-- Takes a word that is neither a command nor the two dashes. -/
def takeWord (grammar : Grammar) (reading : Reading) (word : String) :
    Except Interruption Reading :=
  match word.toList, reading.pending with
  | '-' :: '-' :: chars, _ => takeLong grammar reading chars
  | '-' :: c :: chars, _ => takeShort grammar reading (c :: chars)
  | _, some { switch, kind, value := none } =>
    .ok { reading with pending := some { switch, kind, value := some word } }
  | _, _ => takeArgument grammar reading word

end Reading

/-- Reads words up to a command, if there is one; the answer has its name and the words
after it. -/
def read (grammar : Grammar) : Reading → List String →
    Except Interruption (Reading × Option (String × List String))
  | reading, [] => .ok (reading, none)
  | reading, word :: rest =>
    if !reading.isAwaiting && grammar.commands.contains word then
      .ok (reading, some (word, rest))
    else if word = "--" then do return (← Reading.readArguments grammar reading rest, none)
    else do read grammar (← Reading.takeWord grammar reading word) rest

/-- Whether every argument is there. -/
def Found.complete (grammar : Grammar) (found : Found) : Except Interruption Found :=
  match grammar.arguments.drop found.arguments.length with
  | [] => .ok found
  | argument :: _ => .error (.usage (.missingArgument argument.name))

end ContainerTasks.CommandLine
