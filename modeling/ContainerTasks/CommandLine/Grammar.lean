import ContainerTasks.Codec.Decimal
import ContainerTasks.Project.Override

/-! # Grammars of command lines

A command line is a list of words. Its grammar says which options, arguments and
commands the words may be.
-/

namespace ContainerTasks.CommandLine

/-- What the value of an option has to be. -/
inductive ValueKind
  | text
  | path
  | count
  | imageOverride
deriving DecidableEq, Repr

/-- What is wrong with the value of an option. -/
inductive ValueFault
  | empty
  | malformed
deriving DecidableEq, Repr

/-- A count of 64 bits in decimal digits; one plus sign may come first. -/
def count? (text : String) : Option UInt64 :=
  (Codec.Decimal.natural? 10 (Codec.Decimal.dropPlus text.toList)).bind fun n =>
    if n < UInt64.size then some (UInt64.ofNat n) else none

/-- What is wrong with a value. -/
def ValueKind.fault? (kind : ValueKind) (value : String) : Option ValueFault :=
  match kind with
  | text => none
  | path => if value.isEmpty then some .empty else none
  | count => if (count? value).isNone then some .malformed else none
  | imageOverride =>
    match Project.ImageOverride.parse value with
    | .ok _ => none
    | .error _ => some .malformed

/-- What an option is for. -/
inductive Purpose
  /-- It says something by being there. -/
  | flag
  /-- It has a value, shown by a word for it. -/
  | value (kind : ValueKind) (word : String)
  /-- It has a value and may be given any number of times. -/
  | values (kind : ValueKind) (word : String)
  /-- It asks for help. -/
  | help
  /-- It asks for the version. -/
  | version
deriving DecidableEq, Repr

/-- An option. -/
structure Switch where
  long : String
  short : Option Char := none
  purpose : Purpose := .flag
  about : String
  /-- What the option amounts to when it is not given. -/
  usual : Option String := none
deriving DecidableEq, Repr

/-- The option that asks for help. -/
def Switch.forHelp (about : String) : Switch :=
  { long := "help", short := some 'h', purpose := .help, about }

/-- The kind of the value that an option has. -/
def Switch.kind? (switch : Switch) : Option ValueKind :=
  match switch.purpose with
  | .value kind _ | .values kind _ => some kind
  | .flag | .help | .version => none

/-- Whether an option may be given more than once. -/
def Switch.repeats (switch : Switch) : Bool :=
  match switch.purpose with
  | .values _ _ => true
  | _ => false

/-- An argument, which must be given. -/
structure Argument where
  name : String
  about : String
deriving DecidableEq, Repr

/-- What the words of a command line may be. -/
structure Grammar where
  switches : List Switch := []
  arguments : List Argument := []
  /-- The names of commands, each with a grammar of its own. -/
  commands : List String := []
deriving DecidableEq, Repr

namespace Grammar

/-- The option with a long name. -/
def long? (grammar : Grammar) (name : String) : Option Switch :=
  grammar.switches.find? fun switch => switch.long = name

/-- The option with a short name. -/
def short? (grammar : Grammar) (name : Char) : Option Switch :=
  grammar.switches.find? fun switch => switch.short = some name

end Grammar

/-- What is wrong with a command line. -/
inductive UsageError
  | unknownArgument (word : String)
  | unknownCommand (word : String)
  | missingValue (option : String)
  | malformedValue (option value : String)
  /-- An option that has no value was given one. -/
  | surplusValue (option value : String)
  /-- Options that exclude each other, or one given twice. -/
  | conflict (option other : String)
  | missingArgument (name : String)
  | missingCommand
deriving DecidableEq, Repr

/-- The wording of a usage error. -/
def UsageError.message : UsageError → String
  | unknownArgument word => "unexpected argument '" ++ word ++ "' found"
  | unknownCommand word => "unrecognized subcommand '" ++ word ++ "'"
  | missingValue option => "a value is required for '--" ++ option ++ "' but none was supplied"
  | malformedValue option value => "invalid value '" ++ value ++ "' for '--" ++ option ++ "'"
  | surplusValue option value =>
    "unexpected value '" ++ value ++ "' for '--" ++ option ++ "' found; no more were expected"
  | conflict option other =>
    if option = other then "the argument '--" ++ option ++ "' cannot be used multiple times"
    else "the argument '--" ++ option ++ "' cannot be used with '--" ++ other ++ "'"
  | missingArgument name => "the required argument <" ++ name ++ "> was not provided"
  | missingCommand => "a subcommand is required but was not provided"

/-- Why a command line is not read to its end. -/
inductive Interruption
  /-- Help is asked for. -/
  | help (isLong : Bool)
  /-- The version is asked for. -/
  | version
  | usage (error : UsageError)
deriving DecidableEq, Repr

end ContainerTasks.CommandLine
