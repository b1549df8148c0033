import ContainerTasks.CommandLine.RunArguments

/-! # Invocations of the program

The program is asked for one command. Options that go for all commands may stand
before the command and after it; what stands after it is stronger.
-/

namespace ContainerTasks.CommandLine

/-- What the program can be asked for. -/
inductive Command
  | run (arguments : RunArguments)
  /-- Lists the tasks. -/
  | tasks
  /-- Shows the containers that a task needs. -/
  | graph (task : String)
  /-- Builds the image of a container. -/
  | build (container : String)
deriving DecidableEq, Repr

/-- What goes for all commands. -/
structure GlobalOptions where
  /-- The configuration file to use in place of the usual ones. -/
  configPath : Option String := none
  /-- The project file. -/
  projectFile : String := "gantry.yml"
  logFile : Option String := none
  noColor : Bool := false
  logLevel : Option String := none
deriving DecidableEq, Repr

/-- An invocation of the program. -/
structure Invocation where
  options : GlobalOptions := {}
  command : Command
deriving DecidableEq, Repr

/-- What the words of a command line are about. -/
inductive Topic
  | program
  | command (name : String)
  /-- Help itself. -/
  | help
deriving DecidableEq, Repr

namespace GlobalOptions

/-- The options that go for all commands. -/
def switches : List Switch :=
  [
    { long := "config-path", purpose := .value .path "PATH"
      about := "Set configuration path; if empty default paths are used" },
    { long := "config-file", short := some 'f', purpose := .value .path "FILE"
      about := "Project file describing the containers and tasks"
      usual := some "gantry.yml" },
    { long := "log-file", purpose := .value .path "PATH"
      about := "Write internal logs to this file instead of stderr" },
    { long := "no-color"
      about := "Disable colored output" },
    { long := "log-level", purpose := .value .text "LEVEL"
      about :=
        "Minimum level of internal logs to show; overrides configuration and RUST_LOG" }]

/-- The options found before a command and after it. -/
def ofFound (before after : Found) : GlobalOptions :=
  let value? (option : String) := (after.value? option).or (before.value? option)
  { configPath := value? "config-path"
    projectFile := (value? "config-file").getD "gantry.yml"
    logFile := value? "log-file"
    noColor := after.has "no-color" || before.has "no-color"
    logLevel := value? "log-level" }

end GlobalOptions

namespace Invocation

/-- The commands, with what they do. -/
def commands : List (String × String) :=
  [
    ("run", "Run a task after its prerequisites"),
    ("tasks", "List the tasks the project defines"),
    ("graph", "Show the containers a task needs and the order they start in"),
    ("build", "Build the image of a single container, showing build progress"),
    ("help", "Print this message or the help of the given subcommand(s)")]

/-- The words before a command. -/
def grammar : Grammar where
  switches := GlobalOptions.switches ++
    [.forHelp "Print help (see more with '--help')",
      { long := "version", short := some 'V', purpose := .version, about := "Print version" }]
  commands := commands.map Prod.fst

/-- The words after a command. -/
def commandGrammar (name : String) : Grammar :=
  let own : List Switch := if name = "run" then RunArguments.switches else []
  { switches := GlobalOptions.switches ++ own ++ [.forHelp "Print help"]
    arguments :=
      match name with
      | "run" => RunArguments.grammar.arguments
      | "graph" => [{ name := "TASK", about := "Task to show the graph for" }]
      | "build" => [{ name := "CONTAINER", about := "Container whose image should be built" }]
      | _ => [] }

/-- The command with a name, given what was found after it. -/
def commandOf (name : String) (found : Found) : Except Interruption Command := do
  match name with
  | "run" => return .run (← RunArguments.ofFound found)
  | _ =>
    let found ← found.complete (commandGrammar name)
    let argument := found.arguments.headD ""
    match name with
    | "tasks" => return .tasks
    | "graph" => return .graph argument
    | "build" => return .build argument
    | _ => throw (.usage (.unknownCommand name))

/-- Why there is no invocation, and what this is about. -/
structure Refusal where
  topic : Topic := .program
  interruption : Interruption
deriving DecidableEq, Repr

/-- A result as one on a topic. -/
def on {α : Type} (topic : Topic) (result : Except Interruption α) : Except Refusal α :=
  result.mapError fun interruption => { topic, interruption }

/-- What the command for help asks for, given the words after it. -/
def helpOn : List String → Refusal
  | [] => { interruption := .help true }
  | [name] =>
    if name = "help" then { topic := .help, interruption := .help true }
    else if (commands.lookup name).isSome then
      { topic := .command name, interruption := .help true }
    else { interruption := .usage (.unknownCommand name) }
  | name :: other :: _ =>
    { interruption := .usage
        (.unknownCommand (if (commands.lookup name).isSome then other else name)) }

/-- Reads the words of a command line. The words after a command are read to their end
before the value of an option in front of it is looked at. -/
def parse (words : List String) : Except Refusal Invocation := do
  let (reading, command) ← on .program (read grammar {} words)
  match command with
  | none =>
    let _ ← on .program reading.settle
    throw { interruption := .usage .missingCommand }
  | some ("help", rest) => throw (helpOn rest)
  | some (name, rest) =>
    let after ← on (.command name) do
      let (reading, _) ← read (commandGrammar name) {} rest
      return (← reading.settle).found
    let command ← on (.command name) (commandOf name after)
    let before := (← on .program reading.settle).found
    return { options := GlobalOptions.ofFound before after, command }

end Invocation

end ContainerTasks.CommandLine
