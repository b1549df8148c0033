import ContainerTasks.CommandLine.Help
import ContainerTasks.Program.Commands
import ContainerTasks.Settings.Load
import ContainerTasks.Settings.LogFilter

/-! # The program

The program reads its command line, loads the settings, gets ready for log lines and
does what the command asks for. Its exit status is zero if all went well, two if the
command line cannot be read, one for any other complaint, and 101 if it breaks down;
a run ends with the exit code of its container as far as a status can show it.
-/

namespace ContainerTasks.Program

variable {δ : Type}

/-- The exit status that an exit code leaves: its lowest eight bits, or one if it is no
integer of 32 bits. -/
def exitStatus (code : Int) : Nat :=
  if Int32.minValue.toInt ≤ code && code ≤ Int32.maxValue.toInt then (code % 256).toNat else 1

/-- Loads the settings. -/
def settings (surroundings : Surroundings δ) (options : CommandLine.GlobalOptions) :
    Step δ Settings := do
  orComplain (fun error => { message := Settings.Error.message error })
    (Settings.load (← current).store surroundings.directory surroundings.home
      surroundings.environment options.configPath)

/-- Checks the filter of log lines. -/
def checkFilter (surroundings : Surroundings δ) (options : CommandLine.GlobalOptions)
    (settings : Settings) : Step δ Unit := do
  let _ ← orComplain (fun filter => { message := "Invalid log level '" ++ filter ++ "'" })
    (Settings.LogFilter.choose options.logLevel
      (surroundings.environment.lookup "RUST_LOG") settings.general.logLevel)

/-- Opens the file for log lines, which comes to be if it was not there. -/
def openLogFile (surroundings : Surroundings δ) : Option String → Step δ Unit
  | none => return
  | some path => do
    match (← current).store.opened? (Files.Path.join surroundings.directory path) with
    | some store => change fun state => { state with store }
    | none => complain { message := "Could not open log file '" ++ path ++ "'" }

/-- Does what an invocation asks for; the answer is the exit code. -/
def invoke (surroundings : Surroundings δ) (invocation : CommandLine.Invocation) :
    Step δ Int := do
  let settings ← settings surroundings invocation.options
  checkFilter surroundings invocation.options settings
  openLogFile surroundings invocation.options.logFile
  let context : Context δ :=
    { surroundings, settings, projectFile := invocation.options.projectFile }
  context.perform invocation.command

/-- Answers a command line that asks for no command. -/
def refuse (refusal : CommandLine.Invocation.Refusal) (state : State δ) : Nat × State δ :=
  let printing (text : String) : Nat × State δ :=
    (0, { state with printed := state.printed ++ [Text.Utf8.ofString text] })
  match refusal.interruption with
  | .help isLong => printing (CommandLine.helpText refusal.topic isLong)
  | .version => printing CommandLine.versionText
  | .usage error => (2, { state with warned := state.warned ++ CommandLine.usageText error })

/-- Runs the program on the words of a command line; the answer is the exit status. -/
def run (surroundings : Surroundings δ) (words : List String) (state : State δ) :
    Nat × State δ :=
  match CommandLine.Invocation.parse words with
  | .error refusal => refuse refusal state
  | .ok invocation =>
    match Id.run ((invoke surroundings invocation).run.run state) with
    | (.ok code, state) => (exitStatus code, state)
    | (.error stop, state) => (stop.status, { state with warned := state.warned ++ stop.text })

end ContainerTasks.Program
