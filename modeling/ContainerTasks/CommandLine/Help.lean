import ContainerTasks.CommandLine.Invocation
import ContainerTasks.Text.Margin
import ContainerTasks.Text.Wrapping

/-! # Help

What is printed about the command line: what a topic is about, its usage, and its
commands, arguments and options. Texts stand beside the names, or below them if they
would not fit otherwise; in the long form those about options always stand below.
-/

namespace ContainerTasks.CommandLine

/-- The name that the program is called by. -/
def programName : String := "gantry"

/-- What is printed about the version. -/
def versionText : String := programName ++ " 0.1.0\n"

/-- What is printed about a usage error. -/
def usageText (error : UsageError) : String :=
  "error: " ++ error.message ++ "\n\nFor more information, try '--help'.\n"

namespace Help

/-- How many columns a line may have. -/
def lineWidth : Nat := 100

/-- What the program is about, in short. -/
def programAbout : List String :=
  ["Gantry runs project tasks inside Docker containers."]

/-- What the program is about, line by line. -/
def programLongAbout : List String :=
  programAbout ++ ["",
    " A project file (gantry.yml) describes the containers a project needs, how their " ++
      "images are built or pulled and the tasks that run in them. Gantry starts a task's " ++
      "containers in dependency order, follows its output and cleans up afterwards."]

/-- Lines wrapped to a width, with line ends between them. -/
def wrapped (width : Nat) (lines : List String) : String :=
  String.intercalate "\n"
    (lines.map fun line => String.ofList (Text.wrapLine width line.toList))

/-- Something that help has a text about. -/
structure Item where
  name : String
  /-- The lines of the text. -/
  about : List String
deriving DecidableEq, Repr

/-- The margin of texts that stand below the names. -/
def belowMargin : Nat := 10

/-- Whether the texts beside names of a width leave so little room that one of them is
better set below. -/
def needsBelow (width : Nat) (items : List Item) : Bool :=
  let taken := width + 12
  40 < taken && items.any fun item =>
    lineWidth - taken < (String.intercalate " " item.about).length

/-- Items with the texts beside the names. `indent` is how far in the names begin, and
`width` how long they are at most. -/
def besides (indent width : Nat) (items : List Item) : String :=
  let margin := 2 + indent + width + 2
  String.intercalate "\n" (items.map fun item =>
    let room := 2 + indent + width + 2 - (2 + item.name.length)
    "  " ++ item.name ++ Text.spaces room ++
      Text.indented margin (wrapped (lineWidth - margin) [String.intercalate " " item.about]))

/-- Items with the texts below the names. -/
def below (separator : String) (lines : Item → List String) (items : List Item) : String :=
  String.intercalate separator (items.map fun item =>
    "  " ++ item.name ++ "\n" ++ Text.spaces belowMargin ++
      Text.indented belowMargin (wrapped (lineWidth - belowMargin) (lines item)))

/-- The length of the longest name. -/
def longest (names : List String) : Nat :=
  (names.map String.length).foldl max 2

/-- A short list of items. -/
def listed (items : List Item) : String :=
  let width := longest (items.map Item.name)
  if needsBelow width items then
    below "\n" (fun item => [String.intercalate " " item.about]) items
  else besides 0 width items

/-- The long name of an option, with a word for its value. -/
def longName (switch : Switch) : String :=
  match switch.purpose with
  | .value _ word | .values _ word => "--" ++ switch.long ++ " <" ++ word ++ ">"
  | .flag | .help | .version => "--" ++ switch.long

/-- How far in the long name of an option begins. -/
def shortWidth : Nat := 4

/-- The names of an option. -/
def switchName (switch : Switch) : String :=
  match switch.short with
  | some short => "-" ++ String.ofList [short] ++ ", " ++ longName switch
  | none => Text.spaces shortWidth ++ longName switch

/-- An option as an item. -/
def switchItem (about : String) (switch : Switch) : Item where
  name := switchName switch
  about := about :: (switch.usual.toList.map fun value => "[default: " ++ value ++ "]")

/-- A list of options, each with its text. -/
def listedSwitches (isLong : Bool) (switches : List (Switch × String)) : String :=
  let items := switches.map fun (switch, about) => switchItem about switch
  let width := longest (switches.map fun (switch, _) => longName switch)
  if isLong then
    below "\n\n" (fun item => item.about.intersperse "") items
  else if needsBelow width items then
    below "\n" (fun item => [String.intercalate " " item.about]) items
  else besides shortWidth width items

/-- What options of equal rank are sorted by. -/
def sortKey (switch : Switch) : String :=
  match switch.short with
  | some short =>
    String.ofList [short.toLower, if short.isLower then '0' else '1']
  | none => switch.long

/-- Options in the order in which help lists them: by their ranks, where the options of a
command have the same ranks as those that go for all commands. -/
def ranked (own : List Switch) : List Switch :=
  let ranks := GlobalOptions.switches.zipIdx ++ own.zipIdx
  let before (first second : Switch × Nat) : Bool :=
    first.2 < second.2 || (first.2 = second.2 && sortKey first.1 ≤ sortKey second.1)
  (ranks.mergeSort before).map Prod.fst

/-- A part of help. -/
def part (head content : String) : String :=
  head ++ ":\n" ++ content

/-- The text of help. -/
def page (about usage : String) (parts : List String) : String :=
  about ++ "\n\nUsage: " ++ programName ++ usage ++ "\n\n" ++
    String.intercalate "\n\n" parts ++ "\n"

/-- Help on the program. -/
def programPage (isLong : Bool) : String :=
  let helpAbout :=
    if isLong then "Print help (see a summary with '-h')"
    else "Print help (see more with '--help')"
  let switches := Invocation.grammar.switches.map fun switch =>
    (switch, if switch.purpose = .help then helpAbout else switch.about)
  page (wrapped lineWidth (if isLong then programLongAbout else programAbout))
    " [OPTIONS] <COMMAND>"
    [part "Commands" (listed (Invocation.commands.map fun (name, about) => ⟨name, [about]⟩)),
      part "Options" (listedSwitches isLong switches)]

/-- Help on a command. -/
def commandPage (name : String) : String :=
  let grammar := Invocation.commandGrammar name
  let own := if name = "run" then RunArguments.switches else []
  let switches := ranked own ++ grammar.switches.filter fun switch => switch.purpose = .help
  let arguments := grammar.arguments.map fun argument =>
    Item.mk ("<" ++ argument.name ++ ">") [argument.about]
  page ((Invocation.commands.lookup name).getD "")
    (" " ++ name ++ " [OPTIONS]" ++
      String.join (arguments.map fun item => " " ++ item.name))
    ((if arguments.isEmpty then [] else [part "Arguments" (listed arguments)]) ++
      [part "Options"
        (listedSwitches false (switches.map fun switch => (switch, switch.about)))])

/-- Help on help. -/
def helpPage : String :=
  page ((Invocation.commands.lookup "help").getD "") " help [COMMAND]..."
    [part "Arguments" (listed [⟨"[COMMAND]...", ["Print help for the subcommand(s)"]⟩])]

end Help

/-- Help on a topic. Only the program has a long form. -/
def helpText (topic : Topic) (isLong : Bool) : String :=
  match topic with
  | .program => Help.programPage isLong
  | .command name => Help.commandPage name
  | .help => Help.helpPage

end ContainerTasks.CommandLine
