import ContainerTasks.Run.Options
import ContainerTasks.Tree

/-! # Settings

What can be set in configuration files and by environment variables: three
sections, each with its settings. Settings are read from a tree that holds all of
them; what it holds besides has no effect.
-/

namespace ContainerTasks

namespace Settings

/-- The form of log lines. -/
inductive LogFormat
  | pretty
  | json
deriving DecidableEq, Repr

namespace LogFormat

/-- The name of a form. -/
def name : LogFormat → String
  | pretty => "pretty"
  | json => "json"

/-- The form with a name. -/
def ofName? (name : String) : Option LogFormat :=
  [pretty, json].find? fun format => format.name = name

/-- What is said about a name that no form has. -/
def unknownMessage : String := "Matching variant not found"

end LogFormat

/-- Settings of the program as a whole. -/
structure General where
  logLevel : String := "info"
  logFormat : LogFormat := .pretty
  noColor : Bool := false
deriving DecidableEq, Repr

/-- Settings of the daemon that runs containers. -/
structure Docker where
  /-- The path of its socket. -/
  socket : String := "/var/run/docker.sock"
  /-- The seconds that a request may be pending. -/
  timeout : UInt64 := 120
  /-- Whether images are built with progress reports. -/
  buildkit : Bool := true
  /-- Whether plain build output is copied. -/
  streamPassthrough : Bool := false
deriving DecidableEq, Repr

/-- Settings of runs. -/
structure Execution where
  maxParallelism : UInt64 := 4
  cleanupAfterSuccess : Bool := true
  cleanupAfterFailure : Bool := true
  /-- The seconds that a container has to stop. -/
  stopTimeout : Int := 10
deriving DecidableEq, Repr

end Settings

/-- The settings of the program. -/
structure Settings where
  general : Settings.General := {}
  docker : Settings.Docker := {}
  execution : Settings.Execution := {}
deriving DecidableEq, Repr

namespace Settings

/-- The settings of a section: the entries of a table, or the items of a list in the
order of the names. -/
def entriesOf? (names : List String) : Tree → Option (List (String × Tree))
  | .table entries => some entries
  | .list items => Tree.fieldsOfList (names.map fun name => ⟨name, false⟩) items
  | _ => none

/-- An integer of 64 bits without a sign. -/
def unsigned? (tree : Tree) : Option UInt64 :=
  tree.integer?.bind fun n =>
    if 0 ≤ n && n.toNat < UInt64.size then some (UInt64.ofNat n.toNat) else none

/-- An integer of 64 bits with a sign. -/
def signed? (tree : Tree) : Option Int :=
  tree.integer?.filter fun n => Int64.minValue.toInt ≤ n && n ≤ Int64.maxValue.toInt

namespace General

/-- The names of the settings, in order. -/
def names : List String := ["log_level", "log_format", "no_color"]

/-- Reads the section. -/
def ofTree? (tree : Tree) : Option General := do
  let entries ← entriesOf? names tree
  return {
    logLevel := ← (entries.lookup "log_level").bind Tree.text?
    logFormat := ← ((entries.lookup "log_format").bind Tree.text?).bind LogFormat.ofName?
    noColor := ← (entries.lookup "no_color").bind Tree.bool? }

/-- The section as a tree. -/
def toTree (general : General) : Tree :=
  .table [("log_level", .text general.logLevel), ("log_format", .text general.logFormat.name),
    ("no_color", .bool general.noColor)]

end General

namespace Docker

/-- The names of the settings, in order. -/
def names : List String := ["socket", "timeout", "buildkit", "stream_passthrough"]

/-- Reads the section. -/
def ofTree? (tree : Tree) : Option Docker := do
  let entries ← entriesOf? names tree
  return {
    socket := ← (entries.lookup "socket").bind Tree.text?
    timeout := ← (entries.lookup "timeout").bind unsigned?
    buildkit := ← (entries.lookup "buildkit").bind Tree.bool?
    streamPassthrough := ← (entries.lookup "stream_passthrough").bind Tree.bool? }

/-- The section as a tree. -/
def toTree (docker : Docker) : Tree :=
  .table [("socket", .text docker.socket), ("timeout", .integer docker.timeout.toNat),
    ("buildkit", .bool docker.buildkit), ("stream_passthrough", .bool docker.streamPassthrough)]

end Docker

namespace Execution

/-- The names of the settings, in order. -/
def names : List String :=
  ["max_parallelism", "cleanup_after_success", "cleanup_after_failure", "stop_timeout"]

/-- Reads the section. -/
def ofTree? (tree : Tree) : Option Execution := do
  let entries ← entriesOf? names tree
  return {
    maxParallelism := ← (entries.lookup "max_parallelism").bind unsigned?
    cleanupAfterSuccess := ← (entries.lookup "cleanup_after_success").bind Tree.bool?
    cleanupAfterFailure := ← (entries.lookup "cleanup_after_failure").bind Tree.bool?
    stopTimeout := ← (entries.lookup "stop_timeout").bind signed? }

/-- The section as a tree. -/
def toTree (execution : Execution) : Tree :=
  .table [("max_parallelism", .integer execution.maxParallelism.toNat),
    ("cleanup_after_success", .bool execution.cleanupAfterSuccess),
    ("cleanup_after_failure", .bool execution.cleanupAfterFailure),
    ("stop_timeout", .integer execution.stopTimeout)]

/-- The options of a run that only the settings say anything about. -/
def runOptions (execution : Execution) : Run.Options where
  maxParallelism := execution.maxParallelism
  cleanupAfterSuccess := execution.cleanupAfterSuccess
  cleanupAfterFailure := execution.cleanupAfterFailure
  stopTimeout := execution.stopTimeout

end Execution

/-- Reads settings from a tree that holds all of them. -/
def ofTree? (tree : Tree) : Option Settings := do
  let entries ← tree.table?
  return {
    general := ← (entries.lookup "general").bind General.ofTree?
    docker := ← (entries.lookup "docker").bind Docker.ofTree?
    execution := ← (entries.lookup "execution").bind Execution.ofTree? }

/-- Settings as a tree. -/
def toTree (settings : Settings) : Tree :=
  .table [("general", settings.general.toTree), ("docker", settings.docker.toTree),
    ("execution", settings.execution.toTree)]

end Settings

end ContainerTasks
