import ContainerTasks.Program.Invoke

/-! # The executable

Reads the files that a command line leads to, runs the program and prints what it
says. Sockets of the file system are out of reach here, so there is no daemon: the
commands that need one say that they cannot connect.
-/

namespace ContainerTasks.Executable

/-- Adds the directory or the file that a path leads to, if there is one. -/
def addPath (store : Files.FileStore) (path : String) : IO Files.FileStore := do
  let parts := Files.Path.parts path
  try
    let found ← IO.FS.realPath path
    if ← found.isDir then return store.addDirectory parts
    else return store.addFile parts (← IO.FS.readBinFile path).toList
  catch _ => return store

/-- The paths that a command line leads to, as seen from a directory. -/
def pathsOf (directory : String) (home : Option String) (words : List String) : List String :=
  match CommandLine.Invocation.parse words with
  | .error _ => []
  | .ok invocation =>
    let options := invocation.options
    let named := (options.projectFile :: options.configPath.toList ++ options.logFile.toList).map
      (Files.Path.join directory)
    let around := options.logFile.toList.map fun path =>
      Files.Path.parent (Files.Path.join directory path)
    directory :: around ++ Settings.defaultPaths home ++ named

/-- The variables that the program looks at. -/
def variableNames : List String :=
  ["RUST_LOG", "GANTRY_GENERAL__LOG_LEVEL", "GANTRY_GENERAL__LOG_FORMAT",
    "GANTRY_GENERAL__NO_COLOR", "GANTRY_DOCKER__SOCKET", "GANTRY_DOCKER__TIMEOUT",
    "GANTRY_DOCKER__BUILDKIT", "GANTRY_DOCKER__STREAM_PASSTHROUGH",
    "GANTRY_EXECUTION__MAX_PARALLELISM", "GANTRY_EXECUTION__CLEANUP_AFTER_SUCCESS",
    "GANTRY_EXECUTION__CLEANUP_AFTER_FAILURE", "GANTRY_EXECUTION__STOP_TIMEOUT"]

/-- The variables of the environment that are set, with their values. -/
def environment : IO (List (String × String)) :=
  variableNames.filterMapM fun name => do
    return (← IO.getEnv name).map fun value => (name, value)

/-- Makes the files that a run of the program has added. -/
def makeFiles (before after : Files.FileStore) : IO Unit := do
  for (parts, entry) in after.entries do
    if let .file content := entry then
      if (before.at? parts).isNone then
        IO.FS.writeBinFile ("/" ++ String.intercalate "/" parts) (ByteArray.mk content.toArray)

end ContainerTasks.Executable

open ContainerTasks Executable in
/-- Runs the program on the words of its command line. -/
def main (words : List String) : IO UInt32 := do
  let directory := (← IO.currentDir).toString
  let home ← IO.getEnv "HOME"
  let store ← (pathsOf directory home words).foldlM addPath {}
  let surroundings : Program.Surroundings Unit :=
    { directory, home, environment := ← environment, daemon? := fun _ => none }
  let (status, state) := Program.run surroundings words { store, session := { state := () } }
  makeFiles store state.store
  (← IO.getStdout).write (ByteArray.mk state.printed.flatten.toArray)
  IO.eprint state.warned
  return UInt32.ofNat status
