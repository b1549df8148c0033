import ContainerTasks.CommandLine.Invocation
import ContainerTasks.Graph.ContainerGraph
import ContainerTasks.Program.State
import ContainerTasks.Program.TaskTable
import ContainerTasks.Project.Load
import ContainerTasks.Run.Sequence
import ContainerTasks.Settings.Basic

/-! # Commands of the program

Each command loads the project first. Only a run and a build need the daemon, and they
reach for it after everything about the command line and the project is settled.
-/

namespace ContainerTasks.Program

/-- What a command works with. -/
structure Context (δ : Type) where
  surroundings : Surroundings δ
  settings : Settings
  projectFile : String

namespace Context

variable {δ : Type} (context : Context δ)

/-- Loads the project. -/
def project : Step δ Project := do
  let result := Project.load (← current).store context.surroundings.directory context.projectFile
  orComplain
    (fun error =>
      { message := "Could not load project file '" ++ context.projectFile ++ "'"
        causes := [error.message] })
    result

/-- The complaint about a daemon that cannot be reached. -/
def notConnected (fault : Engine.Fault) : Complaint where
  message := "Could not connect to Docker"
  causes := [fault.message]

/-- Reaches for the daemon. -/
def client : Step δ (Daemon.Client δ) := do
  let docker := context.settings.docker
  match context.surroundings.daemon? docker.socket with
  | none =>
    complain (notConnected (Daemon.unreachable ("Socket not found: " ++ docker.socket)))
  | some behaviour =>
    orComplain (fun failure => notConnected failure.fault)
      (← converse (Daemon.connect behaviour))
    return {
      behaviour
      store := (← current).store
      buildkit := docker.buildkit
      passthrough := docker.streamPassthrough }

/-- Lists the tasks. -/
def listTasks : Step δ Unit := do
  print (TaskTable.text (← context.project))

/-- What is printed about the containers of a task. -/
def graphText (graph : ContainerGraph) : String :=
  let container (name : String) : String :=
    match graph.dependenciesOf name with
    | [] => "  " ++ name ++ "\n"
    | dependencies => "  " ++ name ++ " -> " ++ String.intercalate ", " dependencies ++ "\n"
  "Task: " ++ graph.task ++ "\n" ++ String.join (graph.containers.map container) ++
    "  start order: " ++ String.intercalate ", " graph.startOrder ++ "\n"

/-- Shows the containers of tasks. Those that only stand for their prerequisites are left
out. -/
def showGraphs (project : Project) : List String → Step δ Unit
  | [] => return
  | name :: rest => do
    match project.task? name with
    | none => showGraphs project rest
    | some task =>
      if task.run.isSome then
        let graph ← orComplain
          (fun error =>
            { message := "Could not resolve containers of task '" ++ name ++ "'"
              causes := [Graph.Error.message error] })
          (ContainerGraph.ofTask project task)
        print ("\n" ++ graphText graph)
      showGraphs project rest

/-- Shows the order of a task and its prerequisites, and the containers of each. -/
def showGraph (task : String) : Step δ Unit := do
  let project ← context.project
  let order ← orComplain
    (fun error =>
      { message := "Could not resolve prerequisites of task '" ++ task ++ "'"
        causes := [Graph.Error.message error] })
    (Graph.taskOrder project task)
  print ("Task order: " ++ String.intercalate " -> " order ++ "\n")
  showGraphs project order

/-- What was written in the course of a build. -/
def writes (trail : List Progress.Effect) : List String :=
  trail.filterMap fun effect =>
    match effect with
    | .write text => some text
    | .event _ => none

/-- How the program ends where the image of a container was not built. -/
def notBuilt (container : String) (failure : Daemon.Failure) : Stop :=
  match failure.fault with
  | .brokenDown cause => .breakdown cause
  | fault =>
    .complaint
      { message := "Could not build image for container '" ++ container ++ "'"
        causes := [fault.message] }

/-- Builds the image of a container. -/
def build (container : String) : Step δ Unit := do
  let project ← context.project
  match project.container? container with
  | none => complain { message := "container '" ++ container ++ "' does not exist" }
  | some { source := .pull _, .. } =>
    complain { message :=
      "container '" ++ container ++ "' uses a registry image; there is nothing to build" }
  | some { source := .build directory dockerfile arguments, .. } =>
    let client ← context.client
    let tag := Project.imageTag project.name container
    let report ← converse (client.build {} { directory, dockerfile, arguments, tag })
    (writes report.trail).forM print
    let image ← orStop (notBuilt container) report.result
    print ("✓ Built image " ++ tag ++ " (" ++ image ++ ")\n")

/-- How the program ends where an error has ended the run of a task. The fault of the
engine stands behind the error it led to. -/
def notRun (task : String) (error : Run.Error) : Stop :=
  let complaint (causes : List String) : Stop :=
    .complaint
      { message := "Could not run task '" ++ task ++ "'", causes := error.message :: causes }
  match error with
  | .brokenDown cause => .breakdown cause
  | .imagePreparation _ fault | .container _ fault => complaint [fault.message]
  | .output reason => complaint [reason]
  | .graph _ | .cancelled => complaint []

/-- Runs a task; the answer is the exit code of the last container. -/
def run (arguments : CommandLine.RunArguments) : Step δ Int := do
  let project ← context.project
  let project ← orComplain (fun error => { message := error.message })
    (project.specialise arguments.overrides)
  let client ← context.client
  let setup : Run.Setup (Daemon.Session δ) :=
    { engine := client.engine
      project
      options := arguments.options context.settings.execution.runOptions }
  let (result, state) := setup.run arguments.task { engine := (← current).session }
  change fun before =>
    { before with session := state.engine, printed := before.printed ++ state.output }
  let code ← orStop (notRun arguments.task) result
  if code = 0 then print ("✓ Task '" ++ arguments.task ++ "' finished\n")
  else
    warn ("x Task '" ++ arguments.task ++ "' exited with code " ++ toString code ++ "\n")
  return code

/-- Does what a command asks for; the answer is the exit code. -/
def perform (command : CommandLine.Command) : Step δ Int := do
  match command with
  | .run arguments => context.run arguments
  | .tasks => context.listTasks; return 0
  | .graph task => context.showGraph task; return 0
  | .build container => context.build container; return 0

end Context

end ContainerTasks.Program
