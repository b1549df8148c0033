import ContainerTasks.Graph.ContainerGraph
import ContainerTasks.Run.ImagePool
import ContainerTasks.Run.Options

/-! # Running one task

The images of the containers of a task are prepared, the containers are started in
order, and the main container is followed until it exits. However this ends, the
containers that were started are stopped and removed in reverse order, if the
options say so.
-/

namespace ContainerTasks.Run

open Engine (Moment LogItem)

/-- What tasks are run with. -/
structure Setup (σ : Type) where
  engine : Engine σ
  project : Project
  options : Options := {}
  schedule : Schedule := Schedule.roundRobin
  /-- Why a write fails, by the number of writes before. -/
  writeFault : Nat → Option String := fun _ => none

namespace Setup

variable {σ : Type}

/-- The name that a container of a task has in the engine. -/
def containerName (setup : Setup σ) (task container : String) : String :=
  setup.project.name ++ "-" ++ task ++ "-" ++ container

/-- The containers with the given names. -/
def containers (setup : Setup σ) (names : List String) : List Project.Container :=
  names.filterMap setup.project.container?

/-- What a container that the task depends on is started with. -/
def dependencyRequest (setup : Setup σ) (task : Project.Task) (images : TextMap)
    (container : Project.Container) : Engine.StartRequest where
  name := setup.containerName task.name container.name
  image := images[container.name]?.getD ""
  command := container.command
  environment := container.environment
  workingDirectory := container.workingDirectory

/-- What the main container of a task is started with: the command of the task before
its own, and the environment of both, where the task's is stronger. -/
def mainRequest (setup : Setup σ) (task : Project.Task) (run : Project.TaskRun)
    (images : TextMap) (container : Project.Container) : Engine.StartRequest :=
  { setup.dependencyRequest task images container with
    command := run.command.or container.command
    environment := container.environment.insertMany run.environment.toList }

/-- What the containers of a task are started with, in order. -/
def startRequests (setup : Setup σ) (task : Project.Task) (run : Project.TaskRun)
    (graph : ContainerGraph) (images : TextMap) : List Engine.StartRequest :=
  let dependencies := graph.startOrder.filter (· != graph.root)
  (setup.containers dependencies).map (setup.dependencyRequest task images) ++
    (setup.containers [graph.root]).map (setup.mainRequest task run images)

/-- Starts containers one after the other until one fails. The answer names those that
were started. -/
def startAll (setup : Setup σ) :
    List Engine.StartRequest → Action σ (List String × Except Error Unit)
  | [] => return ([], .ok ())
  | request :: rest => do
    match ← call (.start request) (setup.engine.start request) with
    | .error fault => return ([], .error (.container request.name fault))
    | .ok id =>
      note .debug "Container started" [("container", request.name), ("scheduler_id", id)]
      let (started, result) ← setup.startAll rest
      return (request.name :: started, result)

/-- Ends a run that was cancelled. -/
def checkCancelled : Attempt σ Unit := do
  if (← perform get).cancelled then throw .cancelled

/-- Copies what a container says to the output until it exits. -/
def follow (setup : Setup σ) (name : String) :
    List (Moment (Except Engine.Fault LogItem)) → Attempt σ Unit
  | [] => checkCancelled
  | moment :: rest => do
    checkCancelled
    match moment with
    | .pause | .news (.ok .unknown) => setup.follow name rest
    | .cancel =>
      perform cancel
      setup.follow name rest
    | .news (.ok (.stdout message)) | .news (.ok (.stderr message)) =>
      if let some reason ← perform (write setup.writeFault message) then throw (.output reason)
      setup.follow name rest
    | .news (.error fault) =>
      perform (note .debug "Log stream ended early"
        [("container", name), ("err", fault.message)])

/-- Follows the main container of a task until it exits; the answer is its exit
code. -/
def attend (setup : Setup σ) (task name : String) : Attempt σ Int := do
  perform (note .info "Task container started." [("task", task), ("container", name)])
  let logs ← perform (beginCall (.logs name) (setup.engine.logs name))
  perform (mark (.ended (.logs name) none))
  setup.follow name logs
  match ← perform (call (.wait name) (setup.engine.wait name)) with
  | .error fault => throw (.container name fault)
  | .ok code =>
    perform (note .info "Task finished." [("task", task), ("exit_code", toString code)])
    return code

/-- Stops and removes a container. What fails is noted only. -/
def discard (setup : Setup σ) (name : String) : Action σ Unit := do
  let timeout := setup.options.stopTimeout
  if let .error fault ← call (.stop name timeout) (setup.engine.stop name timeout) then
    note .debug "Could not stop container" [("container", name), ("err", fault.message)]
  if let .error fault ← call (.remove name) (setup.engine.remove name) then
    note .error "Could not remove container" [("container", name), ("err", fault.message)]

/-- Stops and removes containers in the given order. -/
def discardAll (setup : Setup σ) : List String → Action σ Unit
  | [] => return
  | name :: rest => do
    setup.discard name
    setup.discardAll rest

/-- Starts the containers of a task and follows the main one. The answer names those
that were started, and holds the exit code unless something failed. -/
def startAndAttend (setup : Setup σ) (task : String) (mainContainer : String)
    (requests : List Engine.StartRequest) : Action σ (List String × Except Error Int) := do
  let (started, result) ← setup.startAll requests
  match result with
  | .error error => return (started, .error error)
  | .ok () => return (started, ← (setup.attend task mainContainer).run)

/-- Whether the containers of a task are to be stopped and removed. -/
def cleansUp (setup : Setup σ) : Except Error Int → Bool
  | .ok 0 => setup.options.cleanupAfterSuccess
  | _ => setup.options.cleanupAfterFailure

/-- Stops and removes the containers that were started, or leaves them in place. -/
def cleanUp (setup : Setup σ) (task : String) (started : List String)
    (result : Except Error Int) : Action σ Unit := do
  if setup.cleansUp result then setup.discardAll started.reverse
  else if !started.isEmpty then
    note .info "Leaving containers in place."
      [("task", task), ("containers", Journal.quoteList started)]

/-- What images are prepared with. -/
def pool (setup : Setup σ) : Except Breakdown (ImagePool σ) :=
  (Permits.ofCount setup.options.maxParallelism).map fun limit =>
    { engine := setup.engine
      project := setup.project.name
      limit
      schedule := setup.schedule
      writeFault := setup.writeFault }

/-- Prepares the images of containers. -/
def prepare (setup : Setup σ) (containers : List Project.Container) : Attempt σ TextMap :=
  match setup.pool with
  | .error cause => throw (.brokenDown cause)
  | .ok pool => pool.prepare containers

/-- Runs a task; the answer is the exit code of its main container. -/
def runTask (setup : Setup σ) (task : Project.Task) (run : Project.TaskRun) : Attempt σ Int := do
  let graph ←
    match ContainerGraph.ofTask setup.project task with
    | .error error => throw (.graph error)
    | .ok graph => pure graph
  perform (modify fun state => { state with journal := state.journal ++ [graph.journalEntry] })
  let images ← setup.prepare (setup.containers graph.startOrder)
  let requests := setup.startRequests task run graph images
  let (started, result) ← perform
    (setup.startAndAttend task.name (setup.containerName task.name graph.root) requests)
  perform (setup.cleanUp task.name started result)
  ExceptT.mk (pure result)

end Setup

end ContainerTasks.Run
