import ContainerTasks.Program.Invoke
import ContainerTasks.Proofs.Daemon.Removal
import ContainerTasks.Proofs.Project.Acceptance

/-! # The status of a run

An invocation that runs a task gets ready, runs the task and reports how it ended
(`Context.run_eq`). The program turns the answer into a status: an error leaves one, a breakdown
leaves 101, and an exit code leaves what a status can show of it. So the status is zero not only
after the exit code zero but after every code of 32 bits whose lowest eight bits are zero
(`run_status`).
-/

namespace ContainerTasks.Program

variable {δ α β : Type}

section

/-! ## Steps -/

variable (state : State δ)

theorem outcome_current : outcome (current (δ := δ)).run state = (.ok state, state) :=
  rfl

theorem outcome_change (update : State δ → State δ) :
    outcome (change update).run state = (.ok (), update state) :=
  rfl

theorem outcome_orStop {ε : Type} (stop : ε → Stop) (result : Except ε α) :
    outcome (orStop stop result).run state = (result.mapError stop, state) :=
  rfl

theorem outcome_orComplain {ε : Type} (describe : ε → Complaint) (result : Except ε α) :
    outcome (orComplain describe result).run state =
      (result.mapError fun error => .complaint (describe error), state) :=
  rfl

theorem outcome_converse (talk : Daemon.Talk δ α) :
    outcome (converse talk).run state =
      (.ok (outcome talk state.session).1,
        { state with session := (outcome talk state.session).2 }) :=
  rfl

theorem outcome_return (answer : α) :
    outcome (pure answer : Step δ α).run state = (.ok answer, state) :=
  rfl

end

/-- A step that ends the program by a complaint, if at all. -/
def Complains (step : Step δ α) : Prop :=
  ∀ state stop, (outcome step.run state).1 = .error stop → ∃ said, stop = .complaint said

namespace Complains

theorem bind {first : Step δ α} {rest : α → Step δ β} (complains : Complains first)
    (next : ∀ answer, Complains (rest answer)) : Complains (first >>= rest) := by
  intro state stop failed
  rw [outcome_bind] at failed
  cases ended : (outcome first.run state).1 with
  | ok answer =>
      rw [ended] at failed
      exact next answer _ stop failed
  | error other =>
      rw [ended] at failed
      cases failed
      exact complains state stop ended

theorem current : Complains (current (δ := δ)) := nofun

theorem change (update : State δ → State δ) : Complains (change update) := nofun

theorem converse (talk : Daemon.Talk δ α) : Complains (converse talk) := nofun

theorem pure (answer : α) : Complains (pure answer : Step δ α) := nofun

theorem complain (said : Complaint) : Complains (complain said : Step δ α) := by
  rintro state _ ⟨⟩
  exact ⟨said, rfl⟩

theorem orComplain {ε : Type} (describe : ε → Complaint) (result : Except ε α) :
    Complains (orComplain describe result : Step δ α) := by
  intro state stop failed
  rw [outcome_orComplain] at failed
  cases result with
  | ok answer => cases failed
  | error error =>
      cases failed
      exact ⟨describe error, rfl⟩

end Complains

/-! ## Running a task and reporting it -/

namespace Context

variable (context : Context δ)

/-- Runs a task; the answer is how the run ended. -/
def runTask (arguments : CommandLine.RunArguments) : Step δ (Except Run.Error Int) := do
  let project ← context.project
  let project ← orComplain (fun error => { message := error.message })
    (project.specialise arguments.overrides)
  let client ← context.client
  let setup : Run.Setup (Daemon.Session δ) :=
    { engine := client.engine
      project
      options := arguments.options context.settings.execution.runOptions }
  let (result, state) := setup.run arguments.task { engine := (← current).session }
  change fun before =>
    { before with session := state.engine, printed := before.printed ++ state.output }
  return result

/-- Reports how the run of a task ended. -/
def report (task : String) (result : Except Run.Error Int) : Step δ Int := do
  let code ← orStop (notRun task) result
  if code = 0 then print ("✓ Task '" ++ task ++ "' finished\n")
  else
    warn ("x Task '" ++ task ++ "' exited with code " ++ toString code ++ "\n")
  return code

theorem run_eq (arguments : CommandLine.RunArguments) :
    context.run arguments = context.runTask arguments >>= report arguments.task := by
  rw [run, runTask]
  simp only [bind_assoc, pure_bind]
  rfl

theorem project_complains : Complains context.project :=
  .bind .current fun _ => .orComplain _ _

theorem client_complains : Complains context.client := by
  unfold client
  dsimp only
  split
  · exact .complain _
  · refine .bind (.converse _) fun result => .bind (.orComplain _ _) fun _ => ?_
    exact .bind .current fun _ => .pure _

theorem runTask_complains (arguments : CommandLine.RunArguments) :
    Complains (context.runTask arguments) := by
  refine .bind context.project_complains fun project => .bind (.orComplain _ _) fun project => ?_
  refine .bind context.client_complains fun client => .bind .current fun state => ?_
  exact .bind (.change _) fun _ => .pure _

/-- A report answers with the exit code, or ends the program if there is none. -/
theorem outcome_report (task : String) (result : Except Run.Error Int) (state : State δ) :
    (outcome (report task result).run state).1 = result.mapError (notRun task) := by
  rw [report, outcome_bind, outcome_orStop]
  cases result with
  | error error => rfl
  | ok code =>
      change (outcome (if code = 0 then _ else _ : Step δ Int).run state).1 = .ok code
      by_cases success : code = 0
      · rw [if_pos success]
        rfl
      · rw [if_neg success]
        rfl

end Context

/-- Gets ready for a command. -/
def prepare (surroundings : Surroundings δ) (options : CommandLine.GlobalOptions) :
    Step δ (Context δ) := do
  let settings ← settings surroundings options
  checkFilter surroundings options settings
  openLogFile surroundings options.logFile
  return { surroundings, settings, projectFile := options.projectFile }

theorem prepare_complains (surroundings : Surroundings δ) (options : CommandLine.GlobalOptions) :
    Complains (prepare surroundings options) := by
  have opens : Complains (openLogFile surroundings options.logFile) := by
    cases options.logFile with
    | none => exact .pure _
    | some path =>
        refine .bind .current fun state => ?_
        split
        · exact .change _
        · exact .complain _
  refine .bind (.bind .current fun _ => .orComplain _ _) fun settings => ?_
  refine .bind (.bind (.orComplain _ _) fun _ => .pure _) fun _ => ?_
  exact .bind opens fun _ => .pure _

theorem invoke_eq (surroundings : Surroundings δ) (invocation : CommandLine.Invocation) :
    invoke surroundings invocation =
      prepare surroundings invocation.options >>= fun context =>
        context.perform invocation.command := by
  rw [invoke, prepare]
  simp only [bind_assoc, pure_bind]

/-- What an invocation makes of a task: how the run of it ended, or why it does not come to
that. -/
def taskResult (surroundings : Surroundings δ) (options : CommandLine.GlobalOptions)
    (arguments : CommandLine.RunArguments) (state : State δ) :
    Except Stop (Except Run.Error Int) :=
  (outcome (prepare surroundings options >>= fun context => context.runTask arguments).run state).1

/-- It is a complaint if an invocation does not come to the run of its task. -/
theorem exists_complaint_of_taskResult {surroundings : Surroundings δ}
    {options : CommandLine.GlobalOptions} {arguments : CommandLine.RunArguments}
    {state : State δ} {stop : Stop}
    (stopped : taskResult surroundings options arguments state = .error stop) :
    ∃ said, stop = .complaint said :=
  (prepare_complains surroundings options).bind
    (fun context => context.runTask_complains arguments) state stop stopped

/-- The answer of an invocation that runs a task. -/
theorem outcome_invoke_run (surroundings : Surroundings δ) (options : CommandLine.GlobalOptions)
    (arguments : CommandLine.RunArguments) (state : State δ) :
    (outcome (invoke surroundings { options, command := .run arguments }).run state).1 =
      (taskResult surroundings options arguments state).bind fun result =>
        result.mapError (Context.notRun arguments.task) := by
  have split : invoke surroundings { options, command := .run arguments } =
      (prepare surroundings options >>= fun context => context.runTask arguments) >>=
        Context.report arguments.task := by
    rw [invoke_eq, bind_assoc]
    refine bind_congr fun context => ?_
    rw [Context.perform, Context.run_eq]
  rw [split, outcome_bind, taskResult]
  generalize outcome _ state = ended
  obtain ⟨answer, after⟩ := ended
  cases answer with
  | error complaint => rfl
  | ok result => exact Context.outcome_report _ _ _

/-! ## The status -/

/-- The exit codes that leave the status zero. -/
theorem exitStatus_eq_zero_iff (code : Int) :
    exitStatus code = 0 ↔
      256 ∣ code ∧ Int32.minValue.toInt ≤ code ∧ code ≤ Int32.maxValue.toInt := by
  rw [exitStatus]
  by_cases fits : Int32.minValue.toInt ≤ code ∧ code ≤ Int32.maxValue.toInt
  · rw [if_pos (by simpa using fits)]
    omega
  · rw [if_neg (by simpa using fits)]
    omega

/-- The status that is left where an error has ended the run of a task. -/
theorem status_notRun (task : String) (error : Run.Error) :
    (Context.notRun task error).status =
      match error with
      | .brokenDown _ => 101
      | _ => 1 := by
  cases error <;> rfl

/-- What an invocation answers decides the status. -/
theorem run_of_parse {surroundings : Surroundings δ} {words : List String}
    {invocation : CommandLine.Invocation}
    (parsed : CommandLine.Invocation.parse words = .ok invocation) (state : State δ) :
    (run surroundings words state).1 =
      match (outcome (invoke surroundings invocation).run state).1 with
      | .ok code => exitStatus code
      | .error stop => stop.status := by
  rw [run, parsed, outcome]
  dsimp only
  generalize Id.run ((invoke surroundings invocation).run.run state) = ended
  obtain ⟨answer, after⟩ := ended
  cases answer with
  | ok code => rfl
  | error complaint => rfl

/-- **The status of a run.** An invocation that runs a task leaves the status of the exit code
with which the run of the task ended, 101 if the program broke down in it, and one if it ended
with any other error or did not begin. The status is zero exactly if there is an exit code of 32 bits whose lowest eight bits are
zero. -/
theorem run_status (surroundings : Surroundings δ) {words : List String}
    {options : CommandLine.GlobalOptions} {arguments : CommandLine.RunArguments}
    (parsed : CommandLine.Invocation.parse words = .ok { options, command := .run arguments })
    (state : State δ) :
    (run surroundings words state).1 =
        (match taskResult surroundings options arguments state with
        | .ok (.ok code) => exitStatus code
        | .ok (.error (.brokenDown _)) => 101
        | .ok (.error _) | .error _ => 1) ∧
      ((run surroundings words state).1 = 0 ↔
        ∃ code, taskResult surroundings options arguments state = .ok (.ok code) ∧
          256 ∣ code ∧ Int32.minValue.toInt ≤ code ∧ code ≤ Int32.maxValue.toInt) := by
  have status : (run surroundings words state).1 =
      (match taskResult surroundings options arguments state with
      | .ok (.ok code) => exitStatus code
      | .ok (.error (.brokenDown _)) => 101
      | .ok (.error _) | .error _ => 1) := by
    rw [run_of_parse parsed, outcome_invoke_run]
    cases ended : taskResult surroundings options arguments state with
    | error stop =>
        obtain ⟨said, rfl⟩ := exists_complaint_of_taskResult ended
        rfl
    | ok result =>
        cases result with
        | error error =>
            refine (status_notRun arguments.task error).trans ?_
            cases error <;> rfl
        | ok code => rfl
  refine ⟨status, ?_⟩
  rw [status]
  cases taskResult surroundings options arguments state with
  | error stop => simp
  | ok runs =>
      cases runs with
      | error error => cases error <;> simp
      | ok code => simpa using exitStatus_eq_zero_iff code

/-- What is asked of a daemon that a task is run with. -/
def clientFor (behaviour : Daemon.Behaviour δ) (settings : Settings) (state : State δ) :
    Daemon.Client δ where
  behaviour
  store := state.store
  buildkit := settings.docker.buildkit
  passthrough := settings.docker.streamPassthrough

/-- Where nothing keeps an invocation from running a task, what it makes of it is how the run
ends. -/
theorem taskResult_eq {surroundings : Surroundings δ} {options : CommandLine.GlobalOptions}
    {arguments : CommandLine.RunArguments} {state : State δ} {settings : Settings}
    {filter : String} {project specialised : Project} {behaviour : Daemon.Behaviour δ}
    (loaded : Settings.load state.store surroundings.directory surroundings.home
      surroundings.environment options.configPath = .ok settings)
    (chosen : Settings.LogFilter.choose options.logLevel
      (surroundings.environment.lookup "RUST_LOG") settings.general.logLevel = .ok filter)
    (unlogged : options.logFile = none)
    (accepted : Project.load state.store surroundings.directory options.projectFile = .ok project)
    (specialises : project.specialise arguments.overrides = .ok specialised)
    (listens : surroundings.daemon? settings.docker.socket = some behaviour)
    (connects : (outcome (Daemon.connect behaviour) state.session).1 = .ok ()) :
    taskResult surroundings options arguments state = .ok
      (Run.Setup.run
        { engine := (clientFor behaviour settings state).engine
          project := specialised
          options := arguments.options settings.execution.runOptions }
        arguments.task { engine := (outcome (Daemon.connect behaviour) state.session).2 }).1 := by
  have ready : outcome (prepare surroundings options).run state =
      (.ok { surroundings, settings, projectFile := options.projectFile }, state) := by
    simp only [prepare, Program.settings, checkFilter, openLogFile, bind_assoc, pure_bind,
      outcome_bind, outcome_current, outcome_orComplain, outcome_return, Except.mapError, loaded,
      chosen, unlogged]
  rw [taskResult, outcome_bind, ready]
  dsimp only
  rw [Context.runTask, Context.project, Context.client, listens]
  simp only [bind_assoc, pure_bind, outcome_bind, outcome_current, outcome_orComplain,
    outcome_converse, outcome_change, outcome_return, Except.mapError, accepted, specialises,
    connects]
  rfl

/-- A project file with one task. -/
def shopText : String :=
  "project_name: shop\ncontainers:\n  box:\n    image: alpine\n" ++
  "tasks:\n  serve:\n    run:\n      container: box\n"

/-- The answers of a daemon whose containers exit with a code, by the path of the request. -/
def answerAt (code : Int) (path : String) : Daemon.Answer :=
  if path = "/version" then .received 200 (Text.Utf8.ofString "\x7b\x7d") false
  else if path = "/containers/shop-serve-box/json" then
    .received 200
      (Text.Utf8.ofString ("\x7b\"State\":\x7b\"ExitCode\":" ++ toString code ++ "\x7d\x7d")) false
  else Daemon.answerAt 200 path

/-- This daemon. -/
def daemonOf (code : Int) : Daemon.Behaviour Unit :=
  fun request state => (answerAt code request.path, state)

/-- A directory with the project file, beside this daemon. -/
def shop (code : Int) : Surroundings Unit where
  directory := "/project"
  home := none
  environment := []
  daemon? _ := some (daemonOf code)

/-- What the program begins with. -/
def opened : State Unit where
  store :=
    { entries := [(["project"], .directory),
        (["project", "gantry.yml"], .file (Text.Utf8.ofString shopText))] }
  session := { state := () }

/-- What is asked for when the task is to run. -/
def asked : CommandLine.RunArguments where
  task := "serve"

theorem parse_asked :
    CommandLine.Invocation.parse ["run", "serve"] =
      .ok { options := {}, command := .run asked } := by
  decide +kernel

/-- The session once the daemon has been reached. -/
def connected (code : Int) : Daemon.Session Unit :=
  (outcome (Daemon.connect (daemonOf code)) opened.session).2

/-- The project run with the daemon. -/
def servedBy (code : Int) : Run.Setup (Daemon.Session Unit) where
  engine := (clientFor (daemonOf code) {} opened).engine
  project := Daemon.shop

/-- The task ends with the exit code that the daemon reports. -/
theorem run_servedBy : ∀ code ∈ [0, 256],
    ((servedBy code).run "serve" { engine := connected code }).1 = .ok code := by
  intro code member
  have order : (servedBy code).order "serve" = .ok ["serve"] :=
    (by decide +kernel : Graph.taskOrder Daemon.shop "serve" = .ok ["serve"])
  have found : (servedBy code).project.task? "serve" = some Daemon.serve := rfl
  have made : ContainerGraph.ofTask (servedBy code).project Daemon.serve = .ok Daemon.served := rfl
  have single : (servedBy code).containers Daemon.served.startOrder =
    [(ContainerGraph.box "box" []).2] := rfl
  have permitted : (servedBy code).Permitted :=
    (by decide +kernel : (4 : UInt64).toNat ≤ Breakdown.maxPermits)
  rw [Run.Setup.run_of_ok _ order, Run.Setup.runInOrder_of_runs _ found rfl,
    Run.Setup.runTask_of_ok _ made, single, Run.Setup.prepare_of_permitted _ permitted,
    Run.ImagePool.prepare, Run.ImagePool.run_single]
  clear order found made single
  revert code
  decide +kernel

theorem taskResult_shop : ∀ code ∈ [0, 256],
    taskResult (shop code) {} asked opened = .ok (.ok code) := by
  intro code member
  have loaded : Settings.load opened.store "/project" none [] none = .ok {} := by decide +kernel
  have chosen : Settings.LogFilter.choose none none ({} : Settings).general.logLevel =
    .ok "info" := by decide +kernel
  have accepted : Project.load opened.store "/project" "gantry.yml" = .ok Daemon.shop :=
    ok_of_toOption (by decide +kernel)
  have specialises : Daemon.shop.specialise asked.overrides = .ok Daemon.shop :=
    ok_of_toOption (by decide +kernel)
  have connects : (outcome (Daemon.connect (daemonOf code)) opened.session).1 = .ok () := by
    clear loaded chosen accepted specialises
    revert code
    decide +kernel
  have options : asked.options ({} : Settings).execution.runOptions = {} := by decide +kernel
  have ends : taskResult (shop code) {} asked opened = .ok (Run.Setup.run _ _ _).1 :=
    taskResult_eq loaded chosen rfl accepted specialises rfl connects
  rw [options] at ends
  exact ends.trans (congrArg Except.ok (run_servedBy code member))

theorem run_status_shop :
    CommandLine.Invocation.parse ["run", "serve"] =
        .ok { options := {}, command := .run asked } ∧
      (run (shop 0) ["run", "serve"] opened).1 = 0 := by
  refine ⟨parse_asked, (run_status (shop 0) parse_asked opened).2.mpr ⟨0, ?_, ?_⟩⟩
  · exact taskResult_shop 0 (by decide)
  · decide

/-- The status can be zero although the exit code is another. -/
theorem zero_status_without_success :
    ¬ ∀ (surroundings : Surroundings Unit) (words : List String)
      (options : CommandLine.GlobalOptions) (arguments : CommandLine.RunArguments)
      (state : State Unit),
      CommandLine.Invocation.parse words = .ok { options, command := .run arguments } →
      ((run surroundings words state).1 = 0 ↔
        taskResult surroundings options arguments state = .ok (.ok 0)) := by
  intro truthful
  have ended : taskResult (shop 256) {} asked opened = .ok (.ok 256) :=
    taskResult_shop 256 (by decide)
  have status : (run (shop 256) ["run", "serve"] opened).1 = 0 := by
    rw [run_of_parse parse_asked, outcome_invoke_run, ended]
    rfl
  have success := (truthful _ _ _ _ _ parse_asked).mp status
  rw [ended] at success
  exact absurd success (by decide)

end ContainerTasks.Program
