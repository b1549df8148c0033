import ContainerTasks.Proofs.Daemon.Service
import ContainerTasks.Proofs.Graph.ContainerGraph
import ContainerTasks.Proofs.Run.Sequence

/-! # Containers at the daemon

A run that has a daemon do the work creates each container in one exchange and starts it in
the next. Where it cleans up whatever happens, every container that was started is removed
before the run ends (`run_removes`); one that was created but could not be started is left.
-/

namespace ContainerTasks.Daemon

open Run (State Setup)

variable {δ : Type}

/-- A container is removed by one of the exchanges. -/
def IsRemoved (name : String) (items : List Exchange) : Prop :=
  ∃ removed ∈ items, removed.1.Removes name

section

variable {fate best : String → List Exchange → Prop} {items more : List Exchange}

theorem IsRemoved.append {name : String} (removed : IsRemoved name items) (more : List Exchange) :
    IsRemoved name (items ++ more) := by
  obtain ⟨exchange, member, removes⟩ := removed
  exact ⟨exchange, List.mem_append_left _ member, removes⟩

theorem IsRemoved.prepend {name : String} (removed : IsRemoved name more) (items : List Exchange) :
    IsRemoved name (items ++ more) := by
  obtain ⟨exchange, member, removes⟩ := removed
  exact ⟨exchange, List.mem_append_right _ member, removes⟩

/-- Each container that is created is started by the next request, and if that succeeds its
fate is decided by what follows. -/
def Handled (fate : String → List Exchange → Prop) (items : List Exchange) : Prop :=
  ∀ before created after name, items = before ++ created :: after →
    Exchange.Creates created name →
    ∃ started rest, after = started :: rest ∧ started.1.Starts name ∧
      ((delivered started.2).isOk → fate name rest)

namespace Handled

theorem of_barren (barren : ∀ exchange ∈ items, Barren exchange) : Handled fate items := by
  rintro before created after name rfl creates
  exact (barren created (by simp) name creates.1).elim

theorem mono (handled : Handled fate items)
    (implies : ∀ name rest, fate name rest → best name rest) : Handled best items := by
  intro before created after name split creates
  obtain ⟨started, rest, same, starts, outcome⟩ := handled before created after name split creates
  exact ⟨started, rest, same, starts, fun ok => implies name rest (outcome ok)⟩

theorem cons {exchange : Exchange} (later : Handled fate items)
    (here : ∀ name, Exchange.Creates exchange name →
      ∃ started rest, items = started :: rest ∧ started.1.Starts name ∧
        ((delivered started.2).isOk → fate name rest)) :
    Handled fate (exchange :: items) := by
  intro before created after name split creates
  cases before with
  | nil =>
      obtain ⟨rfl, rfl⟩ := List.cons.inj split
      exact here name creates
  | cons first before => exact later before created after name (List.cons.inj split).2 creates

theorem append (first : Handled fate items) (second : Handled best more)
    (onward : ∀ name rest, fate name rest → best name (rest ++ more)) :
    Handled best (items ++ more) := by
  intro before created after name split creates
  rcases List.append_eq_append_iff.mp split with ⟨front, rfl, rfl⟩ | ⟨back, rfl, same⟩
  · exact second front created after name rfl creates
  · -- With nothing left of the first list the container is created at the head of the second.
    cases back with
    | nil => exact second [] created after name same.symm creates
    | cons exchange back =>
        obtain ⟨rfl, rfl⟩ := List.cons.inj same
        obtain ⟨started, rest, rfl, starts, outcome⟩ :=
          first before created back name rfl creates
        exact ⟨started, rest ++ more, rfl, starts, fun ok => onward name rest (outcome ok)⟩

theorem skip {exchange : Exchange} (barren : Barren exchange) (later : Handled fate items) :
    Handled fate (exchange :: items) :=
  later.cons fun name creates => (barren name creates.1).elim

theorem together (first : Handled IsRemoved items) (second : Handled IsRemoved more) :
    Handled IsRemoved (items ++ more) :=
  first.append second fun _ _ removed => removed.append more

end Handled

theorem Opening.handled {start : Engine.StartRequest} {answer : Except Failure String}
    (opening : Opening start answer items)
    (started : answer.isOk → ∀ rest, fate start.name rest) : Handled fate items := by
  have removes : ∀ answer, Barren (removal start.name, answer) := fun answer =>
    barren_of_verb (by simp [removal])
  have begins : ∀ answer, Barren (starting start.name, answer) := fun answer =>
    barren_of_path (containerPath_append_ne (by simp) (by simp))
  have named : ∀ {answer name}, Exchange.Creates (creation start, answer) name →
      start.name = name ∧ (created? answer).isOk := by
    rintro answer name ⟨⟨-, -, found⟩, made⟩
    exact ⟨by simpa [creation] using found, made⟩
  cases opening with
  | uncreated refused =>
      refine .skip (removes _) (.cons (.of_barren (by simp)) fun name creates => ?_)
      have made := (named creates).2
      rw [refused] at made
      cases made
  | unstarted made refused =>
      refine .skip (removes _) (.cons (.of_barren (by simpa using begins _)) ?_)
      intro name creates
      obtain ⟨rfl, -⟩ := named creates
      refine ⟨_, _, rfl, ⟨rfl, rfl⟩, fun ok => ?_⟩
      rw [refused] at ok
      cases ok
  | started made runs =>
      refine .skip (removes _) (.cons (.of_barren (by simpa using begins _)) ?_)
      intro name creates
      obtain ⟨rfl, -⟩ := named creates
      exact ⟨_, _, rfl, ⟨rfl, rfl⟩, fun _ => started rfl _⟩

end

section

variable {client : Client δ} {setup : Setup (Session δ)}

/-- What the phases of a task have to do with which containers there are at the daemon. -/
def exchangePhases : Run.Setup.Phases Exchange where
  prepare _ _ items := ∀ exchange ∈ items, Barren exchange
  start _ ended items := Handled (fun name _ => name ∈ ended.1) items
  attend _ _ items := ∀ exchange ∈ items, Barren exchange
  discard names items := (∀ exchange ∈ items, Barren exchange) ∧
    ∀ name ∈ names, IsRemoved name items

theorem Serves.preparesWith (serves : Serves client setup.engine) :
    Run.PreparesWith (exchanges client.behaviour) setup.engine Barren where
  pull image := by
    refine beginCall_records (ask_records fun session => ?_)
    obtain ⟨items, adds, barren⟩ := pull_confines image session
    refine ⟨items, by rwa [serves.pull], barren, ?_⟩
    refine endCall_records (ask_records fun later => ⟨[], ?_, by simp⟩)
    rw [serves.pulled]
    exact (conversation client.behaviour).refl later
  build request cancelled := by
    refine beginCall_records (ask_records fun session => ?_)
    obtain ⟨conditions, same⟩ := serves.build request cancelled session
    obtain ⟨items, adds, barren⟩ := client.build_confines conditions request session
    refine ⟨items, by rwa [same], barren, ?_⟩
    refine endCall_records (ask_records fun later => ⟨[], ?_, by simp⟩)
    rw [serves.built]
    exact (conversation client.behaviour).refl later

theorem Serves.startAll (serves : Serves client setup.engine)
    (requests : List Engine.StartRequest) :
    (exchanges client.behaviour).Records (setup.startAll requests) fun ended items =>
      Handled (fun name _ => name ∈ ended.1) items := by
  induction requests with
  | nil => exact .pure (.of_barren (by simp))
  | cons request rest ih =>
      have starts : (exchanges client.behaviour).Records
          (Run.call (.start request) (setup.engine.start request)) fun answer items =>
            Handled (fun name _ => answer.isOk ∧ name = request.name) items := by
        refine call_records (ask_records fun session => ?_)
        obtain ⟨items, adds, opening⟩ := start_records request session
        refine ⟨items, by rwa [serves.start], opening.handled fun ok _ => ⟨?_, rfl⟩⟩
        rw [serves.started, withFault]
        cases answer : (ContainerTasks.outcome (Daemon.start client.behaviour request) session).1 with
        | ok id => rfl
        | error failure =>
            rw [answer] at ok
            cases ok
      refine starts.bind fun answer items handled => ?_
      cases answer with
      | error fault =>
          refine .pure ?_
          rw [List.append_nil]
          refine handled.mono ?_
          rintro name _ ⟨ok, -⟩
          cases ok
      | ok id =>
          refine (Run.note_silent _ _ _).bind_records fun _ => ?_
          refine ih.bind fun ended more later => .pure ?_
          rw [List.append_nil]
          refine handled.append (later.mono fun name _ => List.mem_cons_of_mem _) ?_
          rintro name _ ⟨-, rfl⟩
          exact List.mem_cons_self

theorem Serves.attend (serves : Serves client setup.engine) (task name : String) :
    (exchanges client.behaviour).Confines Barren (setup.attend task name).run := by
  have logs : (exchanges client.behaviour).Confines Barren
      (Run.beginCall (.logs name) (setup.engine.logs name)) := by
    refine beginCall_records (ask_records fun session => ?_)
    obtain ⟨items, adds, barren⟩ := logs_confines name session
    exact ⟨items, by rwa [serves.logs], barren⟩
  have waits : (exchanges client.behaviour).Confines Barren
      (Run.call (.wait name) (setup.engine.wait name)) := by
    refine call_records (ask_records fun session => ?_)
    obtain ⟨items, adds, barren⟩ := wait_confines name session
    exact ⟨items, by rwa [serves.wait], barren⟩
  refine .attempt (Run.note_silent _ _ _).perform.confines fun _ => ?_
  refine .attempt logs fun moments => ?_
  have marks : ∀ entry, (exchanges client.behaviour).Confines Barren (Run.mark entry) := fun entry =>
    (Run.CallHistory.mark_records entry).mono fun _ _ same => by simp [same, exchanges]
  refine .attempt (marks _) fun _ => ?_
  refine .attempt (setup.follow_silent name moments).confines fun _ => ?_
  refine .attempt waits fun answer => ?_
  cases answer with
  | error fault => exact .throw
  | ok code => exact .attempt (Run.note_silent _ _ _).perform.confines fun _ => .pure

/-- To discard a container is to stop it, which creates none, and to have it removed. -/
theorem Serves.discard (serves : Serves client setup.engine) (name : String) :
    (exchanges client.behaviour).Records (setup.discard name) fun _ items =>
      (∀ exchange ∈ items, Barren exchange) ∧ IsRemoved name items := by
  have stops : (exchanges client.behaviour).Confines Barren
      (Run.call (.stop name setup.options.stopTimeout)
        (setup.engine.stop name setup.options.stopTimeout)) := by
    refine call_records (ask_records fun session => ?_)
    obtain ⟨items, adds, barren⟩ := stop_confines name setup.options.stopTimeout session
    exact ⟨items, by rwa [serves.stop], barren⟩
  have removes : (exchanges client.behaviour).Records
      (Run.call (.remove name) (setup.engine.remove name)) fun _ items =>
        (∀ exchange ∈ items, Barren exchange) ∧ IsRemoved name items := by
    refine call_records (ask_records fun session => ?_)
    obtain ⟨_, adds, answer, rfl⟩ := remove_records name session
    refine ⟨_, by rwa [serves.remove], ?_, _, List.mem_singleton_self _, rfl, rfl⟩
    simpa using barren_of_verb (by simp [removal])
  refine setup.discard_records name stops removes ?_
  intro items more barren ⟨barrenToo, removed⟩
  exact ⟨List.forall_mem_append.mpr ⟨barren, barrenToo⟩, removed.prepend items⟩

theorem Serves.discardAll (serves : Serves client setup.engine) (names : List String) :
    (exchanges client.behaviour).Records (setup.discardAll names) fun _ items =>
      (∀ exchange ∈ items, Barren exchange) ∧ ∀ name ∈ names, IsRemoved name items := by
  induction names with
  | nil => exact .pure ⟨by simp, by simp⟩
  | cons name rest ih =>
      refine (serves.discard name).bind fun _ items ⟨barren, removed⟩ => ?_
      refine ih.mono fun _ more ⟨barrenToo, others⟩ =>
        ⟨List.forall_mem_append.mpr ⟨barren, barrenToo⟩, fun other present => ?_⟩
      rcases List.mem_cons.mp present with rfl | later
      · exact removed.append more
      · exact (others other later).prepend items

theorem Serves.describe (serves : Serves client setup.engine) :
    exchangePhases.Describe (exchanges client.behaviour) setup where
  prepare := setup.prepare_confines serves.preparesWith
  start := serves.startAll
  attend := serves.attend
  discard := serves.discardAll

/-- What starts and attends to containers handles those it creates, and names those that it
starts. -/
theorem handled_of_work {requests : List Engine.StartRequest} {name : String}
    {started : List String} {result : Except Run.Error Int} {items : List Exchange}
    (work : exchangePhases.Work requests name started result items) :
    Handled (fun name _ => name ∈ started) items := by
  cases work with
  | unstarted start => exact start
  | attended start attend => exact Handled.append start (.of_barren attend) fun _ _ => id

/-- A task that cleans up whatever happens removes every container that it starts. -/
theorem handled_of_course (success : setup.options.cleanupAfterSuccess = true)
    (failure : setup.options.cleanupAfterFailure = true) {task : Project.Task}
    {run : Project.TaskRun} {result : Except Run.Error Int} {items : List Exchange}
    (course : exchangePhases.Course setup task run result items) : Handled IsRemoved items := by
  have cleans : setup.cleansUp result = true := by
    unfold Setup.cleansUp
    split
    · exact success
    · exact failure
  cases course with
  | misconfigured failed => exact .of_barren (by simp)
  | unprepared made prepare => exact .of_barren prepare
  | worked made prepare work clean =>
      rw [if_pos cleans] at clean
      obtain ⟨barren, removes⟩ := clean
      refine Handled.together (.of_barren prepare) ?_
      exact (handled_of_work work).append (.of_barren barren) fun name rest started =>
        (removes name (List.mem_reverse.mpr started)).prepend rest

end

/-- **What becomes of the containers.** In a run that cleans up after success and failure,
each container that the daemon reports as created is started by the next request, and if
that succeeds the container is removed later in the run. -/
theorem run_removes (client : Client δ) (setup : Setup (Session δ))
    (serves : Serves client setup.engine) (success : setup.options.cleanupAfterSuccess = true)
    (failure : setup.options.cleanupAfterFailure = true) (task : String)
    (start : State (Session δ)) :
    ∃ items, (conversation client.behaviour).Adds start.engine items
        (setup.run task start).2.engine ∧
      ∀ before created after name, items = before ++ created :: after →
        Exchange.Creates created name →
        ∃ started rest, after = started :: rest ∧ started.1.Starts name ∧
          ((delivered started.2).isOk → ∃ removed ∈ rest, removed.1.Removes name) :=
  Setup.run_records serves.describe (.of_barren (by simp)) (fun _ _ => Handled.together)
    (fun _ _ _ _ => handled_of_course success failure) task start

/-- A task that runs a container. -/
def serve : Project.Task where
  name := "serve"
  run := some { container := "box" }

/-- A project with this task only. -/
def shop : Project where
  name := "shop"
  containers := .ofList [ContainerGraph.box "box" []]
  tasks := .ofList [("serve", serve)]

/-- The project run with a daemon, from the start of a session. -/
def opened (client : Client Unit) : Setup (Session Unit) where
  engine := client.engine
  project := shop

theorem opened_permitted (client : Client Unit) : (opened client).Permitted :=
  (by decide +kernel : (4 : UInt64).toNat ≤ Breakdown.maxPermits)

/-- What a request asks for, apart from its content. -/
def Request.summary (request : Request) : String × String × List (String × String) :=
  (request.verb, request.path, request.parameters)

/-- The requests of a run of the task. -/
def requests (client : Client Unit) : List (String × String × List (String × String)) :=
  ((opened client).run "serve" { engine := { state := () } }).2.engine.sent.map Request.summary

/-- The answers of a daemon that has all images and creates every container, by the path of
the request; any other request is answered with a status. -/
def answerAt (status : Nat) (path : String) : Answer :=
  if path = "/containers/create" then
    .received 201 (Text.Utf8.ofString "\x7b\"Id\":\"1\",\"Warnings\":[]\x7d") false
  else if path = "/images/create" then .received 200 [] false
  else if path = "/images/alpine/json" then
    .received 200 (Text.Utf8.ofString "\x7b\x7d") false
  else .received status [] false

/-- A client of this daemon. -/
def clientOf (status : Nat) : Client Unit where
  store := {}
  behaviour request state := (answerAt status request.path, state)

/-- What the task asks of a daemon until its container starts. -/
def opening : List (String × String × List (String × String)) :=
  [("POST", "/images/create", [("fromImage", "alpine")]), ("GET", "/images/alpine/json", []),
    ("DELETE", "/containers/shop-serve-box", [("force", "true"), ("v", "true")])] ++
  ("POST", "/containers/create", [("name", "shop-serve-box")]) ::
    [("POST", "/containers/shop-serve-box/start", [])]

/-- What it asks of the daemon after that. -/
def closing : List (String × String × List (String × String)) :=
  [("GET", "/containers/shop-serve-box/logs",
      [("follow", "true"), ("stderr", "true"), ("stdout", "true")]),
    ("POST", "/containers/shop-serve-box/wait", []), ("GET", "/containers/shop-serve-box/json", []),
    ("POST", "/containers/shop-serve-box/stop", [("t", "10")]),
    ("DELETE", "/containers/shop-serve-box", [("force", "true"), ("v", "true")])]

/-- The containers of the task. -/
def served : ContainerGraph where
  task := "serve"
  root := "box"
  adjacency := (∅ : Std.ExtTreeMap String NameSet).insert "box" ((∅ : NameSet).insertMany [])

theorem requests_clientOf :
    requests (clientOf 500) = opening ∧ requests (clientOf 200) = opening ++ closing := by
  have order : ∀ client, (opened client).order "serve" = .ok ["serve"] := fun _ =>
    (by decide +kernel : Graph.taskOrder shop "serve" = .ok ["serve"])
  have found : shop.task? "serve" = some serve := rfl
  have made : ContainerGraph.ofTask shop serve = .ok served := rfl
  have single : ∀ client,
      (opened client).containers served.startOrder = [(ContainerGraph.box "box" []).2] :=
    fun _ => rfl
  unfold requests
  refine ⟨?_, ?_⟩
  · rw [Setup.run_of_ok _ (order _), Setup.runInOrder_of_runs _ found rfl,
      Setup.runTask_of_ok _ made, single, Setup.prepare_of_permitted _ (opened_permitted _),
      Run.ImagePool.prepare, Run.ImagePool.run_single]
    decide +kernel
  · rw [Setup.run_of_ok _ (order _), Setup.runInOrder_of_runs _ found rfl,
      Setup.runTask_of_ok _ made, single, Setup.prepare_of_permitted _ (opened_permitted _),
      Run.ImagePool.prepare, Run.ImagePool.run_single]
    decide +kernel

/-- Where the daemon of `clientOf` is asked for the container, it creates it and answers to
its start with the status. -/
theorem exists_created {status : Nat} {session : Session Unit} {items : List Exchange}
    {later : List (String × String × List (String × String))}
    (adds : (conversation (clientOf status).behaviour).Adds { state := () } items session)
    (asked : session.sent.map Request.summary = opening ++ later) :
    ∃ before created started after, items = before ++ created :: started :: after ∧
      Exchange.Creates created "shop-serve-box" ∧ started.1.verb = "POST" ∧
      started.2 = .received status [] false ∧
      after.map (fun exchange => exchange.1.summary) = later := by
  obtain ⟨sent, exchanged⟩ := adds
  have answered : ∀ exchange ∈ items, exchange.2 = answerAt status exchange.1.path := by
    intro exchange member
    obtain ⟨_, answer⟩ := exchanged.answered member
    exact answer
  have summaries : items.map (fun exchange => exchange.1.summary) = opening ++ later := by
    rw [← asked, sent, List.nil_append, List.map_map]
    rfl
  rw [opening, List.append_assoc] at summaries
  obtain ⟨before, rest, rfl, -, summaries⟩ := List.map_eq_append_iff.mp summaries
  rw [List.cons_append, List.singleton_append] at summaries
  obtain ⟨created, rest, rfl, creates, summaries⟩ := List.map_eq_cons_iff.mp summaries
  obtain ⟨started, after, rfl, starts, summaries⟩ := List.map_eq_cons_iff.mp summaries
  obtain ⟨verb, creates⟩ := Prod.mk.inj creates
  obtain ⟨path, parameters⟩ := Prod.mk.inj creates
  obtain ⟨startVerb, starts⟩ := Prod.mk.inj starts
  obtain ⟨startPath, -⟩ := Prod.mk.inj starts
  refine ⟨before, created, started, after, rfl, ⟨⟨verb, path, ?_⟩, ?_⟩, startVerb, ?_, summaries⟩
  · rw [parameters]
    rfl
  · rw [answered created (List.mem_append_right _ List.mem_cons_self), path, answerAt, if_pos rfl]
    decide +kernel
  · rw [answered started (List.mem_append_right _ (List.mem_cons_of_mem _ List.mem_cons_self)),
      startPath]
    rfl

theorem run_removes_shop :
    ∃ items, (conversation (clientOf 200).behaviour).Adds { state := () } items
        ((opened (clientOf 200)).run "serve" { engine := { state := () } }).2.engine ∧
      ∃ before created after, items = before ++ created :: after ∧
        Exchange.Creates created "shop-serve-box" ∧
        ∃ removed ∈ after, removed.1.Removes "shop-serve-box" := by
  obtain ⟨items, adds, fate⟩ := run_removes (clientOf 200) (opened (clientOf 200))
    (Client.serves _) rfl rfl "serve" { engine := { state := () } }
  obtain ⟨before, created, begun, after, split, creates, -, answer, -⟩ :=
    exists_created adds requests_clientOf.2
  obtain ⟨started, rest, same, -, outcome⟩ := fate before created _ _ split creates
  obtain ⟨rfl, rfl⟩ := List.cons.inj same
  obtain ⟨removed, member, removes⟩ := outcome (by rw [answer]; decide)
  exact ⟨items, adds, before, created, _, split, creates, removed,
    List.mem_cons_of_mem _ member, removes⟩

/-- A container that is created but cannot be started is not removed, even where a run cleans
up whatever happens. -/
theorem created_without_removal :
    ¬ ∀ (client : Client Unit) (setup : Setup (Session Unit)) (task : String)
      (start : State (Session Unit)),
      setup.engine = client.engine → setup.options.cleanupAfterSuccess = true →
      setup.options.cleanupAfterFailure = true →
      ∃ items, (conversation client.behaviour).Adds start.engine items
          (setup.run task start).2.engine ∧
        ∀ before created after name, items = before ++ created :: after →
          Exchange.Creates created name → ∃ removed ∈ after, removed.1.Removes name := by
  intro tidy
  obtain ⟨items, adds, fate⟩ := tidy (clientOf 500) (opened (clientOf 500)) "serve"
    { engine := { state := () } } rfl rfl rfl
  obtain ⟨before, created, started, after, split, creates, verb, -, nothing⟩ :=
    exists_created adds (requests_clientOf.1.trans (List.append_nil _).symm)
  obtain ⟨removed, member, removes⟩ := fate before created _ _ split creates
  obtain rfl := List.map_eq_nil_iff.mp nothing
  obtain rfl := List.mem_singleton.mp member
  exact absurd (verb.symm.trans removes.1) (by decide)

end ContainerTasks.Daemon
