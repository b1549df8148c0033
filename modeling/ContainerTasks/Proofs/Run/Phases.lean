import ContainerTasks.Proofs.Run.CallHistory
import ContainerTasks.Proofs.Run.ImagePool
import ContainerTasks.Run.TaskRun

/-! # The phases of a task

A task prepares images, starts containers, attends to the main one and discards what it
started. Whatever view of a run only calls to the engine add to, a task adds to it what
these phases add, one after the other, as far as it comes (`Course`): this says once what
running a task can do (`runTask_records`).
-/

namespace ContainerTasks.Run

variable {σ ε α β : Type}

theorem happen_silent (container : String) (moments : List (Engine.Moment Engine.BuildNews)) :
    Silent (σ := σ) (happen container moments) := by
  induction moments with
  | nil => exact .pure
  | cons moment rest ih =>
      cases moment with
      | pause => exact ih
      | cancel => exact cancel_silent.bind fun _ => ih
      | news news =>
          cases news with
          | output text => exact ih.bind fun _ => .pure
          | progress steps => exact (note_silent _ _ _).bind fun _ => ih

theorem copyLines_silent (writeFault : Nat → Option String) (container : String)
    (lines : List Bytes) : Silent (σ := σ) (copyLines writeFault container lines) := by
  induction lines with
  | nil => exact .pure
  | cons line rest ih =>
      refine (write_silent _ _).bind fun reason => ?_
      cases reason with
      | none => exact ih
      | some reason => exact .pure

namespace Preparation

variable {history : CallHistory σ ε}

/-- Copying output leaves everything about a preparation but its output as it was. -/
theorem copy_records (writeFault : Nat → Option String) (preparation : Preparation σ)
    (output : Bytes) (closing : Bool) :
    history.Records (preparation.copy writeFault output closing) fun copied items =>
      items = [] ∧ copied.container = preparation.container ∧
        copied.method = preparation.method ∧ copied.finish = preparation.finish := by
  unfold copy
  split
  · exact .pure ⟨rfl, rfl, rfl, rfl⟩
  · exact (copyLines_silent _ _ _).bind_records fun reason => .pure ⟨rfl, rfl, rfl, rfl⟩

theorem advance_records (writeFault : Nat → Option String) (preparation : Preparation σ)
    (now : List (Engine.Moment Engine.BuildNews)) (closing : Bool) :
    history.Records (preparation.advance writeFault now closing) fun advanced items =>
      items = [] ∧ advanced.container = preparation.container ∧
        advanced.method = preparation.method ∧ advanced.finish = preparation.finish :=
  (happen_silent _ _).bind_records fun output =>
    copy_records writeFault preparation output closing

/-- To work out the result of a preparation makes no call. -/
theorem result_silent (preparation : Preparation σ) (answer : Except Engine.Fault String) :
    Silent (preparation.result answer).run := by
  unfold result
  cases preparation.copyFault with
  | some reason => exact .throw
  | none =>
      dsimp only
      split
      · exact .throw
      · exact .throw
      · exact .attempt (note_silent _ _ _).perform fun _ => .pure
      · exact .attempt (note_silent _ _ _).perform fun _ => .pure

variable {good : ε → Prop}

/-- The end of a preparation adds what the end of its call does. -/
theorem conclude_confines (writeFault : Nat → Option String) (preparation : Preparation σ)
    (now : List (Engine.Moment Engine.BuildNews))
    (ends : history.Confines good (endCall preparation.method.call preparation.finish)) :
    history.Confines good (preparation.conclude writeFault now).run := by
  unfold conclude
  refine .attempt (happen_silent _ _).perform.confines fun output => ?_
  refine .attempt ends fun answer => ?_
  have copies : history.Confines good (preparation.copy writeFault output true) :=
    (copy_records _ _ _ _).mono fun _ _ copied => by simp [copied.1]
  have settles (copied : Preparation σ) :
      history.Confines good (perform (copied.result answer).run).run :=
    (result_silent copied answer).confines
  split
  · exact .throw
  · exact .attempt copies settles

end Preparation

/-- The calls that prepare images add items of one kind only, when they are made and when
they are answered. -/
structure PreparesWith (history : CallHistory σ ε) (engine : Engine σ) (good : ε → Prop) :
    Prop where
  pull : ∀ image, history.Records (beginCall (.pull image) (engine.pull image)) fun work items =>
    (∀ item ∈ items, good item) ∧ history.Confines good (endCall (.pull image) work.finish)
  build : ∀ request cancelled,
    history.Records (beginCall (.build request) (engine.build request cancelled)) fun work items =>
      (∀ item ∈ items, good item) ∧ history.Confines good (endCall (.build request) work.finish)

variable {history : CallHistory σ ε} {good : ε → Prop}

/-- A preparation that begins adds items of one kind, and so does the end of its call. -/
theorem Preparation.start_records {engine : Engine σ} (prepares : PreparesWith history engine good)
    (project : String) (container : Project.Container) :
    history.Records (Preparation.start engine project container) fun preparation items =>
      (∀ item ∈ items, good item) ∧
        history.Confines good (endCall preparation.method.call preparation.finish) := by
  unfold Preparation.start
  cases Method.ofContainer project container with
  | pull image =>
      refine (prepares.pull image).bind fun work items ⟨within, ends⟩ => .pure ?_
      rw [List.append_nil]
      exact ⟨within, ends⟩
  | build request =>
      refine Silent.get.bind_records fun state => ?_
      refine (prepares.build request state.cancelled).bind fun work items ⟨within, ends⟩ => .pure ?_
      rw [List.append_nil]
      exact ⟨within, ends⟩

/-- A preparation that has gone on to a pause is ended by the call that it began with. -/
theorem Preparation.advance_bind {best : Except Error α → List ε → Prop}
    (writeFault : Nat → Option String) (preparation : Preparation σ)
    (now : List (Engine.Moment Engine.BuildNews)) {rest : Preparation σ → Attempt σ α}
    (ends : history.Confines good (endCall preparation.method.call preparation.finish))
    (next : ∀ advanced : Preparation σ,
      history.Confines good (endCall advanced.method.call advanced.finish) →
      history.Records (rest advanced).run best) :
    history.Records (perform (preparation.advance writeFault now false) >>= rest).run best := by
  refine (advance_records writeFault preparation now false).lift ?_
  rintro advanced _ ⟨rfl, -, method, finish⟩
  exact next advanced (by rwa [method, finish])

/-- A preparation that has begun goes on to its first pause or to its end. -/
theorem Preparation.begun_confines (writeFault : Nat → Option String) (preparation : Preparation σ)
    (ends : history.Confines good (endCall preparation.method.call preparation.finish))
    {paused : List (Engine.Moment Engine.BuildNews) → Preparation σ → Attempt σ α}
    {ended : Except Error String → Attempt σ α}
    (goesOn : ∀ later (advanced : Preparation σ),
      history.Confines good (endCall advanced.method.call advanced.finish) →
      history.Confines good (paused later advanced).run)
    (isOver : ∀ result, history.Confines good (ended result).run) :
    history.Confines good
      (match stretch preparation.course with
      | (now, some later) => do
        let advanced ← perform (preparation.advance writeFault now false)
        paused later advanced
      | (now, none) => do
        let result ← preparation.conclude writeFault now
        ended result).run := by
  split
  · exact advance_bind _ _ _ ends (goesOn _)
  · exact .attempt (conclude_confines _ _ _ ends) isOver

/-- Preparing images adds items of one kind, in whatever order the preparations go on. -/
theorem ImagePool.run_confines (pool : ImagePool σ) (prepares : PreparesWith history pool.engine good)
    (waiting : List Project.Container) (working : List (Preparation σ)) (results : Results)
    (turns : List Turn)
    (ends : ∀ preparation ∈ working,
      history.Confines good (endCall preparation.method.call preparation.finish)) :
    history.Confines good (pool.run waiting working results turns).run := by
  -- What is kept is that every preparation under way ends with items of that kind.
  induction waiting, working, results, turns using ImagePool.run.induct pool with
  | case1 waiting working results turns error due =>
      rw [run_due due]
      exact .throw
  | case2 waiting working results turns going place inside preparation now later paused ih =>
      have under : history.Confines good (endCall preparation.method.call preparation.finish) :=
        ends _ (List.getElem_mem inside)
      rw [run_paused going rfl inside paused]
      refine Preparation.advance_bind _ _ _ under fun advanced next => ih advanced ?_
      intro other member
      rcases List.mem_or_eq_of_mem_set member with old | rfl
      · exact ends other old
      · exact next
  | case3 waiting working results turns going place inside preparation now ended ih =>
      have under : history.Confines good (endCall preparation.method.call preparation.finish) :=
        ends _ (List.getElem_mem inside)
      rw [run_ended going rfl inside ended]
      refine .attempt (Preparation.conclude_confines _ _ _ under) fun result => ih result ?_
      exact fun other member => ends other (List.mem_of_mem_eraseIdx member)
  | case4 working results turns going place outside =>
      rw [run_over going rfl outside]
      exact .pure
  | case5 working results turns going container waiting place outside paused ended =>
      rw [run_begun going rfl outside]
      refine (Preparation.start_records prepares pool.project container).lift ?_
      intro preparation items ⟨within, under⟩
      suffices later : history.Confines good _ from
        later.mono fun _ more moreWithin => List.forall_mem_append.mpr ⟨within, moreWithin⟩
      refine preparation.begun_confines _ under (fun later advanced next => ?_)
        fun result => ended preparation result ends
      exact paused later advanced
        (List.forall_mem_append.mpr ⟨ends, List.forall_mem_singleton.mpr next⟩)

theorem ImagePool.prepare_confines (pool : ImagePool σ)
    (prepares : PreparesWith history pool.engine good) (containers : List Project.Container) :
    history.Confines good (pool.prepare containers).run :=
  .attempt (pool.run_confines prepares containers [] _ [] (by simp)) fun _ => .pure

namespace Setup

/-- No more permits are asked for than there may be. -/
def Permitted (setup : Setup σ) : Prop :=
  setup.options.maxParallelism.toNat ≤ Breakdown.maxPermits

instance (setup : Setup σ) : Decidable setup.Permitted :=
  inferInstanceAs (Decidable (_ ≤ _))

/-- How many images may be on their way at the same time. -/
def limit (setup : Setup σ) : Nat :=
  max 1 setup.options.maxParallelism.toNat

theorem limit_le_iff (setup : Setup σ) :
    max 1 setup.options.maxParallelism.toNat ≤ Breakdown.maxPermits ↔ setup.Permitted :=
  Nat.max_le.trans (and_iff_right (by decide))

/-- The pool that images are prepared in. -/
def poolOf (setup : Setup σ) (permitted : setup.Permitted) : ImagePool σ where
  engine := setup.engine
  project := setup.project.name
  limit := ⟨setup.limit, Nat.le_max_left .., setup.limit_le_iff.mpr permitted⟩
  schedule := setup.schedule
  writeFault := setup.writeFault

theorem prepare_of_permitted (setup : Setup σ) (permitted : setup.Permitted)
    (containers : List Project.Container) :
    setup.prepare containers = (setup.poolOf permitted).prepare containers := by
  rw [prepare, pool, Permits.ofCount, dif_pos (setup.limit_le_iff.mpr permitted)]
  rfl

/-- With more permits than there may be the program breaks down before anything begins. -/
theorem prepare_of_not_permitted (setup : Setup σ) (beyond : ¬ setup.Permitted)
    (containers : List Project.Container) :
    setup.prepare containers = throw (.brokenDown .permits) := by
  rw [prepare, pool, Permits.ofCount, dif_neg (mt setup.limit_le_iff.mp beyond)]
  rfl

theorem prepare_records {holds : Except Error TextMap → List ε → Prop} (setup : Setup σ)
    (containers : List Project.Container)
    (breaks : ¬ setup.Permitted → holds (.error (.brokenDown .permits)) [])
    (prepares : ∀ permitted,
      history.Records ((setup.poolOf permitted).prepare containers).run holds) :
    history.Records (setup.prepare containers).run holds := by
  by_cases permitted : setup.Permitted
  · rw [setup.prepare_of_permitted permitted]
    exact prepares permitted
  · rw [setup.prepare_of_not_permitted permitted]
    exact .throw (breaks permitted)

theorem prepare_confines (setup : Setup σ) (prepares : PreparesWith history setup.engine good)
    (containers : List Project.Container) :
    history.Confines good (setup.prepare containers).run :=
  setup.prepare_records containers (fun _ => by simp) fun permitted =>
    ImagePool.prepare_confines (setup.poolOf permitted) prepares containers

theorem checkCancelled_silent : Silent (σ := σ) checkCancelled.run := by
  refine .attempt Silent.get.perform fun state => ?_
  split
  · exact .throw
  · exact .pure

theorem follow_silent (setup : Setup σ) (name : String)
    (moments : List (Engine.Moment (Except Engine.Fault Engine.LogItem))) :
    Silent (setup.follow name moments).run := by
  induction moments with
  | nil => exact checkCancelled_silent
  | cons moment rest ih =>
      refine .attempt checkCancelled_silent fun _ => ?_
      cases moment with
      | pause => exact ih
      | cancel => exact .attempt cancel_silent.perform fun _ => ih
      | news item =>
          cases item with
          | error fault => exact (note_silent _ _ _).perform
          | ok item =>
              cases item with
              | unknown => exact ih
              | stdout message | stderr message =>
                  refine .attempt (write_silent _ _).perform fun reason => ?_
                  cases reason with
                  | none => exact ih
                  | some reason => exact .throw

/-- Discarding a container adds what stopping it adds and then what removing it adds. -/
theorem discard_records (setup : Setup σ) (name : String) {stopped removed both : List ε → Prop}
    (stops : history.Records
      (Run.call (.stop name setup.options.stopTimeout)
        (setup.engine.stop name setup.options.stopTimeout)) fun _ => stopped)
    (removes : history.Records (Run.call (.remove name) (setup.engine.remove name)) fun _ => removed)
    (join : ∀ items more, stopped items → removed more → both (items ++ more)) :
    history.Records (setup.discard name) fun _ => both := by
  refine stops.bind fun answer items first => ?_
  cases answer
  case' error fault => refine (note_silent _ _ _).bind_records fun _ => ?_
  all_goals
    refine (Silent.after_records removes ?_).mono fun _ more => join items more first
    rintro (fault | _)
    · exact note_silent _ _ _
    · exact .pure

/-- What the phases of a task add to a view, by how they end. -/
structure Phases (ε : Type) where
  prepare : List Project.Container → Except Error TextMap → List ε → Prop
  start : List Engine.StartRequest → List String × Except Error Unit → List ε → Prop
  attend : (name : String) → Except Error Int → List ε → Prop
  discard : (names : List String) → List ε → Prop

/-- The phases of tasks add to a history what is said of them. -/
structure Phases.Describe (phases : Phases ε) (history : CallHistory σ ε) (setup : Setup σ) :
    Prop where
  prepare : ∀ containers,
    history.Records (setup.prepare containers).run (phases.prepare containers)
  start : ∀ requests, history.Records (setup.startAll requests) (phases.start requests)
  attend : ∀ task name, history.Records (setup.attend task name).run (phases.attend name)
  discard : ∀ names, history.Records (setup.discardAll names) fun _ => phases.discard names

/-- How starting and attending to containers goes: one of them does not start, or all do
and the main one is attended to. The names are those of the containers that started. -/
inductive Phases.Work (phases : Phases ε) (requests : List Engine.StartRequest)
    (mainContainer : String) : List String → Except Error Int → List ε → Prop
  | unstarted {started : List String} {error : Error} {starting : List ε}
      (start : phases.start requests (started, .error error) starting) :
      phases.Work requests mainContainer started (.error error) starting
  | attended {started : List String} {result : Except Error Int} {starting attending : List ε}
      (start : phases.start requests (started, .ok ()) starting)
      (attend : phases.attend mainContainer result attending) :
      phases.Work requests mainContainer started result (starting ++ attending)

/-- The course of a task, as far as it comes: what it ends with, and what it adds. -/
inductive Phases.Course (phases : Phases ε) (setup : Setup σ) (task : Project.Task)
    (run : Project.TaskRun) : Except Error Int → List ε → Prop
  | misconfigured {error : Graph.Error} (failed : ContainerGraph.ofTask setup.project task = .error error) :
      phases.Course setup task run (.error (.graph error)) []
  | unprepared {graph : ContainerGraph} {error : Error} {prepared : List ε}
      (made : ContainerGraph.ofTask setup.project task = .ok graph)
      (prepare : phases.prepare (setup.containers graph.startOrder) (.error error) prepared) :
      phases.Course setup task run (.error error) prepared
  | worked {graph : ContainerGraph} {images : TextMap} {started : List String}
      {result : Except Error Int} {prepared working cleaned : List ε}
      (made : ContainerGraph.ofTask setup.project task = .ok graph)
      (prepare : phases.prepare (setup.containers graph.startOrder) (.ok images) prepared)
      (work : phases.Work (setup.startRequests task run graph images)
        (setup.containerName task.name graph.root) started result working)
      (clean : if setup.cleansUp result then phases.discard started.reverse cleaned
        else cleaned = []) :
      phases.Course setup task run result (prepared ++ (working ++ cleaned))

theorem startAndAttend_records {phases : Phases ε} {setup : Setup σ}
    (describe : phases.Describe history setup) (task mainContainer : String)
    (requests : List Engine.StartRequest) :
    history.Records (setup.startAndAttend task mainContainer requests) fun ended items =>
      phases.Work requests mainContainer ended.1 ended.2 items := by
  refine (describe.start requests).bind ?_
  rintro ⟨started, result⟩ starting start
  cases result with
  | error error =>
      refine .pure ?_
      rw [List.append_nil]
      exact .unstarted start
  | ok _ =>
      refine (describe.attend task mainContainer).bind fun result attending attend => .pure ?_
      rw [List.append_nil]
      exact .attended start attend

theorem cleanUp_records {phases : Phases ε} {setup : Setup σ}
    (describe : phases.Describe history setup) (task : String) (started : List String)
    (result : Except Error Int) :
    history.Records (setup.cleanUp task started result) fun _ cleaned =>
      if setup.cleansUp result then phases.discard started.reverse cleaned else cleaned = [] := by
  unfold cleanUp
  split
  · exact describe.discard _
  · split
    · exact (note_silent _ _ _).records fun _ => rfl
    · exact .pure rfl

theorem runTask_of_error (setup : Setup σ) {task : Project.Task} {error : Graph.Error}
    (failed : ContainerGraph.ofTask setup.project task = .error error) (run : Project.TaskRun) :
    setup.runTask task run = throw (.graph error) := by
  unfold runTask
  rw [failed]
  rfl

theorem runTask_of_ok (setup : Setup σ) {task : Project.Task} {graph : ContainerGraph}
    (made : ContainerGraph.ofTask setup.project task = .ok graph) (run : Project.TaskRun) :
    setup.runTask task run = (do
      perform (modify fun state => { state with journal := state.journal ++ [graph.journalEntry] })
      let images ← setup.prepare (setup.containers graph.startOrder)
      let ended ← perform (setup.startAndAttend task.name
        (setup.containerName task.name graph.root) (setup.startRequests task run graph images))
      perform (setup.cleanUp task.name ended.1 ended.2)
      ExceptT.mk (pure ended.2)) := by
  unfold runTask
  rw [made]
  rfl

/-- **What running a task can do.** Its course is one of those that its phases allow. -/
theorem runTask_records {phases : Phases ε} {setup : Setup σ}
    (describe : phases.Describe history setup) (task : Project.Task) (run : Project.TaskRun) :
    history.Records (setup.runTask task run).run (phases.Course setup task run) := by
  cases made : ContainerGraph.ofTask setup.project task with
  | error error =>
      rw [runTask_of_error setup made]
      exact .throw (.misconfigured made)
  | ok graph =>
      rw [runTask_of_ok setup made]
      have noted : Silent (σ := σ) (modify fun state =>
          { state with journal := state.journal ++ [graph.journalEntry] }) := fun _ => ⟨rfl, rfl⟩
      refine noted.lift_records fun _ => ?_
      refine (describe.prepare (setup.containers graph.startOrder)).attempt ?_ ?_
      · intro images prepared prepare
        refine (startAndAttend_records describe _ _ _).lift fun ended working work => ?_
        refine (cleanUp_records describe _ _ _).lift fun _ cleaned clean => ?_
        refine History.Records.pure
          (?_ : phases.Course setup task run ended.2 (prepared ++ (working ++ (cleaned ++ []))))
        rw [List.append_nil]
        exact .worked made prepare work clean
      · exact fun error prepared prepare => .unprepared made prepare

end Setup

end ContainerTasks.Run
