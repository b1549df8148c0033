import Mathlib.Data.List.Nodup
import ContainerTasks.Proofs.Graph.StartOrder
import ContainerTasks.Proofs.Run.Trace

/-! # Cleaning up after a task

A task stops and removes exactly the containers that it started, the last one first, if
the option for its outcome says so, and none otherwise (`runTask_cleanup`). How it does
so has no influence on what the task ends with.
-/

namespace ContainerTasks.Run

variable {σ : Type}

theorem Call.Prepares.not_discards {call : Call} (prepares : call.Prepares) : ¬ call.Discards := by
  cases call with
  | pull | build => exact id
  | start | logs | wait | stop | remove => exact prepares.elim

theorem Call.Prepares.not_starts {call : Call} (prepares : call.Prepares) : ¬ call.Starts := by
  cases call with
  | pull | build => exact id
  | start | logs | wait | stop | remove => exact prepares.elim

theorem Call.Discards.not_starts {call : Call} (discards : call.Discards) : ¬ call.Starts := by
  cases call with
  | stop | remove => exact id
  | pull | build | start | logs | wait => exact discards.elim

theorem Call.Starts.not_discards {call : Call} (starts : call.Starts) : ¬ call.Discards :=
  fun discards => discards.not_starts starts

theorem mem_discards {timeout : Int} {names : List String} {call : Call}
    (member : call ∈ discards timeout names) :
    ∃ name ∈ names, call = .stop name timeout ∨ call = .remove name := by
  obtain ⟨name, present, either⟩ := List.mem_flatMap.mp member
  simp only [List.mem_cons, List.not_mem_nil, or_false] at either
  exact ⟨name, present, either⟩

/-- Preparing images goes on alike in two pools that let preparations go on in the same
turns and begin them in the same way. -/
theorem ImagePool.run_congr {pool other : ImagePool σ}
    (place : other.nextPlace = pool.nextPlace) (fault : other.writeFault = pool.writeFault)
    (start : Preparation.start other.engine other.project =
      Preparation.start pool.engine pool.project) :
    other.run = pool.run := by
  funext waiting working results turns
  induction waiting, working, results, turns using ImagePool.run.induct pool with
  | case1 waiting working results turns error due =>
      rw [run_due due, run_due due]
  | case2 waiting working results turns going turn inside preparation now later paused ih =>
      have next : other.nextPlace waiting working turns = pool.nextPlace waiting working turns := by
        rw [place]
      rw [run_paused going rfl inside paused, run_paused going next inside paused, fault]
      exact bind_congr ih
  | case3 waiting working results turns going turn inside preparation now ended ih =>
      have next : other.nextPlace waiting working turns = pool.nextPlace waiting working turns := by
        rw [place]
      rw [run_ended going rfl inside ended, run_ended going next inside ended, fault]
      exact bind_congr ih
  | case4 working results turns going turn outside =>
      have next : other.nextPlace [] working turns = pool.nextPlace [] working turns := by
        rw [place]
      rw [run_over going rfl outside, run_over going next outside]
  | case5 working results turns going container waiting turn outside paused ended =>
      have next : other.nextPlace (container :: waiting) working turns =
          pool.nextPlace (container :: waiting) working turns := by
        rw [place]
      rw [run_begun going rfl outside, run_begun going next outside, start, fault]
      refine bind_congr fun preparation => ?_
      split
      · exact bind_congr fun advanced => paused _ advanced
      · exact bind_congr fun result => ended preparation result

theorem ImagePool.prepare_congr {pool other : ImagePool σ}
    (place : other.nextPlace = pool.nextPlace) (fault : other.writeFault = pool.writeFault)
    (start : Preparation.start other.engine other.project =
      Preparation.start pool.engine pool.project) :
    other.prepare = pool.prepare := by
  funext containers
  rw [prepare, prepare, run_congr place fault start]

namespace Setup

/-- A setup whose engine stops and removes containers in another way. -/
def discardingBy (setup : Setup σ)
    (stop : String → Int → σ → Engine.Reply σ (Except Engine.Fault Unit))
    (remove : String → σ → Engine.Reply σ (Except Engine.Fault Unit)) : Setup σ :=
  { setup with engine := { setup.engine with stop, remove } }

section

variable (setup : Setup σ)
  (stop : String → Int → σ → Engine.Reply σ (Except Engine.Fault Unit))
  (remove : String → σ → Engine.Reply σ (Except Engine.Fault Unit))

theorem prepare_discardingBy :
    (setup.discardingBy stop remove).prepare = setup.prepare := by
  funext containers
  by_cases permitted : setup.Permitted
  · rw [setup.prepare_of_permitted permitted,
      (setup.discardingBy stop remove).prepare_of_permitted permitted]
    refine congrFun (ImagePool.prepare_congr ?_ ?_ ?_) containers
    · rfl
    · rfl
    · rfl
  · rw [setup.prepare_of_not_permitted permitted,
      (setup.discardingBy stop remove).prepare_of_not_permitted permitted]

theorem startAll_discardingBy :
    (setup.discardingBy stop remove).startAll = setup.startAll := by
  funext requests
  induction requests with
  | nil => rfl
  | cons request rest ih =>
      rw [startAll, startAll, ih]
      rfl

theorem follow_discardingBy : (setup.discardingBy stop remove).follow = setup.follow := by
  funext name moments
  induction moments with
  | nil => rfl
  | cons moment rest ih =>
      rw [follow.eq_def, follow.eq_def setup]
      dsimp only
      rw [ih]
      rfl

theorem startAndAttend_discardingBy :
    (setup.discardingBy stop remove).startAndAttend = setup.startAndAttend := by
  funext task mainContainer requests
  have attends : (setup.discardingBy stop remove).attend = setup.attend := by
    funext task name
    unfold attend
    rw [follow_discardingBy]
    rfl
  unfold startAndAttend
  rw [startAll_discardingBy, attends]

/-- What a task ends with does not depend on how its containers are discarded. -/
theorem result_discardingBy (task : Project.Task) (run : Project.TaskRun) (before : State σ) :
    (outcome ((setup.discardingBy stop remove).runTask task run).run before).1 =
      (outcome (setup.runTask task run).run before).1 := by
  have project : (setup.discardingBy stop remove).project = setup.project := rfl
  cases made : ContainerGraph.ofTask setup.project task with
  | error error =>
      rw [runTask_of_error setup made, runTask_of_error _ (project ▸ made)]
  | ok graph =>
      rw [runTask_of_ok setup made, runTask_of_ok _ (project ▸ made), prepare_discardingBy,
        startAndAttend_discardingBy]
      refine answer_bind_congr (fun _ noted => ?_) before
      refine answer_bind_congr (fun images prepared => ?_) noted
      refine answer_bind_congr (fun ended state => ?_) prepared
      have last : ∀ action : Action σ Unit,
          (outcome (perform action >>= fun _ => ExceptT.mk (pure ended.2)).run state).1 = ended.2 :=
        fun _ => rfl
      rw [last, last]

end

theorem names_containers_sublist (setup : Setup σ) (keyed : setup.project.Keyed)
    (names : List String) : List.Sublist ((setup.containers names).map (·.name)) names := by
  induction names with
  | nil => exact List.Sublist.refl []
  | cons name rest ih =>
      cases found : setup.project.container? name with
      | none =>
          rw [containers, List.filterMap_cons_none found]
          exact ih.cons name
      | some container =>
          rw [containers, List.filterMap_cons_some found, List.map_cons, keyed name container found]
          exact ih.cons_cons name

theorem containerName_injective (setup : Setup σ) (task : String) :
    Function.Injective (setup.containerName task) := by
  intro first second same
  unfold containerName at same
  exact (String.append_right_inj _).mp same

/-- The containers of a task start under different names. -/
theorem names_startRequests_nodup (setup : Setup σ) (keyed : setup.project.Keyed)
    {task : Project.Task} {graph : ContainerGraph}
    (made : ContainerGraph.ofTask setup.project task = .ok graph) (run : Project.TaskRun)
    (images : TextMap) :
    ((setup.startRequests task run graph images).map (·.name)).Nodup := by
  have names : (setup.startRequests task run graph images).map (·.name) =
      ((setup.containers (graph.startOrder.filter (· != graph.root) ++ [graph.root])).map
        (·.name)).map (setup.containerName task.name) := by
    simp only [startRequests, containers, List.map_append, List.map_map, List.filterMap_append]
    rfl
  rw [names]
  refine List.Nodup.map (setup.containerName_injective task.name)
    ((setup.names_containers_sublist keyed _).nodup ?_)
  refine List.nodup_append.mpr
    ⟨(ContainerGraph.startOrder_leaves made).1.filter _, List.pairwise_singleton _ _, ?_⟩
  intro name member other single same
  rw [List.mem_singleton.mp single] at same
  simp [same] at member

theorem cleansUp_eq (setup : Setup σ) (result : Except Error Int) :
    setup.cleansUp result =
      if result = .ok 0 then setup.options.cleanupAfterSuccess
      else setup.options.cleanupAfterFailure := by
  unfold cleansUp
  split
  · simp
  · rename_i other
    rw [if_neg other]

/-- What starts and attends to containers discards none of them; the names are those of
the containers that start, which are the first of all. -/
theorem Phases.Work.started {setup : Setup σ} {requests : List Engine.StartRequest} {name : String}
    {started : List String} {result : Except Error Int} {marks : List Mark}
    (work : setup.tracePhases.Work requests name started result marks) :
    startedNames marks = started ∧ started <+: requests.map (·.name) ∧
      ∀ mark ∈ marks, ¬ mark.call.Discards := by
  cases work with
  | unstarted start =>
      exact ⟨Starting.startedNames_eq start, Starting.isPrefix start, fun mark member =>
        (Starting.call_starts start mark member).not_discards⟩
  | @attended _ starting attending start attend =>
      have others : ∀ mark ∈ attending, ¬ mark.call.Starts ∧ ¬ mark.call.Discards := by
        intro mark member
        rcases Attending.call_eq attend mark member with same | same
        · rw [same]
          exact ⟨id, id⟩
        · rw [same]
          exact ⟨id, id⟩
      refine ⟨?_, Starting.isPrefix start, List.forall_mem_append.mpr ⟨?_, ?_⟩⟩
      · rw [startedNames_append, Starting.startedNames_eq start,
          startedNames_eq_nil fun mark member => (others mark member).1, List.append_nil]
      · exact fun mark member => (Starting.call_starts start mark member).not_discards
      · exact fun mark member => (others mark member).2

/-- What cleaning up does, given what a task leaves in the trace: with `cleans` the last
calls discard the containers that were started, else there are none that do. -/
structure CleansUp (setup : Setup σ) (cleans : Bool) (marks : List Mark) : Prop where
  nodup : setup.project.Keyed → (startedNames marks).Nodup
  discarded : cleans = true → ∃ earlier,
    made marks = earlier ++ discards setup.options.stopTimeout (startedNames marks).reverse ∧
      ∀ call ∈ earlier, ¬ call.Discards
  kept : cleans = false → ∀ call ∈ made marks, ¬ call.Discards

/-- Where nothing was started there is nothing to discard. -/
theorem CleansUp.of_prepares {setup : Setup σ} {cleans : Bool} {marks : List Mark}
    (prepares : ∀ mark ∈ marks, mark.call.Prepares) : CleansUp setup cleans marks := by
  have nothing : startedNames marks = [] :=
    startedNames_eq_nil fun mark member => (prepares mark member).not_starts
  have others : ∀ call ∈ made marks, ¬ call.Discards := by
    intro call member
    obtain ⟨mark, present, rfl⟩ := exists_of_mem_made member
    exact (prepares mark present).not_discards
  refine ⟨fun _ => by simp [nothing], fun _ => ⟨made marks, ?_, others⟩, fun _ => others⟩
  rw [nothing, List.reverse_nil]
  exact (List.append_nil _).symm

/-- Only what was started is discarded. -/
theorem CleansUp.mem_startedNames {setup : Setup σ} {cleans : Bool} {marks : List Mark}
    (cleanup : CleansUp setup cleans marks) {name : String} {timeout : Int}
    (discarded : .stop name timeout ∈ made marks ∨ .remove name ∈ made marks) :
    name ∈ startedNames marks := by
  have exact : ∀ call ∈ made marks, call.Discards →
      call = .stop name timeout ∨ call = .remove name → name ∈ startedNames marks := by
    intro call member discards same
    cases flag : cleans with
    | false => exact (cleanup.kept flag call member discards).elim
    | true =>
        obtain ⟨earlier, split, others⟩ := cleanup.discarded flag
        rw [split] at member
        rcases List.mem_append.mp member with first | last
        · exact (others call first discards).elim
        · obtain ⟨other, started, either⟩ := mem_discards last
          obtain rfl : other = name := by
            rcases same with rfl | rfl <;> rcases either with either | either <;> cases either <;> rfl
          exact List.mem_reverse.mp started
  rcases discarded with stopped | removed
  · exact exact _ stopped trivial (Or.inl rfl)
  · exact exact _ removed trivial (Or.inr rfl)

theorem Phases.Course.cleansUp {setup : Setup σ} {task : Project.Task} {run : Project.TaskRun}
    {result : Except Error Int} {marks : List Mark}
    (course : setup.tracePhases.Course setup task run result marks) :
    CleansUp setup (setup.cleansUp result) marks := by
  cases course with
  | misconfigured failed => exact .of_prepares (by simp)
  | unprepared graph prepare => exact .of_prepares prepare
  | @worked graph images started _ prepared working cleaned graphMade prepare work clean =>
      obtain ⟨names, isPrefix, others⟩ := work.started
      have unstarted : startedNames prepared = [] :=
        startedNames_eq_nil fun mark member => (prepare mark member).not_starts
      have earlier : ∀ call ∈ made (prepared ++ working), ¬ call.Discards := by
        intro call member
        obtain ⟨mark, present, rfl⟩ := exists_of_mem_made member
        exact (List.mem_append.mp present).elim
          (fun first => (prepare mark first).not_discards) (others mark)
      have afterwards : startedNames cleaned = [] := by
        split at clean
        · exact startedNames_eq_nil fun mark member => (clean.others mark member).not_starts
        · rw [clean]
          rfl
      have all : startedNames (prepared ++ (working ++ cleaned)) = started := by
        rw [startedNames_append, startedNames_append, unstarted, names, afterwards,
          List.append_nil, List.nil_append]
      -- All that started did so while working; what was done before discards nothing.
      refine ⟨fun keyed => ?_, fun cleans => ?_, fun keeps => ?_⟩
      · rw [all]
        exact isPrefix.sublist.nodup (setup.names_startRequests_nodup keyed graphMade run images)
      · rw [if_pos cleans] at clean
        refine ⟨made (prepared ++ working), ?_, earlier⟩
        rw [all, ← List.append_assoc, made_append, clean.made]
      · rw [if_neg (by rw [keeps]; exact Bool.false_ne_true)] at clean
        rwa [clean, List.append_nil]

/-- **Cleaning up.** Whether a task cleans up is up to the option for its outcome, which
is success only if it ends with zero. If it does, its last calls stop and remove each
container that it started, once and in reverse order, whatever they are answered; if it
does not, no container is stopped or removed. None but those that it started ever is, and
how stopping and removing goes makes no difference to what the task ends with. -/
theorem runTask_cleanup (setup : Setup σ) (task : Project.Task) (run : Project.TaskRun)
    (before : State σ) :
    let ended := outcome (setup.runTask task run).run before
    let cleans := if ended.1 = .ok 0 then setup.options.cleanupAfterSuccess
      else setup.options.cleanupAfterFailure
    ∃ marks, ended.2.trace = before.trace ++ marks ∧
      (setup.project.Keyed → (startedNames marks).Nodup) ∧
      (cleans = true → ∃ earlier,
        made marks = earlier ++ discards setup.options.stopTimeout (startedNames marks).reverse ∧
          ∀ call ∈ earlier, ¬ call.Discards) ∧
      (cleans = false → ∀ call ∈ made marks, ¬ call.Discards) ∧
      (∀ name timeout, .stop name timeout ∈ made marks ∨ .remove name ∈ made marks →
        name ∈ startedNames marks) ∧
      ∀ stop remove,
        (outcome ((setup.discardingBy stop remove).runTask task run).run before).1 = ended.1 := by
  intro ended cleans
  obtain ⟨marks, grown, course⟩ := runTask_records setup.tracePhases_describe task run before
  have cleanup := course.cleansUp
  rw [cleansUp_eq] at cleanup
  exact ⟨marks, grown, cleanup.nodup, cleanup.discarded, cleanup.kept,
    fun _ _ => cleanup.mem_startedNames,
    fun stop remove => setup.result_discardingBy stop remove task run before⟩

end Setup

end ContainerTasks.Run
