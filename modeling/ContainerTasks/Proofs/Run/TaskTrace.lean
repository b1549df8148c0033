import ContainerTasks.Proofs.Run.Cleanup
import ContainerTasks.Proofs.Run.Misconfiguration
import ContainerTasks.Proofs.Run.Preparing
import ContainerTasks.Proofs.Run.StartRequests

/-! # The trace of a task

A task prepares the image of each of its containers by one call, starts the containers in
order until one does not start, and attends to the main one once all have started. What
this leaves in the trace (`TaskTrace`) follows from its course.
-/

namespace ContainerTasks.Run

variable {σ : Type}

/-- A call that attends to a container. -/
def Call.Attends : Call → Prop
  | .logs _ | .wait _ => True
  | _ => False

instance : DecidablePred Call.Prepares
  | .pull _ | .build _ => .isTrue trivial
  | .start _ | .logs _ | .wait _ | .stop _ _ | .remove _ => .isFalse id

instance : DecidablePred Call.Attends
  | .logs _ | .wait _ => .isTrue trivial
  | .pull _ | .build _ | .start _ | .stop _ _ | .remove _ => .isFalse id

theorem Call.Prepares.only {call : Call} (prepares : call.Prepares) :
    ¬ call.Starts ∧ ¬ call.Attends := by
  cases call with
  | pull | build => exact ⟨id, id⟩
  | start | logs | wait | stop | remove => exact prepares.elim

theorem Call.Starts.only {call : Call} (starts : call.Starts) :
    ¬ call.Prepares ∧ ¬ call.Attends := by
  cases call with
  | start => exact ⟨id, id⟩
  | pull | build | logs | wait | stop | remove => exact starts.elim

theorem Call.Attends.only {call : Call} (attends : call.Attends) :
    ¬ call.Prepares ∧ ¬ call.Starts := by
  cases call with
  | logs | wait => exact ⟨id, id⟩
  | pull | build | start | stop | remove => exact attends.elim

theorem Call.Discards.only {call : Call} (discards : call.Discards) :
    ¬ call.Prepares ∧ ¬ call.Starts ∧ ¬ call.Attends := by
  cases call with
  | stop | remove => exact ⟨id, id, id⟩
  | pull | build | start | logs | wait => exact discards.elim

theorem exists_of_mem_succeeded {marks : List Mark} {call : Call}
    (member : call ∈ succeeded marks) : ∃ mark ∈ marks, mark.call = call := by
  obtain ⟨mark, present, same⟩ := List.mem_filterMap.mp member
  cases mark with
  | began call cancelled => cases same
  | ended call fault =>
      cases fault with
      | none => exact ⟨_, present, Option.some.inj same⟩
      | some fault => cases same

section

variable {good : Call → Prop} [DecidablePred good] {marks : List Mark} {calls : List Call}

theorem filter_eq_nil_of_marks (marked : ∀ call ∈ calls, ∃ mark ∈ marks, mark.call = call)
    (others : ∀ mark ∈ marks, ¬ good mark.call) : calls.filter good = [] := by
  refine List.filter_eq_nil_iff.mpr fun call member => ?_
  obtain ⟨mark, present, rfl⟩ := marked call member
  simpa using others mark present

theorem filter_eq_self_of_marks (marked : ∀ call ∈ calls, ∃ mark ∈ marks, mark.call = call)
    (all : ∀ mark ∈ marks, good mark.call) : calls.filter good = calls := by
  refine List.filter_eq_self.mpr fun call member => ?_
  obtain ⟨mark, present, rfl⟩ := marked call member
  simpa using all mark present

end

theorem requested_eq_nil {marks : List Mark} (others : ∀ mark ∈ marks, ¬ mark.call.Starts) :
    requested marks = [] := by
  refine List.filterMap_eq_nil_iff.mpr fun mark member => ?_
  have other := others mark member
  cases mark with
  | ended call fault => rfl
  | began call cancelled =>
      cases call with
      | start request => exact (other trivial).elim
      | pull | build | logs | wait | stop | remove => rfl

/-- What is not in the first part of a list stands in the second. -/
theorem exists_right_of_append_eq {α : Type} {front back earlier later : List α} {item : α}
    (split : front ++ back = earlier ++ item :: later) (absent : item ∉ front) :
    ∃ more, earlier = front ++ more ∧ back = more ++ item :: later := by
  rcases exists_of_append_eq split with right | ⟨more, rfl, -⟩
  · exact right
  · exact (absent (List.mem_append_right _ List.mem_cons_self)).elim

theorem exists_left_of_append_eq {α : Type} {front back earlier later : List α} {item : α}
    (split : front ++ back = earlier ++ item :: later) (absent : item ∉ back) :
    ∃ more, front = earlier ++ item :: more ∧ later = more ++ back := by
  rcases exists_of_append_eq split with ⟨more, -, rfl⟩ | left
  · exact (absent (List.mem_append_right _ List.mem_cons_self)).elim
  · exact left

namespace Setup

namespace Starting

variable {requests : List Engine.StartRequest} {started : List String}
  {result : Except Error Unit} {marks : List Mark}

theorem requested_isPrefix (starting : Starting requests (started, result) marks) :
    requested marks <+: requests := by
  generalize (started, result) = ended at starting
  induction starting with
  | done => exact List.nil_prefix
  | failed => exact (List.prefix_cons_inj _).mpr List.nil_prefix
  | next later ih => exact (List.prefix_cons_inj _).mpr ih

theorem all (starting : Starting requests (started, .ok ()) marks) :
    requested marks = requests ∧ started = requests.map (·.name) := by
  generalize same : (started, Except.ok ()) = ended at starting
  induction starting generalizing started with
  | done => exact ⟨rfl, (Prod.mk.inj same).1⟩
  | failed => cases same
  | @next request _ _ _ _ marks later ih =>
      obtain ⟨rfl, rfl⟩ := Prod.mk.inj same
      obtain ⟨asked, names⟩ := ih rfl
      refine ⟨congrArg (request :: ·) asked, ?_⟩
      rw [List.map_cons, names]

theorem exists_failed {error : Error} (starting : Starting requests (started, .error error) marks) :
    ∃ earlier request cancelled fault, error = .container request.name fault ∧ marks = earlier ++
      [.began (.start request) cancelled, .ended (.start request) (some fault)] := by
  generalize same : (started, Except.error error) = ended at starting
  induction starting generalizing started with
  | done => cases same
  | @failed request _ cancelled fault =>
      cases same
      exact ⟨[], request, cancelled, fault, rfl, rfl⟩
  | next later ih =>
      obtain ⟨rfl, rfl⟩ := Prod.mk.inj same
      obtain ⟨earlier, request, cancelled, fault, rfl, rfl⟩ := ih rfl
      exact ⟨_, request, cancelled, fault, rfl, (List.append_assoc _ _ _).symm⟩

/-- When a container is started, all in front of it in line have started. -/
theorem exists_of_split (starting : Starting requests (started, result) marks)
    {earlier later : List Mark} {request : Engine.StartRequest} {cancelled : Bool}
    (split : marks = earlier ++ .began (.start request) cancelled :: later) :
    ∃ before after, requests = before ++ request :: after ∧ requested earlier = before ∧
      startedNames earlier = before.map (·.name) := by
  generalize (started, result) = ended at starting
  induction starting generalizing earlier with
  | done => simp at split
  | failed =>
      cases earlier with
      | nil =>
          cases split
          exact ⟨[], _, rfl, rfl, rfl⟩
      | cons first rest =>
          obtain ⟨-, rest⟩ := List.cons.inj split
          simp [List.singleton_eq_append_iff] at rest
  | @next first _ _ _ _ marks next ih =>
      rcases earlier with _ | ⟨begun, _ | ⟨answer, rest⟩⟩
      · cases split
        exact ⟨[], _, rfl, rfl, rfl⟩
      · simp at split
      · simp only [List.cons_append, List.nil_append, List.cons.injEq] at split
        obtain ⟨rfl, rfl, split⟩ := split
        obtain ⟨before, after, rfl, asked, names⟩ := ih split
        exact ⟨first :: before, after, rfl, congrArg (first :: ·) asked,
          congrArg (first.name :: ·) names⟩

end Starting

/-- The calls that prepare the images of the containers of a graph, one for each. -/
def preparations (setup : Setup σ) (graph : ContainerGraph) : List Call :=
  (setup.containers graph.startOrder).map fun container =>
    (Method.ofContainer setup.project.name container).call

/-- What a task leaves in the trace, given what it ends with. -/
structure TaskTrace (setup : Setup σ) (task : Project.Task) (run : Project.TaskRun)
    (graph : ContainerGraph) (result : Except Error Int) (marks : List Mark) : Prop where
  /-- No image is prepared by more than one call. -/
  attempted : ((made marks).filter (·.Prepares)).Subperm (setup.preparations graph)
  /-- When a container is started the image of each has been prepared, by one call of its
  own, which succeeded. -/
  prepared : ∀ earlier request cancelled later,
    marks = earlier ++ .began (.start request) cancelled :: later →
      ((made marks).filter (·.Prepares)).Perm (setup.preparations graph) ∧
        ((succeeded earlier).filter (·.Prepares)).Perm (setup.preparations graph)
  /-- Where none is started, an image could not be prepared, or more permits were asked for than
  there may be. -/
  unprepared : requested marks = [] → ∃ error, result = .error error ∧
    ((∃ call fault, call.Prepares ∧ .ended call (some fault) ∈ marks) ∨
      (∃ reason, error = .output reason) ∨
      ¬ setup.Permitted ∧ error = .brokenDown .permits)
  /-- Containers are started in order. -/
  names : (requested marks).map (·.name) <+: graph.startOrder.map (setup.containerName task.name)
  asks : ∀ request ∈ requested marks, ∃ container ∈ setup.containers graph.startOrder,
    setup.Asks task run graph.root container request
  /-- No further one is started after one that fails to, and only then. -/
  stops : requested marks ≠ [] → (requested marks).length < graph.startOrder.length →
    ∃ earlier request cancelled fault later, marks =
        earlier ++ .began (.start request) cancelled ::
          .ended (.start request) (some fault) :: later ∧
      requested later = []
  /-- All that are started before one have started, those that it depends on among them. -/
  ordered : ∀ earlier request cancelled later,
    marks = earlier ++ .began (.start request) cancelled :: later →
      startedNames earlier = (requested earlier).map (·.name) ∧
        ∀ name ∈ graph.startOrder, request.name = setup.containerName task.name name →
          ∀ dependency ∈ graph.dependenciesOf name,
            setup.containerName task.name dependency ∈ startedNames earlier
  /-- The logs of the main container are asked for and then its exit, each once at most. -/
  attends : (made marks).filter (·.Attends) <+:
    [.logs (setup.containerName task.name graph.root),
      .wait (setup.containerName task.name graph.root)]
  /-- By then all containers have started. -/
  attends_last : ∀ earlier call cancelled later,
    marks = earlier ++ .began call cancelled :: later → call.Attends →
      startedNames earlier = graph.startOrder.map (setup.containerName task.name)

/-- The parts of what a task leaves in the trace when its images are prepared. -/
structure Parts (setup : Setup σ) (task : Project.Task) (run : Project.TaskRun)
    (graph : ContainerGraph) (requests : List Engine.StartRequest)
    (prepared starting attending cleaned : List Mark) : Prop where
  asks : List.Forall₂ (setup.Asks task run graph.root) (setup.containers graph.startOrder) requests
  names : requests.map (·.name) = graph.startOrder.map (setup.containerName task.name)
  prepares : ∀ mark ∈ prepared, mark.call.Prepares
  made : (made prepared).Perm (setup.preparations graph)
  succeeded : (succeeded prepared).Perm (setup.preparations graph)
  starts : ∃ started ended, Starting requests (started, ended) starting ∧
    (attending ≠ [] → ended = .ok ())
  attends : ∀ mark ∈ attending, mark.call.Attends
  attended : Run.made attending <+: [.logs (setup.containerName task.name graph.root),
    .wait (setup.containerName task.name graph.root)]
  discards : ∀ mark ∈ cleaned, mark.call.Discards

namespace Parts

variable {setup : Setup σ} {task : Project.Task} {run : Project.TaskRun} {graph : ContainerGraph}
  {requests : List Engine.StartRequest} {prepared starting attending cleaned : List Mark}

theorem call_starts (parts : Parts setup task run graph requests prepared starting attending cleaned) :
    ∀ mark ∈ starting, mark.call.Starts := by
  obtain ⟨started, ended, starts, -⟩ := parts.starts
  exact starts.call_starts

theorem others (parts : Parts setup task run graph requests prepared starting attending cleaned) :
    ∀ mark ∈ attending ++ cleaned, ¬ mark.call.Prepares ∧ ¬ mark.call.Starts := by
  refine List.forall_mem_append.mpr ⟨fun mark member => (parts.attends mark member).only, ?_⟩
  intro mark member
  obtain ⟨prepares, starts, -⟩ := (parts.discards mark member).only
  exact ⟨prepares, starts⟩

theorem requested_eq
    (parts : Parts setup task run graph requests prepared starting attending cleaned) :
    requested (prepared ++ (starting ++ (attending ++ cleaned))) = requested starting := by
  have before : requested prepared = [] :=
    requested_eq_nil fun mark member => (parts.prepares mark member).not_starts
  have after : requested (attending ++ cleaned) = [] :=
    requested_eq_nil fun mark member => (parts.others mark member).2
  rw [requested_append, requested_append, before, after, List.append_nil, List.nil_append]

/-- A call that starts a container stands in the part that starts containers. -/
theorem exists_of_start
    (parts : Parts setup task run graph requests prepared starting attending cleaned)
    {earlier later : List Mark} {request : Engine.StartRequest} {cancelled : Bool}
    (split : prepared ++ (starting ++ (attending ++ cleaned)) =
      earlier ++ .began (.start request) cancelled :: later) :
    ∃ front back, earlier = prepared ++ front ∧
      starting = front ++ .began (.start request) cancelled :: back := by
  obtain ⟨front, rfl, rest⟩ := exists_right_of_append_eq split fun member =>
    (parts.prepares _ member).not_starts trivial
  obtain ⟨back, split, -⟩ := exists_left_of_append_eq rest fun member =>
    (parts.others _ member).2 trivial
  exact ⟨front, back, rfl, split⟩

theorem filter_made
    (parts : Parts setup task run graph requests prepared starting attending cleaned) :
    (Run.made (prepared ++ (starting ++ (attending ++ cleaned)))).filter (·.Prepares) =
      Run.made prepared := by
  have others : ∀ mark ∈ starting ++ (attending ++ cleaned), ¬ mark.call.Prepares :=
    List.forall_mem_append.mpr ⟨fun mark member => (parts.call_starts mark member).only.1,
      fun mark member => (parts.others mark member).1⟩
  rw [made_append, List.filter_append,
    filter_eq_self_of_marks (fun _ => exists_of_mem_made) parts.prepares,
    filter_eq_nil_of_marks (fun _ => exists_of_mem_made) others, List.append_nil]

theorem prepared_first
    (parts : Parts setup task run graph requests prepared starting attending cleaned)
    {earlier later : List Mark} {request : Engine.StartRequest} {cancelled : Bool}
    (split : prepared ++ (starting ++ (attending ++ cleaned)) =
      earlier ++ .began (.start request) cancelled :: later) :
    ((Run.made (prepared ++ (starting ++ (attending ++ cleaned)))).filter (·.Prepares)).Perm
        (setup.preparations graph) ∧
      ((Run.succeeded earlier).filter (·.Prepares)).Perm (setup.preparations graph) := by
  obtain ⟨front, back, rfl, within⟩ := parts.exists_of_start split
  have frontOthers : ∀ mark ∈ front, ¬ mark.call.Prepares := fun mark member =>
    (parts.call_starts mark (within ▸ List.mem_append_left _ member)).only.1
  constructor
  · rw [parts.filter_made]
    exact parts.made
  · rw [succeeded_append, List.filter_append,
      filter_eq_self_of_marks (fun _ => exists_of_mem_succeeded) parts.prepares,
      filter_eq_nil_of_marks (fun _ => exists_of_mem_succeeded) frontOthers, List.append_nil]
    exact parts.succeeded

/-- All that are started before a container have started, those that it depends on among
them. -/
theorem ordered
    (parts : Parts setup task run graph requests prepared starting attending cleaned)
    (created : ContainerGraph.ofTask setup.project task = .ok graph)
    {earlier later : List Mark} {request : Engine.StartRequest} {cancelled : Bool}
    (split : prepared ++ (starting ++ (attending ++ cleaned)) =
      earlier ++ .began (.start request) cancelled :: later) :
    startedNames earlier = (requested earlier).map (·.name) ∧
      ∀ name ∈ graph.startOrder, request.name = setup.containerName task.name name →
        ∀ dependency ∈ graph.dependenciesOf name,
          setup.containerName task.name dependency ∈ startedNames earlier := by
  obtain ⟨front, back, rfl, within⟩ := parts.exists_of_start split
  obtain ⟨started, ended, starts, -⟩ := parts.starts
  obtain ⟨before, after, line, asked, names⟩ := starts.exists_of_split within
  have unstarted : startedNames prepared = [] :=
    startedNames_eq_nil fun mark member => (parts.prepares mark member).not_starts
  have unasked : requested prepared = [] :=
    requested_eq_nil fun mark member => (parts.prepares mark member).not_starts
  rw [startedNames_append, unstarted, requested_append, unasked, List.nil_append,
    List.nil_append, names, asked]
  refine ⟨rfl, fun name _ same dependency depends => ?_⟩
  -- The containers in front of this one in line are those in front of it in the start order.
  have order := parts.names
  rw [line, List.map_append, List.map_cons] at order
  obtain ⟨first, rest, order, firstNames, restNames⟩ := List.map_eq_append_iff.mp order.symm
  obtain ⟨other, last, rfl, otherName, -⟩ := List.map_eq_cons_iff.mp restNames
  obtain rfl : other = name := setup.containerName_injective task.name (otherName.trans same)
  rw [← firstNames]
  exact List.mem_map_of_mem ((ContainerGraph.startOrder_follows created).1 _ _ _ order _ depends)

theorem requested_isPrefix
    (parts : Parts setup task run graph requests prepared starting attending cleaned) :
    requested (prepared ++ (starting ++ (attending ++ cleaned))) <+: requests := by
  obtain ⟨started, ended, starts, -⟩ := parts.starts
  rw [parts.requested_eq]
  exact starts.requested_isPrefix

theorem asks_of_requested
    (parts : Parts setup task run graph requests prepared starting attending cleaned)
    {request : Engine.StartRequest}
    (member : request ∈ requested (prepared ++ (starting ++ (attending ++ cleaned)))) :
    ∃ container ∈ setup.containers graph.startOrder,
      setup.Asks task run graph.root container request := by
  obtain ⟨place, inside, rfl⟩ := List.mem_iff_getElem.mp (parts.requested_isPrefix.mem member)
  obtain ⟨lengths, asks⟩ := List.forall₂_iff_get.mp parts.asks
  exact ⟨_, List.get_mem _ ⟨place, lengths ▸ inside⟩, asks place (lengths ▸ inside) inside⟩

theorem stops (parts : Parts setup task run graph requests prepared starting attending cleaned)
    (fewer : (requested (prepared ++ (starting ++ (attending ++ cleaned)))).length <
      graph.startOrder.length) :
    ∃ earlier request cancelled fault, starting = earlier ++
        [.began (.start request) cancelled, .ended (.start request) (some fault)] ∧
      attending = [] := by
  obtain ⟨started, ended, starts, attended⟩ := parts.starts
  cases ended with
  | ok _ =>
      have lengths := congrArg List.length parts.names
      rw [List.length_map, List.length_map] at lengths
      rw [parts.requested_eq, starts.all.1, lengths] at fewer
      exact (Nat.lt_irrefl _ fewer).elim
  | error error =>
      obtain ⟨earlier, request, cancelled, fault, -, split⟩ := starts.exists_failed
      refine ⟨earlier, request, cancelled, fault, split, ?_⟩
      by_contra some
      cases attended some

theorem attends_last
    (parts : Parts setup task run graph requests prepared starting attending cleaned)
    {earlier later : List Mark} {call : Call} {cancelled : Bool}
    (split : prepared ++ (starting ++ (attending ++ cleaned)) =
      earlier ++ .began call cancelled :: later) (attends : call.Attends) :
    startedNames earlier = graph.startOrder.map (setup.containerName task.name) := by
  obtain ⟨started, ended, starts, attended⟩ := parts.starts
  obtain ⟨front, rfl, working⟩ := exists_right_of_append_eq split fun member =>
    (parts.prepares _ member).only.2 attends
  obtain ⟨more, rfl, ending⟩ := exists_right_of_append_eq working fun member =>
    (parts.call_starts _ member).only.2 attends
  obtain ⟨back, within, -⟩ := exists_left_of_append_eq ending fun member =>
    (parts.discards _ member).only.2.2 attends
  obtain rfl : ended = .ok () := attended (by rw [within]; simp)
  have unstarted : startedNames prepared = [] :=
    startedNames_eq_nil fun mark member => (parts.prepares mark member).not_starts
  have nothing : startedNames more = [] := startedNames_eq_nil fun mark member =>
    (parts.attends mark (within ▸ List.mem_append_left _ member)).only.2
  rw [startedNames_append, startedNames_append, unstarted, nothing, starts.startedNames_eq,
    starts.all.2, List.append_nil, List.nil_append, parts.names]

/-- What a task leaves in the trace when its images are prepared. -/
theorem taskTrace
    (parts : Parts setup task run graph requests prepared starting attending cleaned)
    (created : ContainerGraph.ofTask setup.project task = .ok graph) (result : Except Error Int) :
    TaskTrace setup task run graph result
      (prepared ++ (starting ++ (attending ++ cleaned))) where
  attempted := by
    rw [parts.filter_made]
    exact parts.made.subperm
  prepared _ _ _ _ split := parts.prepared_first split
  unprepared nothing := by
    have some : 0 < graph.startOrder.length := by
      rw [ContainerGraph.startOrder_eq created]
      simp
    obtain ⟨earlier, request, cancelled, fault, rfl, -⟩ :=
      parts.stops (by rw [nothing]; exact some)
    rw [parts.requested_eq, requested_append] at nothing
    exact absurd (List.append_eq_nil_iff.mp nothing).2 (by simp [requested])
  names := by
    rw [← parts.names]
    exact parts.requested_isPrefix.map _
  asks _ member := parts.asks_of_requested member
  stops _ fewer := by
    obtain ⟨earlier, request, cancelled, fault, rfl, rfl⟩ := parts.stops fewer
    refine ⟨prepared ++ earlier, request, cancelled, fault, cleaned, by simp, ?_⟩
    exact requested_eq_nil fun mark member => (parts.discards mark member).not_starts
  ordered _ _ _ _ split := parts.ordered created split
  attends := by
    rw [made_append, made_append, made_append, List.filter_append, List.filter_append,
      List.filter_append, filter_eq_self_of_marks (fun _ => exists_of_mem_made) parts.attends,
      filter_eq_nil_of_marks (fun _ => exists_of_mem_made) fun mark member =>
        (parts.prepares mark member).only.2,
      filter_eq_nil_of_marks (fun _ => exists_of_mem_made) fun mark member =>
        (parts.call_starts mark member).only.2,
      filter_eq_nil_of_marks (fun _ => exists_of_mem_made) fun mark member =>
        (parts.discards mark member).only.2.2, List.append_nil, List.nil_append, List.nil_append]
    exact parts.attended
  attends_last _ _ _ _ split attends := parts.attends_last split attends

end Parts

/-- What the phases of a task leave in the trace, in preparing images too. -/
def taskPhases (setup : Setup σ) : Phases Mark :=
  { setup.tracePhases with
    prepare := setup.Prepares }

theorem taskPhases_describe (setup : Setup σ) : setup.taskPhases.Describe trace setup :=
  { setup.tracePhases_describe with prepare := setup.prepare_trace }

section

variable {setup : Setup σ} {task : Project.Task} {run : Project.TaskRun} {graph : ContainerGraph}
  {result : Except Error Int} {marks : List Mark}

theorem exists_parts (keyed : setup.project.Keyed) (runs : task.run = some run)
    (created : ContainerGraph.ofTask setup.project task = .ok graph)
    {limit : Nat} {inLine : Bool} {named : List (String × String)}
    {prepared working cleaned : List Mark} {started : List String}
    (turns : Turns limit ((setup.containers graph.startOrder).map (.ofContainer setup.project.name))
      [] { inLine } (.ok named) prepared)
    (work : setup.taskPhases.Work (setup.startRequests task run graph (.ofList named))
      (setup.containerName task.name graph.root) started result working)
    (discards : ∀ mark ∈ cleaned, mark.call.Discards) :
    ∃ requests starting attending, working = starting ++ attending ∧
      Parts setup task run graph requests prepared starting attending cleaned := by
  have known : ∀ name ∈ graph.startOrder, (setup.project.container? name).isSome := fun _ =>
    setup.isSome_of_mem_startOrder keyed runs created
  have containerNames := setup.names_containers keyed known
  have distinct : ((setup.containers graph.startOrder).map (·.name)).Nodup := by
    rw [containerNames]
    exact (ContainerGraph.startOrder_leaves created).1
  have asks : List.Forall₂ (setup.Asks task run graph.root) (setup.containers graph.startOrder)
      (setup.startRequests task run graph (.ofList named)) :=
    setup.startRequests_asks keyed created fun container => turns.getElem?_ofList distinct
  have names : (setup.startRequests task run graph (.ofList named)).map (·.name) =
      graph.startOrder.map (setup.containerName task.name) := by
    rw [← containerNames, List.map_map]
    refine (List.forall₂_eq_eq_eq ▸ List.forall₂_map_right_iff.mpr
      (List.forall₂_map_left_iff.mpr (asks.imp fun container request asks => ?_)) :
      _ = _).symm
    exact asks.name.symm
  obtain ⟨begun, order, all, -, success, -⟩ := turns.all
  have made : (Run.made prepared).Perm (setup.preparations graph) := by
    rw [List.map_map] at begun
    exact .of_eq begun
  have succeeded : (Run.succeeded prepared).Perm (setup.preparations graph) := by
    have mapped := all.map Need.call
    rw [List.nil_append, List.map_map] at mapped
    rw [success]
    exact mapped
  cases work with
  | unstarted start =>
      refine ⟨_, working, [], (List.append_nil _).symm, asks, names, turns.prepares, made,
        succeeded, ⟨started, _, start, fun some => (some rfl).elim⟩, by simp, by simp [Run.made],
        discards⟩
  | @attended _ starting attending start attend =>
      refine ⟨_, starting, attending, rfl, asks, names, turns.prepares, made, succeeded,
        ⟨started, _, start, fun _ => rfl⟩, fun mark member => ?_, ?_, discards⟩
      · rcases Attending.call_eq attend mark member with same | same
        · rw [same]
          trivial
        · rw [same]
          trivial
      · cases attend with
        | unfollowed => exact (List.prefix_cons_inj _).mpr List.nil_prefix
        | waited => exact List.prefix_rfl

theorem Prepares.call_prepares {containers : List Project.Container}
    {images : Except Error TextMap} (prepares : setup.Prepares containers images marks) :
    ∀ mark ∈ marks, mark.call.Prepares := by
  cases prepares with
  | beyond _ => exact List.forall_mem_nil _
  | pooled _ turns => exact turns.prepares

theorem Prepares.made_isPrefix {containers : List Project.Container}
    {images : Except Error TextMap} (prepares : setup.Prepares containers images marks) :
    Run.made marks <+:
      containers.map fun container => (Method.ofContainer setup.project.name container).call := by
  cases prepares with
  | beyond _ => exact List.nil_prefix
  | pooled _ turns =>
      have line := turns.made_isPrefix
      rwa [List.map_map] at line

/-- Images that are not all prepared: one of them could not be, or none was begun. -/
theorem Prepares.unprepared {containers : List Project.Container} {error : Error}
    (prepares : setup.Prepares containers (.error error) marks) :
    (∃ call fault, call.Prepares ∧ .ended call (some fault) ∈ marks) ∨
      (∃ reason, error = .output reason) ∨
      ¬ setup.Permitted ∧ error = .brokenDown .permits := by
  generalize same : Except.error error = images at prepares
  cases prepares with
  | beyond beyond =>
      cases same
      exact Or.inr (Or.inr ⟨beyond, rfl⟩)
  | @pooled named _ _ turns =>
      cases named with
      | ok _ => cases same
      | error _ =>
          cases same
          obtain ⟨need, -, fault, ended, fails⟩ := turns.exists_failed nofun
          cases fails with
          | brokenDown | cancelled | refused =>
              exact Or.inl ⟨need.call, _, Method.call_prepares _, ended⟩
          | unwritten => exact Or.inr (Or.inl ⟨_, rfl⟩)

theorem TaskTrace.of_error {error : Error}
    (unprepared : setup.Prepares (setup.containers graph.startOrder) (.error error) marks) :
    TaskTrace setup task run graph (.error error) marks := by
  have prepares := unprepared.call_prepares
  have attempted : ((Run.made marks).filter (·.Prepares)).Subperm (setup.preparations graph) := by
    rw [filter_eq_self_of_marks (fun _ => exists_of_mem_made) prepares]
    exact unprepared.made_isPrefix.sublist.subperm
  have nothing : requested marks = [] :=
    requested_eq_nil fun mark member => (prepares mark member).not_starts
  have unattended : (Run.made marks).filter (·.Attends) = [] :=
    filter_eq_nil_of_marks (fun _ => exists_of_mem_made) fun mark member =>
      (prepares mark member).only.2
  have unstarted : ∀ earlier request cancelled later,
      marks ≠ earlier ++ .began (.start request) cancelled :: later := by
    rintro earlier request cancelled later rfl
    exact (prepares _ (List.mem_append_right _ List.mem_cons_self)).not_starts trivial
  refine ⟨attempted, fun _ _ _ _ split => (unstarted _ _ _ _ split).elim,
    fun _ => ⟨error, rfl, unprepared.unprepared⟩, by simp [nothing], by simp [nothing],
    fun some => (some nothing).elim, fun _ _ _ _ split => (unstarted _ _ _ _ split).elim,
    by simp [unattended], ?_⟩
  rintro earlier call cancelled later rfl attends
  exact ((prepares _ (List.mem_append_right _ List.mem_cons_self)).only.2 attends).elim

/-- The course of a task whose containers can be worked out leaves the trace of one. -/
theorem Phases.Course.taskTrace (keyed : setup.project.Keyed) (runs : task.run = some run)
    (created : ContainerGraph.ofTask setup.project task = .ok graph)
    (course : setup.taskPhases.Course setup task run result marks) :
    TaskTrace setup task run graph result marks := by
  cases course with
  | misconfigured failed =>
      rw [created] at failed
      cases failed
  | unprepared other prepare =>
      obtain rfl := Except.ok.inj (created.symm.trans other)
      exact .of_error prepare
  | @worked other images started _ prepared working cleaned otherMade prepare work clean =>
      obtain rfl := Except.ok.inj (created.symm.trans otherMade)
      obtain ⟨named, rfl, turns⟩ := prepare.of_ok
      have discards : ∀ mark ∈ cleaned, mark.call.Discards := by
        split at clean
        · exact clean.others
        · simp [clean]
      obtain ⟨requests, starting, attending, rfl, parts⟩ :=
        exists_parts keyed runs created turns work discards
      rw [List.append_assoc]
      exact parts.taskTrace created result

end

end Setup

end ContainerTasks.Run
