import ContainerTasks.Proofs.Run.Phases

/-! # What the phases of a task leave in the trace

The trace of a run only ever grows, so what a task adds to it is a view of the run
(`trace`). Preparing images makes no other calls; containers start one after the other
until one does not (`Starting`); the main container is attended to by one call for its
logs and one that waits for it; and each container that is discarded is stopped and then
removed (`tracePhases_describe`).
-/

namespace ContainerTasks.Run

variable {σ α : Type}

/-- The call that a mark is about. -/
def Mark.call : Mark → Call
  | .began call _ => call
  | .ended call _ => call

/-- The calls that were made, in order. -/
def made (marks : List Mark) : List Call :=
  marks.filterMap fun mark =>
    match mark with
    | .began call _ => some call
    | .ended _ _ => none

/-- The calls that were answered, in order. -/
def answered (marks : List Mark) : List Call :=
  marks.filterMap fun mark =>
    match mark with
    | .ended call _ => some call
    | .began _ _ => none

/-- The calls that were answered without a fault, in order. -/
def succeeded (marks : List Mark) : List Call :=
  marks.filterMap fun mark =>
    match mark with
    | .ended call none => some call
    | _ => none

/-- What containers were asked to start with, in order. -/
def requested (marks : List Mark) : List Engine.StartRequest :=
  marks.filterMap fun mark =>
    match mark with
    | .began (.start request) _ => some request
    | _ => none

/-- The names of the containers whose start was answered without a fault, in order. -/
def startedNames (marks : List Mark) : List String :=
  marks.filterMap fun mark =>
    match mark with
    | .ended (.start request) none => some request.name
    | _ => none

/-- A call that prepares an image. -/
def Call.Prepares : Call → Prop
  | .pull _ | .build _ => True
  | _ => False

/-- A call that starts a container. -/
def Call.Starts : Call → Prop
  | .start _ => True
  | _ => False

/-- A call that stops or removes a container. -/
def Call.Discards : Call → Prop
  | .stop _ _ | .remove _ => True
  | _ => False

/-- The calls that stop and remove containers one after the other. -/
def discards (timeout : Int) (names : List String) : List Call :=
  names.flatMap fun name => [.stop name timeout, .remove name]

@[simp]
theorem made_append (marks more : List Mark) : made (marks ++ more) = made marks ++ made more :=
  List.filterMap_append

@[simp]
theorem answered_append (marks more : List Mark) :
    answered (marks ++ more) = answered marks ++ answered more :=
  List.filterMap_append

@[simp]
theorem succeeded_append (marks more : List Mark) :
    succeeded (marks ++ more) = succeeded marks ++ succeeded more :=
  List.filterMap_append

@[simp]
theorem requested_append (marks more : List Mark) :
    requested (marks ++ more) = requested marks ++ requested more :=
  List.filterMap_append

@[simp]
theorem startedNames_append (marks more : List Mark) :
    startedNames (marks ++ more) = startedNames marks ++ startedNames more :=
  List.filterMap_append

theorem exists_of_mem_made {marks : List Mark} {call : Call} (member : call ∈ made marks) :
    ∃ mark ∈ marks, mark.call = call := by
  obtain ⟨mark, present, same⟩ := List.mem_filterMap.mp member
  cases mark with
  | began call cancelled => exact ⟨_, present, Option.some.inj same⟩
  | ended call fault => cases same

/-- Without a call that starts a container none is started. -/
theorem startedNames_eq_nil {marks : List Mark} (others : ∀ mark ∈ marks, ¬ mark.call.Starts) :
    startedNames marks = [] := by
  refine List.filterMap_eq_nil_iff.mpr fun mark member => ?_
  have other := others mark member
  cases mark with
  | began call cancelled => rfl
  | ended call fault =>
      cases call with
      | start request => exact (other trivial).elim
      | pull | build | logs | wait | stop | remove => rfl

/-- The view of a run that its trace gives. -/
def trace : CallHistory σ Mark where
  Adds before marks after := after.trace = before.trace ++ marks
  refl _ := (List.append_nil _).symm
  append := by
    intro first middle last marks more adds addsMore
    rw [addsMore, adds, List.append_assoc]
  marks entry := [entry]
  marked _ _ := rfl
  idle := by
    intro before after _ same
    rw [same, List.append_nil]

theorem ask_trace (question : σ → Engine.Reply σ α) :
    trace.Records (ask question) fun _ marks => marks = [] :=
  fun _ => ⟨_, (List.append_nil _).symm, rfl⟩

theorem beginCall_trace (call : Call) (question : σ → Engine.Reply σ α) :
    trace.Records (beginCall call question) fun _ marks =>
      ∃ cancelled, marks = [.began call cancelled] := by
  refine CallHistory.beginCall_records (ask_trace question) ?_
  rintro _ _ cancelled rfl
  exact ⟨cancelled, rfl⟩

theorem endCall_trace (call : Call) (question : σ → Engine.Reply σ (Except Engine.Fault α)) :
    trace.Records (endCall call question) fun answer marks =>
      marks = [.ended call (faultOf answer)] := by
  refine CallHistory.endCall_records (ask_trace question) ?_
  rintro _ _ rfl
  rfl

theorem call_trace (call : Call) (question : σ → Engine.Reply σ (Except Engine.Fault α)) :
    trace.Records (Run.call call question) fun answer marks =>
      ∃ cancelled, marks = [.began call cancelled, .ended call (faultOf answer)] := by
  refine CallHistory.call_records (ask_trace question) ?_
  rintro _ _ cancelled rfl
  exact ⟨cancelled, rfl⟩

/-- The call that ends a preparation is one that prepares an image. -/
theorem Method.endCall_prepares (method : Method)
    (finish : σ → Engine.Reply σ (Except Engine.Fault String)) :
    trace.Confines (fun mark => mark.call.Prepares) (endCall method.call finish) := by
  refine (endCall_trace _ _).mono fun _ marks same => ?_
  cases method with
  | pull | build => simp [same, Mark.call, Method.call, Call.Prepares]

/-- Preparing images makes calls that prepare images. -/
theorem preparesWith_trace (engine : Engine σ) :
    PreparesWith trace engine fun mark => mark.call.Prepares where
  pull image := (beginCall_trace _ _).mono fun work marks ⟨cancelled, same⟩ =>
    ⟨by simp [same, Mark.call, Call.Prepares], (Method.pull image).endCall_prepares _⟩
  build request cancelled := (beginCall_trace _ _).mono fun work marks ⟨cancelled, same⟩ =>
    ⟨by simp [same, Mark.call, Call.Prepares], (Method.build request).endCall_prepares _⟩

namespace Setup

/-- Containers start one after the other until one does not; the names are those of the
ones that did. -/
inductive Starting : List Engine.StartRequest → List String × Except Error Unit → List Mark → Prop
  | done : Starting [] ([], .ok ()) []
  | failed {request : Engine.StartRequest} {rest : List Engine.StartRequest} {cancelled : Bool}
      {fault : Engine.Fault} :
      Starting (request :: rest) ([], .error (.container request.name fault))
        [.began (.start request) cancelled, .ended (.start request) (some fault)]
  | next {request : Engine.StartRequest} {rest : List Engine.StartRequest} {cancelled : Bool}
      {started : List String} {result : Except Error Unit} {marks : List Mark}
      (later : Starting rest (started, result) marks) :
      Starting (request :: rest) (request.name :: started, result)
        ([.began (.start request) cancelled, .ended (.start request) none] ++ marks)

namespace Starting

variable {requests : List Engine.StartRequest} {started : List String} {result : Except Error Unit}
  {marks : List Mark}

theorem startedNames_eq (starting : Starting requests (started, result) marks) :
    startedNames marks = started := by
  generalize same : (started, result) = ended at starting
  induction starting generalizing started with
  | done => exact (Prod.mk.inj same).1 ▸ rfl
  | failed => exact (Prod.mk.inj same).1 ▸ rfl
  | next later ih =>
      obtain ⟨rfl, rfl⟩ := Prod.mk.inj same
      rw [startedNames_append, ih rfl]
      rfl

theorem isPrefix (starting : Starting requests (started, result) marks) :
    started <+: requests.map (·.name) := by
  generalize same : (started, result) = ended at starting
  induction starting generalizing started with
  | done => exact (Prod.mk.inj same).1 ▸ List.nil_prefix
  | failed => exact (Prod.mk.inj same).1 ▸ List.nil_prefix
  | next later ih =>
      obtain ⟨rfl, rfl⟩ := Prod.mk.inj same
      exact List.prefix_cons_inj _ |>.mpr (ih rfl)

theorem call_starts (starting : Starting requests (started, result) marks) :
    ∀ mark ∈ marks, mark.call.Starts := by
  generalize (started, result) = ended at starting
  induction starting with
  | done => simp
  | failed => simp [Mark.call, Call.Starts]
  | next later ih =>
      intro mark member
      rcases List.mem_append.mp member with first | later
      · simp only [List.mem_cons, List.not_mem_nil, or_false] at first
        rcases first with rfl | rfl <;> trivial
      · exact ih mark later

end Starting

theorem startAll_trace (setup : Setup σ) (requests : List Engine.StartRequest) :
    trace.Records (setup.startAll requests) (Starting requests) := by
  induction requests with
  | nil => exact .pure .done
  | cons request rest ih =>
      refine (call_trace _ _).bind ?_
      rintro answer _ ⟨cancelled, rfl⟩
      cases answer with
      | error fault => exact .pure .failed
      | ok id =>
          refine (note_silent _ _ _).bind_records fun _ => ?_
          refine ih.bind fun ended marks starting => .pure ?_
          rw [List.append_nil]
          exact .next starting

/-- Attending to a container asks for its logs and, unless following them fails, waits
for it. -/
inductive Attending (name : String) : Except Error Int → List Mark → Prop
  | unfollowed {cancelled : Bool} {error : Error} :
      Attending name (.error error)
        [.began (.logs name) cancelled, .ended (.logs name) none]
  | waited {cancelled later : Bool} {answer : Except Engine.Fault Int} :
      Attending name (answer.mapError (.container name))
        [.began (.logs name) cancelled, .ended (.logs name) none, .began (.wait name) later,
          .ended (.wait name) (faultOf answer)]

theorem Attending.call_eq {name : String} {result : Except Error Int} {marks : List Mark}
    (attending : Attending name result marks) :
    ∀ mark ∈ marks, mark.call = .logs name ∨ mark.call = .wait name := by
  cases attending <;> simp [Mark.call]

theorem attend_trace (setup : Setup σ) (task name : String) :
    trace.Records (setup.attend task name).run (Attending name) := by
  refine (note_silent _ _ _).lift_records fun _ => ?_
  refine (beginCall_trace _ _).lift ?_
  rintro logs _ ⟨cancelled, rfl⟩
  refine (CallHistory.mark_records _).lift ?_
  rintro _ _ rfl
  refine ((follow_silent setup name logs).records fun _ => rfl :
    trace.Records _ fun _ marks => marks = []).attempt ?_ ?_
  · rintro _ _ rfl
    refine (call_trace _ _).lift ?_
    rintro answer _ ⟨later, rfl⟩
    cases answer with
    | error fault => exact .throw (@Attending.waited name _ _ (.error fault))
    | ok code =>
        refine (note_silent _ _ _).lift_records fun _ => ?_
        exact .pure (@Attending.waited name _ _ (.ok code))
  · rintro error _ rfl
    exact .unfollowed

/-- Discarding containers stops and removes each of them, whatever that is answered. -/
structure Discarding (timeout : Int) (names : List String) (marks : List Mark) : Prop where
  made : made marks = discards timeout names
  others : ∀ mark ∈ marks, mark.call.Discards

theorem discard_trace (setup : Setup σ) (name : String) :
    trace.Records (setup.discard name) fun _ marks =>
      Discarding setup.options.stopTimeout [name] marks := by
  have calls : ∀ (call : Call) (question : σ → Engine.Reply σ (Except Engine.Fault Unit)),
      trace.Records (Run.call call question) fun _ marks =>
        ∃ cancelled fault, marks = [.began call cancelled, .ended call fault] :=
    fun call question => (call_trace call question).mono fun answer _ ⟨cancelled, same⟩ =>
      ⟨cancelled, faultOf answer, same⟩
  refine setup.discard_records name (calls _ _) (calls _ _) ?_
  rintro _ _ ⟨_, _, rfl⟩ ⟨_, _, rfl⟩
  exact ⟨rfl, by simp [Mark.call, Call.Discards]⟩

theorem discardAll_trace (setup : Setup σ) (names : List String) :
    trace.Records (setup.discardAll names) fun _ marks =>
      Discarding setup.options.stopTimeout names marks := by
  induction names with
  | nil => exact .pure ⟨rfl, by simp⟩
  | cons name rest ih =>
      refine (setup.discard_trace name).bind fun _ marks first => ih.mono fun _ more later => ?_
      refine ⟨?_, List.forall_mem_append.mpr ⟨first.others, later.others⟩⟩
      rw [made_append, first.made, later.made]
      rfl

/-- What the phases of a task leave in the trace. -/
def tracePhases (setup : Setup σ) : Phases Mark where
  prepare _ _ marks := ∀ mark ∈ marks, mark.call.Prepares
  start := Starting
  attend := Attending
  discard := Discarding setup.options.stopTimeout

theorem tracePhases_describe (setup : Setup σ) : setup.tracePhases.Describe trace setup where
  prepare := setup.prepare_confines (preparesWith_trace setup.engine)
  start := setup.startAll_trace
  attend := setup.attend_trace
  discard := setup.discardAll_trace

end Setup

end ContainerTasks.Run
