import ContainerTasks.Daemon.Engine
import ContainerTasks.Proofs.History

/-! # What is said to a daemon

A session with a daemon can be seen as the requests that were sent and how the daemon
answered them. Each call to the daemon is one or a few requests in a fixed order; the spec
lemma of a call lists them, as far as they matter to whether containers are created.
-/

namespace ContainerTasks.Daemon

variable {δ α : Type} {behaviour : Behaviour δ}

/-- A request and what the daemon answered. -/
abbrev Exchange := Request × Answer

/-- A daemon answers requests one after the other, each from the state that the one before
leaves. -/
inductive Exchanged (behaviour : Behaviour δ) : δ → List Exchange → δ → Prop
  | done (state : δ) : Exchanged behaviour state [] state
  | next {state last : δ} {request : Request} {later : List Exchange}
      (rest : Exchanged behaviour (behaviour request state).2 later last) :
      Exchanged behaviour state ((request, (behaviour request state).1) :: later) last

theorem Exchanged.append {first middle last : δ} {items more : List Exchange}
    (exchanged : Exchanged behaviour first items middle)
    (later : Exchanged behaviour middle more last) :
    Exchanged behaviour first (items ++ more) last := by
  induction exchanged with
  | done => exact later
  | next rest ih => exact .next (ih later)

theorem Exchanged.answered {first last : δ} {items : List Exchange}
    (exchanged : Exchanged behaviour first items last) {exchange : Exchange}
    (member : exchange ∈ items) : ∃ state, exchange.2 = (behaviour exchange.1 state).1 := by
  induction exchanged with
  | done => simp at member
  | @next state last request later rest ih =>
      rcases List.mem_cons.mp member with rfl | later
      · exact ⟨state, rfl⟩
      · exact ih later

/-- The view of a session as exchanges. -/
def conversation (behaviour : Behaviour δ) : History (Session δ) Exchange where
  Adds before items after := after.sent = before.sent ++ items.map Prod.fst ∧
    Exchanged behaviour before.state items after.state
  refl session := ⟨(List.append_nil _).symm, .done _⟩
  append := by
    rintro first middle last items more ⟨sent, exchanged⟩ ⟨later, exchangedLater⟩
    refine ⟨?_, exchanged.append exchangedLater⟩
    rw [later, sent, List.map_append, List.append_assoc]

/-- What an answer delivers, unless it is of no use. -/
def delivered (answer : Answer) : Except Trouble Delivery :=
  match answer.arrived with
  | .dropped => .error .noConnection
  | .received status body isCut =>
    if StatusCode.isSuccess status then .ok ⟨body, isCut⟩ else .error (refusal status body isCut)

theorem send_records (request : Request) :
    (conversation behaviour).Records (send behaviour request) fun arrived items =>
      ∃ answer, items = [(request, answer)] ∧ arrived = answer.arrived :=
  fun _ => ⟨[(request, _)], ⟨rfl, .next (.done _)⟩, _, rfl, rfl⟩

theorem request_records (question : Request) :
    (conversation behaviour).Records (request behaviour question).run fun result items =>
      ∃ answer, items = [(question, answer)] ∧ result = delivered answer := by
  refine (send_records question).lift ?_
  rintro arrived _ ⟨answer, rfl, same⟩
  cases arrived with
  | dropped => exact .throw ⟨answer, rfl, by rw [delivered, ← same]⟩
  | received status body isCut =>
      dsimp only
      by_cases success : StatusCode.isSuccess status
      · rw [if_pos success]
        exact .pure ⟨answer, rfl, by rw [delivered, ← same]; exact (if_pos success).symm⟩
      · rw [if_neg success]
        exact .throw ⟨answer, rfl, by rw [delivered, ← same]; exact (if_neg success).symm⟩

/-- A trouble becomes a failure, whatever was said. -/
theorem settle_records {errand : Errand δ α} {fault : String → Engine.Fault}
    {holds : Except Failure α → List Exchange → Prop}
    (records : (conversation behaviour).Records errand.run fun result items =>
      holds (result.mapError (blame fault)) items) :
    (conversation behaviour).Records (errand.settle fault) holds := by
  refine records.bind fun result items holding => .pure ?_
  rwa [List.append_nil]

/-- The name that a request gives to the container it creates. -/
def Request.Creates (request : Request) (name : String) : Prop :=
  request.verb = "POST" ∧ request.path = "/containers/create" ∧
    request.parameters.lookup "name" = some name

/-- A request starts the container with a name. -/
def Request.Starts (request : Request) (name : String) : Prop :=
  request.verb = "POST" ∧ request.path = containerPath name ++ "/start"

/-- A request removes the container with a name. -/
def Request.Removes (request : Request) (name : String) : Prop :=
  request.verb = "DELETE" ∧ request.path = containerPath name

/-- The name that the daemon gives to a container it reports as created. -/
def created? (answer : Answer) : Except Trouble String := do
  (← delivered answer).json createdId?

/-- The daemon reports a container as created. -/
def Exchange.Creates (exchange : Exchange) (name : String) : Prop :=
  exchange.1.Creates name ∧ (created? exchange.2).isOk

/-- No exchange creates a container. -/
def Barren (exchange : Exchange) : Prop :=
  ∀ name, ¬ exchange.1.Creates name

theorem barren_of_verb {request : Request} {answer : Answer} (verb : request.verb ≠ "POST") :
    Barren (request, answer) :=
  fun _ creates => verb creates.1

theorem barren_of_path {request : Request} {answer : Answer}
    (path : request.path ≠ "/containers/create") : Barren (request, answer) :=
  fun _ creates => path creates.2.1

theorem containerPath_append_ne {name ending : String}
    (last : ending.toList.getLast? ≠ some 'e') (some : ending ≠ "") :
    containerPath name ++ ending ≠ "/containers/create" := by
  intro same
  have ends := congrArg (fun path => path.toList.getLast?) same
  simp at ends
  exact ends.elim last fun empty => some empty.1

/-- A request that creates no container. -/
theorem request_confines {question : Request} (barren : ∀ answer, Barren (question, answer)) :
    (conversation behaviour).Confines Barren (request behaviour question).run := by
  refine (request_records question).mono ?_
  rintro _ _ ⟨answer, rfl, -⟩
  simpa using barren answer

theorem settle_confines {errand : Errand δ α} {fault : String → Engine.Fault} {good : Exchange → Prop}
    (confines : (conversation behaviour).Confines good errand.run) :
    (conversation behaviour).Confines good (errand.settle fault) :=
  settle_records confines

theorem outcome_confines {good : Exchange → Prop} (result : Except Trouble α) :
    (conversation behaviour).Confines good (outcome result).run :=
  .pure

theorem pull_confines (image : String) :
    (conversation behaviour).Confines Barren (pull behaviour image) := by
  refine settle_confines (.attempt (request_confines fun _ => barren_of_path (by simp)) ?_)
  intro delivery
  refine .attempt (outcome_confines _) fun lines => ?_
  dsimp only
  split
  · exact .throw
  · refine .attempt (request_confines fun _ => barren_of_verb (by simp)) fun inspected => ?_
    exact .attempt (outcome_confines _) fun _ => .pure

/-- What the newer builder makes of what arrives. -/
def Client.stepsReport (client : Client δ) (conditions : Progress.Response.Conditions) :
    Answer → BuildReport
  | .dropped => .failed (.connection Trouble.noConnection.message) (some .noConnection)
  | .received status body isCut =>
    if status = 200 then readSteps conditions client.passthrough ⟨body, isCut⟩
    else .failed (rejection status body isCut)

/-- The newer builder sends one request, unless its address is too long. -/
theorem Client.buildInSteps_eq (client : Client δ) (conditions : Progress.Response.Conditions)
    (build : Engine.BuildRequest) (context : List (String × Files.Entry)) :
    client.buildInSteps conditions build context =
      if maxAddress < (stepBuild build context).address.utf8ByteSize then
        pure (.failed longAddress)
      else send client.behaviour (stepBuild build context) >>= fun arrived =>
        pure (client.stepsReport conditions arrived) := by
  rw [buildInSteps]
  split
  · rfl
  · refine congrArg _ (funext fun arrived => ?_)
    cases arrived with
    | dropped => rfl
    | received status body isCut =>
        dsimp only [stepsReport]
        split <;> rfl

theorem Client.build_confines (client : Client δ) (conditions : Progress.Response.Conditions)
    (build : Engine.BuildRequest) :
    (conversation client.behaviour).Confines Barren (client.build conditions build) := by
  unfold Client.build
  cases buildContext client.store build.directory with
  | error fault => exact .pure
  | ok context =>
      dsimp only
      split
      · rw [client.buildInSteps_eq]
        split
        · exact .pure
        · have sends : (conversation client.behaviour).Confines Barren
              (send client.behaviour (stepBuild build context)) := by
            refine (send_records _).mono ?_
            rintro _ _ ⟨answer, rfl, -⟩
            simpa using barren_of_path (by simp [stepBuild])
          exact sends.bind fun arrived => .pure
      · unfold Client.buildAsText
        split
        · exact .pure
        · refine .bind (request_confines fun _ => barren_of_path (by simp [textBuild])) ?_
          intro delivery
          cases delivery with
          | error trouble => exact .pure
          | ok delivery => exact .pure

theorem logs_confines (name : String) :
    (conversation behaviour).Confines Barren (logs behaviour name) :=
  .bind (request_confines fun _ => barren_of_verb (by simp)) fun _ => .pure

theorem wait_confines (name : String) :
    (conversation behaviour).Confines Barren (wait behaviour name) := by
  refine .bind (request_confines fun _ => barren_of_path ?_) fun _ => ?_
  · exact containerPath_append_ne (by simp) (by simp)
  · refine .bind (settle_confines ?_) fun code => ?_
    · exact .attempt (request_confines fun _ => barren_of_verb (by simp)) fun _ =>
        outcome_confines _
    · cases code with
      | error failure => exact .pure
      | ok code =>
          cases code with
          | some code => exact .pure
          | none => exact .pure

theorem stop_confines (name : String) (timeout : Int) :
    (conversation behaviour).Confines Barren (stop behaviour name timeout) :=
  settle_confines (.attempt (request_confines fun _ =>
    barren_of_path (containerPath_append_ne (by simp) (by simp))) fun _ => .pure)

/-- To remove a container is to send the request that does so. -/
theorem remove_records (name : String) :
    (conversation behaviour).Records (remove behaviour name) fun _ items =>
      ∃ answer, items = [(removal name, answer)] := by
  refine settle_records ((request_records (removal name)).attempt ?_ ?_)
  · rintro delivery _ ⟨answer, rfl, -⟩
    exact .pure ⟨answer, rfl⟩
  · rintro trouble _ ⟨answer, rfl, -⟩
    exact ⟨answer, rfl⟩

/-- The request to start a container. -/
def starting (name : String) : Request where
  verb := "POST"
  path := containerPath name ++ "/start"

/-- How the start of a container goes: it is created, unless the daemon does not report that
it is; once it is created the request to start it is sent, and the start fails exactly if
this request does. -/
inductive Opening (start : Engine.StartRequest) : Except Failure String → List Exchange → Prop
  | uncreated {removed created : Answer} {trouble : Trouble}
      (refused : created? created = .error trouble) :
      Opening start (.error (blame .unknown trouble))
        [(removal start.name, removed), (creation start, created)]
  | unstarted {removed created begun : Answer} {id : String} {trouble : Trouble}
      (made : created? created = .ok id) (refused : delivered begun = .error trouble) :
      Opening start (.error (blame .unknown trouble))
        [(removal start.name, removed), (creation start, created), (starting start.name, begun)]
  | started {removed created begun : Answer} {id : String} {delivery : Delivery}
      (made : created? created = .ok id) (runs : delivered begun = .ok delivery) :
      Opening start (.ok id)
        [(removal start.name, removed), (creation start, created), (starting start.name, begun)]

theorem start_records (start : Engine.StartRequest) :
    (conversation behaviour).Records (Daemon.start behaviour start) (Opening start) := by
  refine (request_records (removal start.name)).bind ?_
  rintro _ _ ⟨removed, rfl, -⟩
  refine settle_records ((request_records (creation start)).attempt ?_ ?_)
  · rintro delivery _ ⟨created, rfl, arrives⟩
    have reads : created? created = delivery.json createdId? := by
      rw [created?, ← arrives]
      rfl
    cases read : delivery.json createdId? with
    | error trouble => exact .throw (.uncreated (reads.trans read))
    | ok id =>
        refine (request_records (starting start.name)).attempt ?_ ?_
        · rintro delivery _ ⟨begun, rfl, runs⟩
          exact .pure (.started (reads.trans read) runs.symm)
        · rintro trouble _ ⟨begun, rfl, refused⟩
          exact .unstarted (reads.trans read) refused.symm
  · rintro trouble _ ⟨created, rfl, refused⟩
    refine .uncreated ?_
    rw [created?, ← refused]
    rfl

end ContainerTasks.Daemon
