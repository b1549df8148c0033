import ContainerTasks.Proofs.Daemon.Conversation
import ContainerTasks.Proofs.Progress.EventProtocol

/-! # What a build tells and how it ends

Both builders tell of a build by events: reports of the running steps and then at most one
event that ends the build. The newer builder takes the result from this event, unless the
answer cannot be read to its end; the older one raises the event when it has the result. So
the event and the result go together (`Verdict`), whatever the daemon answers, whenever the
build is cancelled and whatever becomes of the output.
-/

namespace ContainerTasks.Daemon

open Progress (ActiveStep Effect Event ResponseError)
open Progress.Response (Conditions events events_append read_protocol)

/-- How the event that ends a build goes together with the result. Where the build did not
end by itself, any event or none may have been raised before. -/
inductive Verdict : Option Event → Except Failure String → Prop
  | built (image : String) : Verdict (some (.built image)) (.ok image)
  | failed (message : String) :
      Verdict (some (.failed message)) (.error ⟨.buildFailed message, none⟩)
  | stopped {last : Option Event} {failure : Failure}
      (other : ∀ message, failure.fault ≠ .buildFailed message) : Verdict last (.error failure)

namespace Verdict

variable {last : Option Event} {image message : String} {failure : Failure}

theorem eq_built (verdict : Verdict last (.ok image)) : last = some (.built image) := by
  cases verdict
  rfl

theorem eq_failed (verdict : Verdict last (.error failure))
    (fails : failure.fault = .buildFailed message) : last = some (.failed message) := by
  cases verdict with
  | failed told =>
      obtain rfl := Engine.Fault.buildFailed.inj fails
      rfl
  | stopped other => exact (other message fails).elim

theorem error_of_none {result : Except Failure String} (verdict : Verdict none result) :
    ∃ failure, result = .error failure ∧ ∀ message, failure.fault ≠ .buildFailed message := by
  cases verdict with
  | stopped other => exact ⟨_, rfl, other⟩

end Verdict

/-- The events of a build are reports and at most one event that ends it, and this goes
together with the result. -/
def Concordant (report : BuildReport) : Prop :=
  ∃ (reports : List (List ActiveStep)) (last : Option Event),
    events report.trail = reports.map .progress ++ last.toList ∧
      (∀ event ∈ last, event.isTerminal = true) ∧ Verdict last report.result

namespace Concordant

variable {trail : List Effect} {failure : Failure} {result : Except Failure String}

/-- A build that raised no event and is stopped. -/
theorem quiet (silent : events trail = [])
    (other : ∀ message, failure.fault ≠ .buildFailed message) :
    Concordant ⟨trail, .error failure⟩ :=
  ⟨[], none, silent, by simp, .stopped other⟩

/-- A build whose only event is the one that ends it. -/
theorem lone {event : Event} (silent : events trail = []) (ends : event.isTerminal = true)
    (verdict : Verdict (some event) result) : Concordant ⟨trail ++ [.event event], result⟩ := by
  refine ⟨[], some event, ?_, ?_, verdict⟩
  · rw [events_append, silent]
    rfl
  · intro other same
    obtain rfl := Option.some.inj same
    exact ends

end Concordant

/-! ## The newer builder -/

/-- Texts say nothing about the image. -/
theorem imageOf_events (trail : List Effect) :
    imageOf ((events trail).map .event) = imageOf trail := by
  induction trail with
  | nil => rfl
  | cons effect rest ih =>
      cases effect with
      | write text => exact ih
      | event event =>
          cases event with
          | progress steps => exact ih
          | failed message => rfl
          | built image => rfl

/-- Reports say nothing about the image. -/
theorem imageOf_reports (reports : List (List ActiveStep)) (told : List Event) :
    imageOf ((reports.map Event.progress ++ told).map .event) = imageOf (told.map .event) := by
  induction reports with
  | nil => rfl
  | cons report more ih => exact ih

/-- The image that a trail names goes together with the event that ends the build. -/
theorem imageOf_verdict {trail : List Effect} {reports : List (List ActiveStep)}
    {last : Option Event} (told : events trail = reports.map .progress ++ last.toList)
    (ends : ∀ event ∈ last, event.isTerminal = true) : Verdict last (imageOf trail) := by
  rw [← imageOf_events, told, imageOf_reports]
  cases last with
  | none =>
      apply Verdict.stopped
      intro message fails
      cases fails
  | some event =>
      cases event with
      | progress steps => cases ends _ rfl
      | failed message => exact .failed message
      | built image => exact .built image

/-- An answer that cannot be read to its end is no failed build. -/
theorem responseFailure_ne (error : ResponseError) (message : String) :
    (responseFailure error).fault ≠ .buildFailed message := by
  intro fails
  cases error <;> cases fails

theorem readSteps_concordant (conditions : Conditions) (passthrough : Bool)
    (delivery : Delivery) : Concordant (readSteps conditions passthrough delivery) := by
  unfold readSteps
  dsimp only
  generalize (if delivery.isCut then _ else _ : Progress.Response.Ending) = ending
  obtain ⟨reports, last, told, ends, -⟩ :=
    read_protocol { conditions with ending } passthrough delivery.body
  split
  · exact ⟨reports, last, told, ends, .stopped (responseFailure_ne _)⟩
  · exact ⟨reports, last, told, ends, imageOf_verdict told ends⟩

/-! ## The older builder -/

/-- As long as lines are read, no event has been raised. -/
theorem readText_concordant (conditions : Conditions) {trail : List Effect}
    (silent : events trail = []) (image : Option String) (lines : List (Except Trouble BuildLine)) :
    Concordant (readText conditions image trail lines) := by
  induction lines generalizing image trail with
  | nil =>
      unfold readText
      split
      · exact .quiet silent nofun
      · split
        · exact .quiet silent nofun
        · split
          · exact .quiet silent nofun
          · exact .lone silent rfl (.built _)
  | cons line rest ih =>
      unfold readText
      split
      · exact .quiet silent nofun
      · cases line with
        | error trouble => exact .quiet silent nofun
        | ok line =>
            dsimp only
            split
            · exact .lone silent rfl (.failed _)
            · split
              · exact ih silent _
              · split
                · exact .quiet silent nofun
                · refine ih ?_ _
                  rw [events_append, silent]
                  rfl

/-! ## Both builders -/

theorem buildContext_ne {store : Files.FileStore} {directory : String} {fault : Engine.Fault}
    (fails : buildContext store directory = .error fault) (message : String) :
    fault ≠ .buildFailed message := by
  unfold buildContext at fails
  split at fails
  · cases fails
  · cases fails
    exact nofun

namespace Client

variable {δ : Type} (client : Client δ) (conditions : Conditions)

theorem buildInSteps_concordant (build : Engine.BuildRequest)
    (context : List (String × Files.Entry)) :
    (conversation client.behaviour).Records (client.buildInSteps conditions build context)
      fun report _ => Concordant report := by
  rw [client.buildInSteps_eq]
  split
  · exact .pure (.quiet rfl nofun)
  · refine (send_records (stepBuild build context)).bind fun arrived _ _ => .pure ?_
    cases arrived with
    | dropped => exact .quiet rfl nofun
    | received status body isCut =>
        dsimp only [stepsReport]
        split
        · exact readSteps_concordant _ _ _
        · exact .quiet rfl nofun

theorem buildAsText_concordant (build : Engine.BuildRequest)
    (context : List (String × Files.Entry)) :
    (conversation client.behaviour).Records (client.buildAsText conditions build context)
      fun report _ => Concordant report := by
  unfold buildAsText
  split
  · exact .pure (.quiet rfl nofun)
  · refine (request_records (textBuild build context)).bind fun arrived _ _ => ?_
    cases arrived with
    | error trouble => exact .pure (readText_concordant conditions rfl none _)
    | ok delivery => exact .pure (readText_concordant conditions rfl none _)

theorem build_concordant (build : Engine.BuildRequest) :
    (conversation client.behaviour).Records (client.build conditions build)
      fun report _ => Concordant report := by
  unfold Client.build
  cases found : buildContext client.store build.directory with
  | error fault => exact .pure (.quiet rfl (buildContext_ne found))
  | ok context =>
      dsimp only
      split
      · exact client.buildInSteps_concordant conditions build context
      · exact client.buildAsText_concordant conditions build context

/-- **What a build tells and how it ends.** Whatever the daemon answers, whenever the build is
cancelled and whatever becomes of the output, the events are reports and then at most one
event that ends the build. An image is the result only if this event names it, and a failed
build only if it gives the same message; without such an event the result is another error. -/
theorem build_agrees (build : Engine.BuildRequest) (session : Session δ) :
    let report := (ContainerTasks.outcome (client.build conditions build) session).1
    ∃ (reports : List (List ActiveStep)) (last : Option Event),
      events report.trail = reports.map .progress ++ last.toList ∧
      (∀ event ∈ last, event.isTerminal = true) ∧
      (∀ image, report.result = .ok image → last = some (.built image)) ∧
      (∀ failure message, report.result = .error failure → failure.fault = .buildFailed message →
        last = some (.failed message)) ∧
      (last = none → ∃ failure, report.result = .error failure ∧
        ∀ message, failure.fault ≠ .buildFailed message) := by
  intro report
  obtain ⟨-, -, reports, last, told, ends, verdict⟩ :=
    client.build_concordant conditions build session
  refine ⟨reports, last, told, ends, ?_, ?_, ?_⟩
  · intro image names
    rw [names] at verdict
    exact verdict.eq_built
  · intro failure message stops fails
    rw [stops] at verdict
    exact verdict.eq_failed fails
  · rintro rfl
    exact verdict.error_of_none

end Client

end ContainerTasks.Daemon
