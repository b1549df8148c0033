import ContainerTasks.Proofs.Daemon.Conversation
import ContainerTasks.Proofs.Run.Phases

/-! # Engines that a daemon stands behind

A run on such an engine can be seen as exchanges with the daemon (`exchanges`): what a call
adds to this view is what the client says to the daemon for it.
-/

namespace ContainerTasks.Daemon

open Run (Call)

variable {δ α : Type}

/-- An engine has a daemon do the work as a client does, and takes the word of the daemon on
what was started. When it gives up on a build, what it answers otherwise and when it cancels
the run is left open. -/
structure Serves (client : Client δ) (engine : Engine (Session δ)) : Prop where
  pull : ∀ image session, (engine.pull image session).state =
    (ContainerTasks.outcome (Daemon.pull client.behaviour image) session).2
  pulled : ∀ image session later, ((engine.pull image session).value.finish later).state = later
  build : ∀ request cancelled session, ∃ conditions, (engine.build request cancelled session).state =
    (ContainerTasks.outcome (client.build conditions request) session).2
  built : ∀ request cancelled session later,
    ((engine.build request cancelled session).value.finish later).state = later
  start : ∀ request session, (engine.start request session).state =
    (ContainerTasks.outcome (Daemon.start client.behaviour request) session).2
  started : ∀ request session, (engine.start request session).value =
    withFault (ContainerTasks.outcome (Daemon.start client.behaviour request) session).1
  logs : ∀ name session, (engine.logs name session).state =
    (ContainerTasks.outcome (Daemon.logs client.behaviour name) session).2
  wait : ∀ name session, (engine.wait name session).state =
    (ContainerTasks.outcome (Daemon.wait client.behaviour name) session).2
  stop : ∀ name timeout session, (engine.stop name timeout session).state =
    (ContainerTasks.outcome (Daemon.stop client.behaviour name timeout) session).2
  remove : ∀ name session, (engine.remove name session).state =
    (ContainerTasks.outcome (Daemon.remove client.behaviour name) session).2

theorem Client.serves (client : Client δ) : Serves client client.engine where
  pull _ _ := rfl
  pulled _ _ _ := rfl
  build _ _ _ := ⟨_, rfl⟩
  built _ _ _ _ := rfl
  start _ _ := rfl
  started _ _ := rfl
  logs _ _ := rfl
  wait _ _ := rfl
  stop _ _ _ := rfl
  remove _ _ := rfl

/-- The view of a run as exchanges with a daemon. -/
def exchanges (behaviour : Behaviour δ) : Run.CallHistory (Session δ) Exchange where
  Adds before items after := (conversation behaviour).Adds before.engine items after.engine
  refl state := (conversation behaviour).refl state.engine
  append := (conversation behaviour).append
  marks _ := []
  marked before _ := (conversation behaviour).refl before.engine
  idle := by
    intro before after same _
    rw [same]
    exact (conversation behaviour).refl before.engine

variable {behaviour : Behaviour δ} {call : Call} {holds : α → List Exchange → Prop}

section

variable {question : Session δ → Engine.Reply (Session δ) α}

/-- What is asked adds what is said to the daemon for it. -/
theorem ask_records
    (tells : ∀ session, ∃ items,
      (conversation behaviour).Adds session items (question session).state ∧
        holds (question session).value items) :
    (exchanges behaviour).Records (Run.ask question) holds :=
  fun before => tells before.engine

theorem beginCall_records (asks : (exchanges behaviour).Records (Run.ask question) holds) :
    (exchanges behaviour).Records (Run.beginCall call question) holds := by
  refine Run.CallHistory.beginCall_records asks fun answer items cancelled holding => ?_
  rwa [exchanges, List.append_nil]

end

variable {question : Session δ → Engine.Reply (Session δ) (Except Engine.Fault α)}
  {holds : Except Engine.Fault α → List Exchange → Prop}

theorem endCall_records (asks : (exchanges behaviour).Records (Run.ask question) holds) :
    (exchanges behaviour).Records (Run.endCall call question) holds := by
  refine Run.CallHistory.endCall_records asks fun answer items holding => ?_
  rwa [exchanges, List.append_nil]

theorem call_records (asks : (exchanges behaviour).Records (Run.ask question) holds) :
    (exchanges behaviour).Records (Run.call call question) holds := by
  refine Run.CallHistory.call_records asks fun answer items cancelled holding => ?_
  rwa [exchanges, List.append_nil, List.append_nil]

end ContainerTasks.Daemon
