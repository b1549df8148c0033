import ContainerTasks.Daemon.Build

/-! # A daemon as an engine -/

namespace ContainerTasks.Daemon

open Engine (BuildNews Moment Reply Work)

variable {δ : Type}

/-- A conversation as a reply of an engine. -/
def reply {α β : Type} (talk : Talk δ α) (value : α → β) (session : Session δ) :
    Reply (Session δ) β :=
  let (result, session) := Id.run (talk.run session)
  { value := value result, state := session }

/-- An outcome of which only the fault is kept, if it failed. -/
def withFault {α : Type} (result : Except Failure α) : Except Engine.Fault α :=
  result.mapError Failure.fault

/-- Work whose course is known, and its end too. -/
def settled {ρ : Type} (course : List (Moment ρ)) (result : Except Failure String) :
    Work (Session δ) ρ where
  course := course
  finish := fun session => { value := withFault result, state := session }

/-- What an effect of a build tells. -/
def newsOf? : Progress.Effect → Option BuildNews
  | .write text => some (.output (Text.Utf8.ofString text))
  | .event (.progress steps) => some (.progress steps)
  | .event (.failed _) | .event (.built _) => none

/-- An engine that has a daemon do the work. A run that is cancelled already is
cancelled for all of a build. -/
def Client.engine (client : Client δ) : Engine (Session δ) where
  pull image := reply (pull client.behaviour image) (settled [])
  build request cancelled :=
    reply (client.build { isCancelled := fun _ => cancelled } request)
      fun report => settled ((report.trail.filterMap newsOf?).map .news) report.result
  start request := reply (start client.behaviour request) withFault
  logs name := reply (logs client.behaviour name) fun items =>
    items.map fun item => .news (withFault item)
  wait name := reply (wait client.behaviour name) withFault
  stop name timeout := reply (stop client.behaviour name timeout) withFault
  remove name := reply (remove client.behaviour name) withFault

end ContainerTasks.Daemon
