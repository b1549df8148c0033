import ContainerTasks.Engine.Fault
import ContainerTasks.Progress.Step
import ContainerTasks.Project.Basic

/-! # Container engines

An engine builds and pulls images and runs containers. It is a state machine: each
call is answered from the engine's state, and the answer says whether the run was
cancelled meanwhile. Work that takes time is a list of what happens in the course
of it, so that several pieces of work can go on side by side.
-/

namespace ContainerTasks

namespace Engine

/-- What an image is built from. -/
structure BuildRequest where
  directory : String
  dockerfile : String
  arguments : TextMap
  tag : String

/-- What a container is started with. -/
structure StartRequest where
  name : String
  image : String
  command : Option (List String)
  environment : TextMap
  workingDirectory : Option String

/-- What a container says. -/
inductive LogItem
  | stdout (message : Bytes)
  | stderr (message : Bytes)
  | unknown
deriving DecidableEq, Repr

/-- What is told in the course of a build. -/
inductive BuildNews
  | output (text : Bytes)
  | progress (steps : List Progress.ActiveStep)
deriving DecidableEq, Repr

/-- A moment of work that takes time. -/
inductive Moment (ρ : Type)
  /-- The work gives way to other work. -/
  | pause
  /-- The run is cancelled. -/
  | cancel
  | news (content : ρ)
deriving DecidableEq, Repr

/-- The answer to a call, made from the state `σ` of an engine. -/
structure Reply (σ α : Type) where
  value : α
  /-- Whether the run was cancelled during the call. -/
  cancels : Bool := false
  state : σ

/-- Work on an image: its course, and the answer at its end, which names the
image. -/
structure Work (σ ρ : Type) where
  course : List (Moment ρ) := []
  finish : σ → Reply σ (Except Fault String)

end Engine

/-- A container engine with states `σ`. -/
structure Engine (σ : Type) where
  pull : (image : String) → σ → Engine.Reply σ (Engine.Work σ Empty)
  /-- The truth value says whether the run is cancelled already. -/
  build : Engine.BuildRequest → Bool → σ → Engine.Reply σ (Engine.Work σ Engine.BuildNews)
  /-- Creates and starts a container in place of one of the same name; the answer is
  the engine's own name for it. -/
  start : Engine.StartRequest → σ → Engine.Reply σ (Except Engine.Fault String)
  /-- What a container says until it exits. -/
  logs : (name : String) → σ →
    Engine.Reply σ (List (Engine.Moment (Except Engine.Fault Engine.LogItem)))
  /-- Waits for a container to exit; the answer is its exit code. -/
  wait : (name : String) → σ → Engine.Reply σ (Except Engine.Fault Int)
  stop : (name : String) → (timeout : Int) → σ → Engine.Reply σ (Except Engine.Fault Unit)
  remove : (name : String) → σ → Engine.Reply σ (Except Engine.Fault Unit)

end ContainerTasks
