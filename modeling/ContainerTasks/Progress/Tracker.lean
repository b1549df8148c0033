import ContainerTasks.Journal
import ContainerTasks.Progress.Record
import ContainerTasks.Progress.Step

/-! # Tracking a build

The tracker takes in records in any order. A vertex becomes a step with the
first record that shows it active, provided it has been declared by then;
records about undeclared vertices are dropped. Steps keep their place and their
number for good.
-/

namespace ContainerTasks.Progress

/-- What is known about a build. -/
structure Tracker where
  /-- The first name given to each vertex, empty as long as it had none. -/
  declared : Std.ExtTreeMap String String := ∅
  /-- Where the step of a vertex stands among the steps. -/
  positions : Std.ExtTreeMap String Nat := ∅
  /-- The steps in the order in which they began. -/
  steps : List Step := []
  /-- The numbers of the steps that have not finished. -/
  active : Std.ExtTreeSet Nat := ∅

namespace Tracker

/-- The step of a vertex. -/
def stepOf? (tracker : Tracker) (vertex : String) : Option Step :=
  tracker.positions[vertex]?.bind fun position => tracker.steps[position]?

/-- Changes the step of a vertex, if it has one. -/
def modifyStep (tracker : Tracker) (vertex : String) (change : Step → Step) : Tracker :=
  match tracker.positions[vertex]? with
  | none => tracker
  | some position => { tracker with steps := tracker.steps.modify position change }

/-- Changes the step of a vertex unless it is sealed. -/
def modifyOpen (tracker : Tracker) (vertex : String) (change : Step → Step) : Tracker :=
  tracker.modifyStep vertex fun step => if step.isSealed then step else change step

/-- Makes a declared vertex a step if it is none yet. -/
def enter (tracker : Tracker) (vertex : String) : Tracker :=
  if tracker.positions.contains vertex then tracker
  else
    match tracker.declared[vertex]? with
    | none => tracker
    | some name =>
      let position := tracker.steps.length
      { tracker with
        steps := tracker.steps ++ [{ vertex, index := position + 1, name }]
        positions := tracker.positions.insert vertex position
        active := tracker.active.insert (position + 1) }

/-- Declares a vertex. Its first name that is not empty counts, also for the step
it may already be. -/
def declare (tracker : Tracker) (vertex name : String) : Tracker :=
  if name.isEmpty then
    { tracker with declared := tracker.declared.insertIfNew vertex "" }
  else
    let tracker := tracker.modifyStep vertex (·.rename name)
    if (tracker.declared.getD vertex "").isEmpty then
      { tracker with declared := tracker.declared.insert vertex name }
    else tracker

/-- Completes the step of a vertex unless it is sealed. -/
def complete (tracker : Tracker) (vertex : String) (cached : Bool) (error : Option String) :
    Tracker :=
  match tracker.stepOf? vertex with
  | none => tracker
  | some step =>
    if step.isSealed then tracker
    else
      let tracker := tracker.modifyStep vertex (·.complete cached error)
      { tracker with active := tracker.active.erase step.index }

/-- Takes in one record. -/
def apply (tracker : Tracker) : Record → Tracker
  | .declared vertex name => tracker.declare vertex name
  | .started vertex time => (tracker.enter vertex).modifyStep vertex (·.start time)
  | .completed vertex cached error => (tracker.enter vertex).complete vertex cached error
  | .operated vertex text current total _ isCompleted =>
    (tracker.enter vertex).modifyOpen vertex (·.operate text current total isCompleted)
  | .printed vertex time data => (tracker.enter vertex).modifyOpen vertex (·.print time data)

/-- Takes in records one after another. -/
def applyAll (tracker : Tracker) (records : List Record) : Tracker :=
  records.foldl apply tracker

/-- The step with a number; numbers begin at one. -/
def step? (tracker : Tracker) (index : Nat) : Option Step :=
  if index = 0 then none else tracker.steps[index - 1]?

/-- Marks a step as shown to its end. -/
def sealStep (tracker : Tracker) (index : Nat) : Tracker :=
  if index = 0 then tracker
  else { tracker with steps := tracker.steps.modify (index - 1) fun step =>
    { step with isSealed := true } }

/-- The steps that have not finished, by number. -/
def running (tracker : Tracker) : List Step :=
  tracker.active.toList.filterMap tracker.step?

/-- The steps that have not finished, as they are shown. -/
def activeSteps (tracker : Tracker) : Except Breakdown (List ActiveStep) :=
  tracker.running.mapM Step.toActive

/-- What taking in a record leaves in the journal: a new step, or a record that
is dropped. -/
def journal (tracker : Tracker) (record : Record) : List Journal.Entry :=
  match record with
  | .declared _ _ => []
  | _ =>
    let vertex := record.vertex
    if tracker.positions.contains vertex then []
    else
      match tracker.declared[vertex]? with
      | none => [⟨.trace, "Discarded record for undeclared vertex", [("vertex", vertex)]⟩]
      | some name =>
        [⟨.trace, "Build step started",
          [("vertex", vertex), ("step", toString (tracker.steps.length + 1)), ("name", name)]⟩]

/-- What taking in several records leaves in the journal. -/
def journalAll (tracker : Tracker) : List Record → List Journal.Entry
  | [] => []
  | record :: rest => tracker.journal record ++ (tracker.apply record).journalAll rest

end Tracker

end ContainerTasks.Progress
