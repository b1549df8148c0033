import ContainerTasks.Journal.Quoted
import ContainerTasks.Project.ImageTag
import ContainerTasks.Run.BuildOutput
import ContainerTasks.Run.State

/-! # Preparing images

The images of several containers are prepared side by side, at most so many at the
same time. Containers wait in line; each preparation goes on from pause to pause,
and a schedule says which one goes on next or whether the next in line begins. If
they are few, the first that fails ends them all. Otherwise the others go on, and a
failure is reported once all those before it in line have ended well.
-/

namespace ContainerTasks.Run

open Engine (BuildNews Moment)

/-- The moments up to the next pause, and those after it unless there is none. -/
def stretch {ρ : Type} : List (Moment ρ) → List (Moment ρ) × Option (List (Moment ρ))
  | [] => ([], none)
  | .pause :: rest => ([], some rest)
  | moment :: rest =>
    let (now, later) := stretch rest
    (moment :: now, later)

/-- What follows a pause is shorter than the whole. -/
theorem length_of_stretch {ρ : Type} {course now later : List (Moment ρ)}
    (split : stretch course = (now, some later)) : later.length < course.length := by
  induction course generalizing now with
  | nil => simp [stretch] at split
  | cons moment rest ih =>
    cases moment with
    | pause =>
      simp only [stretch, Prod.mk.injEq, Option.some.injEq] at split
      simp [← split.2]
    | cancel | news =>
      simp only [stretch, Prod.mk.injEq] at split
      have shorter := ih (Prod.ext rfl split.2)
      simp only [List.length_cons]
      omega

/-- A moment of a pull, which tells nothing. -/
def silent : Moment Empty → Moment BuildNews
  | .pause => .pause
  | .cancel => .cancel

/-- How an image is prepared. -/
inductive Method
  | pull (image : String)
  | build (request : Engine.BuildRequest)

namespace Method

/-- How the image of a container is prepared. -/
def ofContainer (project : String) (container : Project.Container) : Method :=
  match container.source with
  | .pull image => .pull image
  | .build directory dockerfile arguments =>
    .build { directory, dockerfile, arguments, tag := Project.imageTag project container.name }

/-- The image that a container is started with. -/
def image : Method → String
  | pull image => image
  | build request => request.tag

/-- The call to the engine. -/
def call : Method → Call
  | pull image => .pull image
  | build request => .build request

end Method

/-- An image on its way. -/
structure Preparation (σ : Type) where
  container : String
  method : Method
  /-- What is still to happen. -/
  course : List (Moment BuildNews)
  finish : σ → Engine.Reply σ (Except Engine.Fault String)
  /-- The part of the output that is no whole line yet. -/
  line : Bytes := []
  /-- Why output could not be copied. -/
  copyFault : Option String := none

variable {σ : Type}

/-- Whether a moment is output. -/
def isOutput : Moment BuildNews → Bool
  | .news (.output _) => true
  | _ => false

/-- Lets moments happen; the answer is the output among them. -/
def happen (container : String) : List (Moment BuildNews) → Action σ Bytes
  | [] => return []
  | .pause :: rest => happen container rest
  | .cancel :: rest => do
    cancel
    happen container rest
  | .news (.output text) :: rest => do
    let more ← happen container rest
    return text ++ more
  | .news (.progress steps) :: rest => do
    note .info "Building image."
      [("container", container), ("steps", Journal.quoteList (steps.map (·.text)))]
    happen container rest

/-- Copies lines until one cannot be written; the answer is the reason. -/
def copyLines (writeFault : Nat → Option String) (container : String) :
    List Bytes → Action σ (Option String)
  | [] => return none
  | line :: rest => do
    match ← write writeFault (BuildOutput.copied container line) with
    | some reason => return some reason
    | none => copyLines writeFault container rest

namespace Preparation

/-- Begins the preparation of the image of a container. -/
def start (engine : Engine σ) (project : String) (container : Project.Container) :
    Action σ (Preparation σ) := do
  let method := Method.ofContainer project container
  match method with
  | .pull image =>
    let work ← beginCall method.call (engine.pull image)
    return { container := container.name, method, course := work.course.map silent
             finish := work.finish }
  | .build request =>
    let cancelled := (← get).cancelled
    let work ← beginCall method.call (engine.build request cancelled)
    return { container := container.name, method
             course := BuildOutput.paced BuildOutput.capacity work.course
             finish := work.finish }

/-- Copies the whole lines of the output, and at the end also what is left. -/
def copy (writeFault : Nat → Option String) (preparation : Preparation σ) (output : Bytes)
    (closing : Bool) : Action σ (Preparation σ) := do
  if preparation.copyFault.isSome then return preparation
  let (whole, line) := BuildOutput.lines (preparation.line ++ output)
  let last := if closing && !line.isEmpty then [line] else []
  let copyFault ← copyLines writeFault preparation.container (whole ++ last)
  return { preparation with line, copyFault }

/-- What is still to happen after a pause. A build whose output cannot be copied ends
at its next output. -/
def remaining (preparation : Preparation σ) (later : List (Moment BuildNews)) :
    List (Moment BuildNews) :=
  if preparation.copyFault.isSome then later.takeWhile fun moment => !isOutput moment else later

theorem length_remaining_le (preparation : Preparation σ) (later : List (Moment BuildNews)) :
    (preparation.remaining later).length ≤ later.length := by
  unfold remaining
  split
  · exact (List.takeWhile_sublist _).length_le
  · exact Nat.le_refl _

/-- Lets moments happen and copies their output. -/
def advance (writeFault : Nat → Option String) (preparation : Preparation σ)
    (now : List (Moment BuildNews)) (closing : Bool) : Action σ (Preparation σ) := do
  let output ← happen preparation.container now
  preparation.copy writeFault output closing

/-- The result of a preparation: the image to start the container with, or why there is
none. -/
def result (preparation : Preparation σ) (answer : Except Engine.Fault String) :
    Attempt σ String := do
  if let some reason := preparation.copyFault then throw (.output reason)
  match preparation.method, answer with
  | .build _, .error .cancelled => throw .cancelled
  | _, .error fault => throw (.imagePreparation preparation.container fault)
  | .pull image, .ok _ =>
    perform (note .debug "Image pulled" [("container", preparation.container), ("image", image)])
    return image
  | .build request, .ok image =>
    perform (note .info "Image built."
      [("container", preparation.container), ("tag", request.tag), ("image", image)])
    return request.tag

/-- The end of a preparation; the answer is its result. If the program breaks down, this
ends everything, and output that has not been copied is lost. -/
def conclude (writeFault : Nat → Option String) (preparation : Preparation σ)
    (now : List (Moment BuildNews)) : Attempt σ (Except Error String) := do
  let output ← perform (happen preparation.container now)
  let answer ← perform (endCall preparation.method.call preparation.finish)
  if let .error (.brokenDown cause) := answer then throw (.brokenDown cause)
  let preparation ← perform (preparation.copy writeFault output true)
  perform (preparation.result answer).run

end Preparation

/-- What has come of the preparations that have ended. -/
structure Results where
  /-- Whether failures are reported in the order of the line. -/
  inLine : Bool
  /-- The images to start containers with, by the names of the containers. -/
  images : List (String × String) := []
  /-- The failure to report, and how many of those under way stand before it in line. -/
  failure : Option (Nat × Error) := none

namespace Results

/-- Takes in the result of the preparation at a place among those under way. -/
def add (results : Results) (place : Nat) (container : String) :
    Except Error String → Results
  | .ok image =>
    { results with
      images := results.images ++ [(container, image)]
      failure := results.failure.map fun (earlier, error) =>
        (if place < earlier then earlier - 1 else earlier, error) }
  | .error error =>
    if results.failure.any fun (earlier, _) => earlier ≤ place then results
    else { results with failure := some (if results.inLine then place else 0, error) }

/-- The failure to report now. -/
def due? (results : Results) : Option Error :=
  match results.failure with
  | some (0, error) => some error
  | _ => none

/-- What all of it comes to in the end. -/
def total (results : Results) : Except Error (List (String × String)) :=
  match results.failure with
  | some (_, error) => .error error
  | none => .ok results.images

end Results

/-- What a schedule goes by: the place that a preparation had among those under way,
and whether it ended. -/
structure Turn where
  place : Nat
  isLast : Bool
deriving DecidableEq, Repr

/-- Which preparation goes on next, given the turns so far, the last one first. The
place after those under way stands for the next in line; a place that stands for
nothing means the first. -/
def Schedule : Type := List Turn → Nat

/-- Every preparation under way goes on in turn. -/
def Schedule.roundRobin : Schedule
  | [] => 0
  | turn :: _ => if turn.isLast then turn.place else turn.place + 1

/-- How many may be under way at the same time. -/
structure Permits where
  count : Nat
  positive : 0 < count
  bounded : count ≤ Breakdown.maxPermits

/-- As many permits as are asked for, but at least one. -/
def Permits.ofCount (count : UInt64) : Except Breakdown Permits :=
  if bounded : max 1 count.toNat ≤ Breakdown.maxPermits then
    .ok ⟨max 1 count.toNat, Nat.le_max_left .., bounded⟩
  else .error .permits

/-- What images are prepared with. -/
structure ImagePool (σ : Type) where
  engine : Engine σ
  project : String
  /-- How many may be under way at the same time. -/
  limit : Permits
  schedule : Schedule := Schedule.roundRobin
  writeFault : Nat → Option String := fun _ => none

namespace ImagePool

/-- The length of what is still to happen in preparations under way. -/
def weight (working : List (Preparation σ)) : Nat :=
  working.foldr (fun preparation total => preparation.course.length + 1 + total) 0

theorem weight_set_lt {working : List (Preparation σ)} {place : Nat}
    (inside : place < working.length) {next : Preparation σ}
    (shorter : next.course.length < working[place].course.length) :
    weight (working.set place next) < weight working := by
  induction working generalizing place with
  | nil => simp at inside
  | cons first rest ih =>
    cases place with
    | zero =>
      simp only [List.getElem_cons_zero] at shorter
      simp only [List.set_cons_zero, weight, List.foldr_cons]
      omega
    | succ place =>
      have tail := ih (Nat.lt_of_succ_lt_succ inside) shorter
      simp only [weight] at tail
      simp only [List.set_cons_succ, weight, List.foldr_cons]
      omega

theorem weight_eraseIdx_lt {working : List (Preparation σ)} {place : Nat}
    (inside : place < working.length) : weight (working.eraseIdx place) < weight working := by
  induction working generalizing place with
  | nil => simp at inside
  | cons first rest ih =>
    cases place with
    | zero =>
      simp only [List.eraseIdx_cons_zero, weight, List.foldr_cons]
      omega
    | succ place =>
      have tail := ih (Nat.lt_of_succ_lt_succ inside)
      simp only [weight] at tail
      simp only [List.eraseIdx_cons_succ, weight, List.foldr_cons]
      omega

/-- Whether the next in line may begin. -/
def mayBegin (pool : ImagePool σ) (working : List (Preparation σ)) : Bool :=
  working.length < pool.limit.count

/-- The place that goes on next. -/
def nextPlace (pool : ImagePool σ) (waiting : List Project.Container)
    (working : List (Preparation σ)) (turns : List Turn) : Nat :=
  let places :=
    if pool.mayBegin working && !waiting.isEmpty then working.length + 1 else working.length
  let place := pool.schedule turns
  if place < places then place else 0

/-- Goes on until every image is prepared or a failure is to be reported. -/
def run (pool : ImagePool σ) (waiting : List Project.Container) (working : List (Preparation σ))
    (results : Results) (turns : List Turn) : Attempt σ (List (String × String)) :=
  match results.due? with
  | some error => throw error
  | none =>
    let place := pool.nextPlace waiting working turns
    if inside : place < working.length then
      let preparation := working[place]
      match split : stretch preparation.course with
      | (now, some later) => do
        let advanced ← perform (preparation.advance pool.writeFault now false)
        pool.run waiting (working.set place { advanced with course := advanced.remaining later })
          results (⟨place, false⟩ :: turns)
      | (now, none) => do
        let result ← preparation.conclude pool.writeFault now
        pool.run waiting (working.eraseIdx place)
          (results.add place preparation.container result) (⟨place, true⟩ :: turns)
    else
      match waiting with
      | [] => ExceptT.mk (pure results.total)
      | container :: waiting => do
        let preparation ← perform (Preparation.start pool.engine pool.project container)
        match stretch preparation.course with
        | (now, some later) => do
          let advanced ← perform (preparation.advance pool.writeFault now false)
          pool.run waiting
            (working ++ [{ advanced with course := advanced.remaining later }])
            results (⟨place, false⟩ :: turns)
        | (now, none) => do
          let result ← preparation.conclude pool.writeFault now
          pool.run waiting working (results.add working.length preparation.container result)
            (⟨place, true⟩ :: turns)
termination_by (waiting.length, weight working)
decreasing_by
  · apply Prod.Lex.right
    apply weight_set_lt inside
    exact Nat.lt_of_le_of_lt (advanced.length_remaining_le later) (length_of_stretch split)
  · exact Prod.Lex.right _ (weight_eraseIdx_lt inside)
  · apply Prod.Lex.left
    simp
  · apply Prod.Lex.left
    simp

/-- How many preparations are few. -/
def few : Nat := 30

/-- Prepares the images of containers; the answer is the image to start each of them
with. -/
def prepare (pool : ImagePool σ) (containers : List Project.Container) :
    Attempt σ TextMap := do
  return .ofList (← pool.run containers [] { inLine := few < containers.length } [])

end ImagePool

end ContainerTasks.Run
