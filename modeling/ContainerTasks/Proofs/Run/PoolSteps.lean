import Mathlib.Logic.Relation
import ContainerTasks.Proofs.History
import ContainerTasks.Proofs.Run.ImagePool

/-! # The steps of a pool of images

A pool goes from one standing to the next by one step of one preparation: the next in line
begins, or one under way goes on to its next pause or to its end, where the program may break
down (`Step`). Which one it is, is left open, and so is how many are under way; an end is no end
for the others, even if it is a failure. The schedule, the limit and the failures that are
reported only choose among these steps (`run_takes`).
-/

namespace ContainerTasks.Run

open Engine (BuildNews Moment)

variable {σ α : Type}

/-- What a build writes in moments of its course. -/
def spoken (moments : List (Moment BuildNews)) : Bytes :=
  moments.flatMap fun
    | .news (.output text) => text
    | _ => []

/-- Where a pool stands. -/
structure Standing (σ : Type) where
  /-- The containers in line. -/
  waiting : List Project.Container
  /-- The preparations under way. -/
  working : List (Preparation σ) := []
  /-- The containers whose preparation has begun, each with all that this writes from its
  beginning to its end. -/
  begun : List (String × Bytes) := []
  /-- The containers whose preparation has ended, each with its result. -/
  ended : List (String × Except Error String) := []
  state : State σ

/-- The standing agrees with what preparing images ends with. -/
def Standing.EndsWith (standing : Standing σ) : Except Error α → Prop
  | .ok _ => standing.waiting = [] ∧ standing.working = []
  | .error error => (∃ container, (container, .error error) ∈ standing.ended) ∨
    ∃ cause, error = .brokenDown cause

/-- A preparation that has no result has broken down. -/
theorem Preparation.eq_brokenDown_of_conclude {preparation : Preparation σ}
    {writeFault : Nat → Option String} {now : List (Moment BuildNews)} {state next : State σ}
    {error : Error}
    (breaks : outcome (preparation.conclude writeFault now).run state = (.error error, next)) :
    ∃ cause, error = .brokenDown cause := by
  obtain ⟨answer, after, answers⟩ : ∃ answer after,
      outcome (perform (endCall preparation.method.call preparation.finish)).run
        (outcome (perform (happen preparation.container now)).run state).2 =
          (.ok answer, after) := ⟨_, _, rfl⟩
  rw [conclude, outcome_bind] at breaks
  change outcome (perform _ >>= _).run _ = _ at breaks
  rw [outcome_bind, answers] at breaks
  dsimp only at breaks
  split at breaks
  · rename_i cause
    cases breaks
    exact ⟨cause, rfl⟩
  · cases breaks

/-- A failure is that of a preparation which has ended. -/
def Results.Accounted (results : Results) (ended : List (String × Except Error String)) : Prop :=
  ∀ earlier error, results.failure = some (earlier, error) →
    ∃ container, (container, .error error) ∈ ended

theorem Results.Accounted.add {results : Results} {ended : List (String × Except Error String)}
    (accounted : results.Accounted ended) (place : Nat) (container : String)
    (result : Except Error String) :
    (results.add place container result).Accounted (ended ++ [(container, result)]) := by
  intro earlier error failed
  rcases Results.failure_add_eq_some failed with rfl | ⟨before, failure⟩
  · exact ⟨container, by simp⟩
  · obtain ⟨name, member⟩ := accounted before error failure
    exact ⟨name, List.mem_append_left _ member⟩

namespace ImagePool

/-- What the preparation of an image writes if it begins in the given state. -/
def speech (pool : ImagePool σ) (container : Project.Container) (state : State σ) : Bytes :=
  match Method.ofContainer pool.project container with
  | .pull _ => []
  | .build request =>
    spoken (pool.engine.build request state.cancelled state.engine).value.course

variable {pool : ImagePool σ}

/-- One step of one preparation. -/
inductive Step (pool : ImagePool σ) : Standing σ → Standing σ → Prop
  | begun {container : Project.Container} {waiting : List Project.Container}
      {working : List (Preparation σ)} {begun : List (String × Bytes)}
      {ended : List (String × Except Error String)} {preparation : Preparation σ}
      {state next : State σ}
      (starts : outcome (Preparation.start pool.engine pool.project container) state =
        (preparation, next)) :
      Step pool ⟨container :: waiting, working, begun, ended, state⟩
        ⟨waiting, working ++ [preparation], begun ++ [(container.name, pool.speech container state)],
          ended, next⟩
  | paused {waiting : List Project.Container} {before after : List (Preparation σ)}
      {begun : List (String × Bytes)} {ended : List (String × Except Error String)}
      {preparation advanced : Preparation σ} {now later : List (Moment BuildNews)}
      {state next : State σ} (split : stretch preparation.course = (now, some later))
      (advances : outcome (preparation.advance pool.writeFault now false) state =
        (advanced, next)) :
      Step pool ⟨waiting, before ++ preparation :: after, begun, ended, state⟩
        ⟨waiting, before ++ { advanced with course := advanced.remaining later } :: after, begun,
          ended, next⟩
  | ended {waiting : List Project.Container} {before after : List (Preparation σ)}
      {begun : List (String × Bytes)} {ended : List (String × Except Error String)}
      {preparation : Preparation σ} {now : List (Moment BuildNews)}
      {result : Except Error String} {state next : State σ}
      (split : stretch preparation.course = (now, none))
      (concludes : outcome (preparation.conclude pool.writeFault now).run state =
        (.ok result, next)) :
      Step pool ⟨waiting, before ++ preparation :: after, begun, ended, state⟩
        ⟨waiting, before ++ after, begun, ended ++ [(preparation.container, result)], next⟩
  | broken {waiting : List Project.Container} {working : List (Preparation σ)}
      {begun : List (String × Bytes)} {ended : List (String × Except Error String)}
      {preparation : Preparation σ} {now : List (Moment BuildNews)} {error : Error}
      {state next : State σ} (member : preparation ∈ working)
      (split : stretch preparation.course = (now, none))
      (breaks : outcome (preparation.conclude pool.writeFault now).run state =
        (.error error, next)) :
      Step pool ⟨waiting, working, begun, ended, state⟩ ⟨waiting, working, begun, ended, next⟩

namespace Step

variable {waiting : List Project.Container} {working : List (Preparation σ)}
  {begun : List (String × Bytes)} {ended : List (String × Except Error String)}
  {place : Nat} {now later : List (Moment BuildNews)} {state next : State σ}

theorem paused_at {advanced : Preparation σ} (inside : place < working.length)
    (split : stretch working[place].course = (now, some later))
    (advances : outcome (working[place].advance pool.writeFault now false) state =
      (advanced, next)) :
    pool.Step ⟨waiting, working, begun, ended, state⟩
      ⟨waiting, working.set place { advanced with course := advanced.remaining later }, begun,
        ended, next⟩ := by
  have step : pool.Step
      ⟨waiting, working.take place ++ working[place] :: working.drop (place + 1), begun, ended,
        state⟩ _ := .paused split advances
  rw [List.getElem_cons_drop, List.take_append_drop] at step
  rwa [List.set_eq_take_append_cons_drop, if_pos inside]

theorem ended_at {result : Except Error String} (inside : place < working.length)
    (split : stretch working[place].course = (now, none))
    (concludes : outcome (working[place].conclude pool.writeFault now).run state =
      (.ok result, next)) :
    pool.Step ⟨waiting, working, begun, ended, state⟩
      ⟨waiting, working.eraseIdx place, begun, ended ++ [(working[place].container, result)],
        next⟩ := by
  have step : pool.Step
      ⟨waiting, working.take place ++ working[place] :: working.drop (place + 1), begun, ended,
        state⟩ _ := .ended split concludes
  rw [List.getElem_cons_drop, List.take_append_drop] at step
  rwa [List.eraseIdx_eq_take_drop_succ]

end Step

/-- A pool comes from one standing to another by steps of its preparations. -/
abbrev Reaches (pool : ImagePool σ) : Standing σ → Standing σ → Prop :=
  Relation.ReflTransGen pool.Step

/-- The standing after the step of the preparation at a place. Any other place stands for the
next in line. -/
def turn (pool : ImagePool σ) (standing : Standing σ) (place : Nat) : Standing σ :=
  if inside : place < standing.working.length then
    let preparation := standing.working[place]
    match stretch preparation.course with
    | (now, some later) =>
      let (advanced, next) := outcome (preparation.advance pool.writeFault now false) standing.state
      { standing with
        working := standing.working.set place { advanced with course := advanced.remaining later }
        state := next }
    | (now, none) =>
      match outcome (preparation.conclude pool.writeFault now).run standing.state with
      | (.ok result, next) =>
        { standing with
          working := standing.working.eraseIdx place
          ended := standing.ended ++ [(preparation.container, result)]
          state := next }
      | (.error _, next) => { standing with state := next }
  else
    match standing.waiting with
    | [] => standing
    | container :: waiting =>
      let (preparation, next) :=
        outcome (Preparation.start pool.engine pool.project container) standing.state
      { standing with
        waiting
        working := standing.working ++ [preparation]
        begun := standing.begun ++ [(container.name, pool.speech container standing.state)]
        state := next }

theorem reaches_turn (pool : ImagePool σ) (standing : Standing σ) (place : Nat) :
    pool.Reaches standing (pool.turn standing place) := by
  obtain ⟨waiting, working, begun, ended, state⟩ := standing
  unfold turn
  dsimp only
  split
  · rename_i inside
    split
    · rename_i split
      exact .single (.paused_at inside split rfl)
    · rename_i split
      split
      · rename_i concludes
        exact .single (.ended_at inside split concludes)
      · rename_i breaks
        exact .single (.broken (List.getElem_mem inside) split breaks)
  · split
    · exact .refl
    · exact .single (.begun rfl)

/-- In whichever order preparations take their turns, these are steps. -/
theorem reaches_turns (pool : ImagePool σ) (standing : Standing σ) (places : List Nat) :
    pool.Reaches standing (places.foldl pool.turn standing) := by
  induction places generalizing standing with
  | nil => exact .refl
  | cons place rest ih => exact (pool.reaches_turn standing place).trans (ih _)

/-- From a standing an attempt is made up of steps. -/
def Takes (pool : ImagePool σ) (standing : Standing σ) (attempt : Attempt σ α) : Prop :=
  ∃ last, pool.Reaches standing last ∧
    last.state = (outcome attempt.run standing.state).2 ∧
    last.EndsWith (outcome attempt.run standing.state).1

namespace Takes

variable {waiting : List Project.Container} {working before after : List (Preparation σ)}
  {begun : List (String × Bytes)} {ended : List (String × Except Error String)}
  {state : State σ} {preparation : Preparation σ} {now later : List (Moment BuildNews)}

/-- A step may come first. -/
theorem of_step {first second : Standing σ} {attempt goesOn : Attempt σ α}
    (step : pool.Step first second)
    (same : outcome attempt.run first.state = outcome goesOn.run second.state)
    (takes : pool.Takes second goesOn) : pool.Takes first attempt := by
  obtain ⟨last, reaches, state, ends⟩ := takes
  rw [Takes, same]
  exact ⟨last, .head step reaches, state, ends⟩

theorem of_action {β : Type} {first second : Standing σ} {action : Action σ β} {answer : β}
    {rest : β → Attempt σ α} (step : pool.Step first second)
    (acts : outcome action first.state = (answer, second.state))
    (takes : pool.Takes second (rest answer)) : pool.Takes first (perform action >>= rest) := by
  refine .of_step step ?_ takes
  change outcome (rest (outcome action first.state).1).run (outcome action first.state).2 = _
  rw [acts]

/-- After an end there is what comes next, unless the program has broken down. -/
theorem of_end {rest : Except Error String → Attempt σ α} (member : preparation ∈ before)
    (split : stretch preparation.course = (now, none))
    (ends : ∀ result next,
      outcome (preparation.conclude pool.writeFault now).run state = (.ok result, next) →
      pool.Step ⟨waiting, before, begun, ended, state⟩
        ⟨waiting, after, begun, ended ++ [(preparation.container, result)], next⟩)
    (goesOn : ∀ result next, pool.Takes
      ⟨waiting, after, begun, ended ++ [(preparation.container, result)], next⟩ (rest result)) :
    pool.Takes ⟨waiting, before, begun, ended, state⟩
      (preparation.conclude pool.writeFault now >>= rest) := by
  have whole := outcome_bind (preparation.conclude pool.writeFault now) rest state
  cases concludes : outcome (preparation.conclude pool.writeFault now).run state with
  | mk result next =>
      rw [concludes] at whole
      cases result with
      | ok result => exact .of_step (ends result next concludes) whole (goesOn result next)
      | error error =>
          rw [Takes, whole]
          exact ⟨_, .single (.broken member split concludes), rfl,
            Or.inr (Preparation.eq_brokenDown_of_conclude concludes)⟩

end Takes

/-- **Every run is made up of steps.** Whatever the schedule and the limit, a pool comes by
steps to a standing with the state it ends in. If it ends well nothing is in line or under way
there, and otherwise the failure is that of a preparation that has ended, or the program has
broken down. -/
theorem run_takes (pool : ImagePool σ) (waiting : List Project.Container)
    (working : List (Preparation σ)) (results : Results) (turns : List Turn)
    (begun : List (String × Bytes)) (ended : List (String × Except Error String))
    (state : State σ) (accounted : results.Accounted ended) :
    pool.Takes ⟨waiting, working, begun, ended, state⟩
      (pool.run waiting working results turns) := by
  induction waiting, working, results, turns using ImagePool.run.induct pool
    generalizing begun ended state with
  | case1 waiting working results turns error due =>
      rw [run_due due]
      exact ⟨_, .refl, rfl, Or.inl (accounted 0 error (Results.failure_of_due due))⟩
  | case2 waiting working results turns going place inside preparation now later paused ih =>
      rw [run_paused going rfl inside paused]
      exact .of_action (.paused_at inside paused rfl) rfl (ih _ _ _ _ accounted)
  | case3 waiting working results turns going place inside preparation now finished ih =>
      rw [run_ended going rfl inside finished]
      refine .of_end (List.getElem_mem inside) finished
        (fun _ _ concludes => .ended_at inside finished concludes) fun result next => ?_
      exact ih result begun _ next (accounted.add _ _ _)
  | case4 working results turns going place outside =>
      rw [run_over going rfl outside]
      refine ⟨_, .refl, rfl, ?_⟩
      change Standing.EndsWith _ results.total
      cases total : results.total with
      | ok images => exact ⟨rfl, working_eq_nil rfl outside⟩
      | error error =>
          obtain ⟨earlier, failure⟩ := Results.exists_failure_of_total total
          exact Or.inl (accounted earlier error failure)
  | case5 working results turns going container waiting place outside paused finished =>
      rw [run_begun going rfl outside]
      refine .of_action (.begun rfl) rfl ?_
      -- What has begun goes on at once, from behind all the others.
      split
      · rename_i now later split
        exact .of_action (.paused split rfl) rfl (paused _ _ _ _ _ accounted)
      · rename_i now split
        refine .of_end (List.mem_append_right _ List.mem_cons_self) split
          (fun _ _ concludes => .ended split concludes) fun result next => ?_
        rw [List.append_nil]
        exact finished _ result _ _ next (accounted.add _ _ _)

theorem prepare_takes (pool : ImagePool σ) (containers : List Project.Container)
    (state : State σ) :
    pool.Takes { waiting := containers, state } (pool.prepare containers) := by
  have accounted : ({ inLine := few < containers.length } : Results).Accounted [] := by
    intro earlier error failure
    cases failure
  obtain ⟨last, reaches, same, ends⟩ := pool.run_takes containers [] _ [] [] [] state accounted
  refine ⟨last, reaches, ?_⟩
  rw [prepare, outcome_bind, same]
  cases result : (outcome (pool.run containers [] { inLine := few < containers.length }
    []).run state).1 with
  | ok images =>
      rw [result] at ends
      exact ⟨rfl, ends⟩
  | error error =>
      rw [result] at ends
      exact ⟨rfl, ends⟩

end ImagePool

end ContainerTasks.Run
