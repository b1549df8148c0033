import ContainerTasks.Proofs.Progress.Attribution
import ContainerTasks.Proofs.Progress.SessionText

/-! # A transcript in step with its tracker

In a session only renderings seal steps, and a rendering seals just the steps that its cursor
comes past. So the sealed steps are those before the cursor, whatever the session does
(`InStep`), and while no rendering has closed it they have finished and another step has begun
behind each of them (`run_inStep`). A rendering leaves the cursor where one like it has nothing
to write (`Rests`), also after other renderings in between.
-/

namespace ContainerTasks.Progress

/-- A record seals no step, and a step that it lets begin is not sealed. -/
theorem Tracker.Booked.isSealed_apply {tracker : Tracker} (booked : tracker.Booked)
    {record : Record} {position : Nat} {later : Step}
    (found : (tracker.apply record).steps[position]? = some later) :
    (∃ step, tracker.steps[position]? = some step ∧ later.isSealed = step.isSealed) ∨
      tracker.steps.length ≤ position ∧ later.isSealed = false := by
  have steps := booked.steps_change (.apply record)
  change (tracker.apply record).steps = _ at steps
  rw [steps, List.getElem?_map] at found
  obtain ⟨step, present, rfl⟩ := Option.map_eq_some_iff.mp found
  rw [Step.isSealed_undergo, Change.seals, Bool.or_false]
  rcases Nat.lt_or_ge position tracker.steps.length with old | new
  · rw [List.getElem?_append_left old] at present
    exact Or.inl ⟨step, present, rfl⟩
  · rw [List.getElem?_append_right new] at present
    have begun := Option.mem_toList.mp (List.mem_of_getElem? present)
    obtain ⟨_, _, -, -, -, -, rfl⟩ := Tracker.newcomer?_eq_some_iff.mp begun
    exact Or.inr ⟨new, rfl⟩

namespace Transcript

section Rests

/-- A cursor has come to rest before steps: none is left, or all lines of the first one have been
written and it may not be closed. -/
inductive Rests (closing : Bool) (cursor : Cursor) : List Step → Prop
  | past (head : cursor.headWritten = false) (lines : cursor.linesWritten = 0) :
    Rests closing cursor []
  | held {step : Step} {later : List Step}
    (waits : ¬ (closing || (step.status.isFinished && !later.isEmpty)) = true)
    (head : cursor.headWritten = true) (lines : cursor.linesWritten = step.lines.length) :
    Rests closing cursor (step :: later)

variable {closing : Bool} {cursor : Cursor} {steps : List Step} {tracker : Tracker}

/-- A cursor at rest has nothing to write. -/
theorem Rests.writeFrom (rests : Rests closing cursor steps) :
    writeFrom closing cursor steps = ("", cursor) := by
  cases rests with
  | past => rfl
  | held waits head lines =>
      obtain ⟨position, headWritten, linesWritten⟩ := cursor
      dsimp only at head lines
      subst head lines
      rw [writeFrom_cons, if_neg waits, Step.unwritten, if_pos rfl, List.drop_length, List.map_nil,
        String.join_nil, String.append_empty]

theorem Rests.write (rests : Rests closing cursor (tracker.steps.drop cursor.position)) :
    write closing cursor tracker = ("", cursor, tracker) := by
  rw [Transcript.write, rests.writeFrom]
  dsimp only
  rw [sealBetween, Nat.sub_self]
  rfl

theorem Rests.lines_eq {step : Step} (rests : Rests closing cursor steps)
    (found : steps.head? = some step) : cursor.linesWritten = step.lines.length := by
  cases rests with
  | past => cases found
  | held _ _ lines =>
      cases found
      exact lines

theorem Rests.fresh (rests : Rests closing cursor steps) (none : steps.head? = none) :
    cursor.headWritten = false ∧ cursor.linesWritten = 0 := by
  cases rests with
  | past head lines => exact ⟨head, lines⟩
  | held => cases none

/-- Behind all steps no rendering has anything to write. -/
theorem Rests.of_closing (rests : Rests true cursor steps) (other : Bool) :
    Rests other cursor steps := by
  cases rests with
  | past head lines => exact .past head lines
  | held waits => exact (waits rfl).elim

/-- Writing on brings a cursor to rest. -/
theorem writeFrom_rests (closing : Bool) {cursor : Cursor} {steps : List Step}
    (fresh : steps = [] → cursor.headWritten = false ∧ cursor.linesWritten = 0) :
    ∃ count, count ≤ steps.length ∧
      (writeFrom closing cursor steps).2.position = cursor.position + count ∧
      Rests closing (writeFrom closing cursor steps).2 (steps.drop count) := by
  induction steps generalizing cursor with
  | nil => exact ⟨0, Nat.le_refl 0, rfl, .past (fresh rfl).1 (fresh rfl).2⟩
  | cons step later ih =>
      rw [writeFrom_cons]
      split
      · obtain ⟨count, inside, position, rests⟩ :=
          @ih { position := cursor.position + 1 } fun _ => ⟨rfl, rfl⟩
        refine ⟨count + 1, Nat.succ_le_succ inside, ?_, rests⟩
        rw [position]
        exact Nat.succ_add_eq_add_succ _ _
      · rename_i waits
        exact ⟨0, Nat.zero_le _, rfl, .held waits rfl rfl⟩

/-- Sealing the steps before a position leaves the others as they are. -/
theorem drop_sealBetween (tracker : Tracker) (first last : Nat) :
    (sealBetween tracker first last).steps.drop last = tracker.steps.drop last := by
  refine List.ext_getElem? fun position => ?_
  rw [List.getElem?_drop, List.getElem?_drop, getElem?_sealBetween]
  have behind : ¬ (first ≤ last + position ∧ last + position < last) := by omega
  simp only [if_neg behind, Option.map_id']

end Rests

namespace Session

/-- The sealed steps are those before the cursor, and of the step there it has written no more
lines than there are. -/
structure InStep (session : Session) : Prop where
  upTo : session.cursor.position ≤ session.tracker.steps.length
  isSealed_iff : ∀ position step, session.tracker.steps[position]? = some step →
    (step.isSealed = true ↔ position < session.cursor.position)
  lines : ∀ step, session.tracker.steps[session.cursor.position]? = some step →
    session.cursor.linesWritten ≤ step.lines.length
  fresh : session.tracker.steps[session.cursor.position]? = none →
    session.cursor.headWritten = false ∧ session.cursor.linesWritten = 0

theorem cursor_render (session : Session) (closing : Bool) :
    (session.step (.render closing)).cursor =
      (writeFrom closing session.cursor
        (session.tracker.steps.drop session.cursor.position)).2 :=
  rfl

theorem tracker_render (session : Session) (closing : Bool) :
    (session.step (.render closing)).tracker =
      sealBetween session.tracker session.cursor.position
        (session.step (.render closing)).cursor.position :=
  rfl

namespace InStep

variable {session : Session}

theorem start : InStep {} where
  upTo := Nat.le_refl 0
  isSealed_iff := nofun
  lines := nofun
  fresh := fun _ => ⟨rfl, rfl⟩

/-- A record leaves a session in step. -/
theorem apply (inStep : session.InStep) (booked : session.tracker.Booked) (record : Record) :
    (session.step (.apply record)).InStep := by
  have grows := session.tracker.apply_grows record
  refine ⟨inStep.upTo.trans grows.length_le, ?_, ?_, ?_⟩
  · intro position later found
    rcases booked.isSealed_apply found with ⟨step, present, same⟩ | ⟨new, unsealed⟩
    · rw [same]
      exact inStep.isSealed_iff position step present
    · rw [unsealed]
      exact iff_of_false Bool.false_ne_true (Nat.not_lt.mpr (inStep.upTo.trans new))
  · intro later found
    change session.cursor.linesWritten ≤ later.lines.length
    cases present : session.tracker.steps[session.cursor.position]? with
    | none =>
        rw [(inStep.fresh present).2]
        exact Nat.zero_le _
    | some step =>
        obtain ⟨other, there, growth⟩ := grows _ step present
        obtain rfl := Option.some.inj (there.symm.trans found)
        exact (inStep.lines step present).trans growth.lines.length_le
  · intro none
    refine inStep.fresh (List.getElem?_eq_none ?_)
    exact grows.length_le.trans (List.getElem?_eq_none_iff.mp none)

/-- Writing on from the cursor of a session in step brings it to rest at a later step. -/
theorem writeFrom_rests (inStep : session.InStep) (closing : Bool) :
    session.cursor.position ≤ (session.step (.render closing)).cursor.position ∧
      (session.step (.render closing)).cursor.position ≤ session.tracker.steps.length ∧
      Rests closing (session.step (.render closing)).cursor
        (session.tracker.steps.drop (session.step (.render closing)).cursor.position) := by
  have fresh : session.tracker.steps.drop session.cursor.position = [] →
      session.cursor.headWritten = false ∧ session.cursor.linesWritten = 0 := by
    intro none
    exact inStep.fresh (List.getElem?_eq_none (List.drop_eq_nil_iff.mp none))
  obtain ⟨count, inside, position, rests⟩ := Transcript.writeFrom_rests closing fresh
  have upTo := inStep.upTo
  rw [List.length_drop] at inside
  rw [List.drop_drop, ← position] at rests
  rw [cursor_render]
  exact ⟨by omega, by omega, rests⟩

/-- A rendering leaves the cursor of a session in step at rest. -/
theorem render_rests (inStep : session.InStep) (closing : Bool) :
    Rests closing (session.step (.render closing)).cursor
      ((session.step (.render closing)).tracker.steps.drop
        (session.step (.render closing)).cursor.position) := by
  rw [tracker_render, drop_sealBetween]
  exact (inStep.writeFrom_rests closing).2.2

/-- A rendering leaves a session in step. -/
theorem render (inStep : session.InStep) (closing : Bool) :
    (session.step (.render closing)).InStep := by
  obtain ⟨onward, inside, -⟩ := inStep.writeFrom_rests closing
  have rests := inStep.render_rests closing
  refine ⟨?_, ?_, ?_, ?_⟩
  · rwa [tracker_render, length_sealBetween]
  · intro position step found
    rw [tracker_render, getElem?_sealBetween] at found
    obtain ⟨old, present, rfl⟩ := Option.map_eq_some_iff.mp found
    have before := inStep.isSealed_iff position old present
    split
    · rename_i stretch
      exact iff_of_true rfl stretch.2
    · rw [before]
      omega
  · intro step found
    rw [← List.head?_drop] at found
    exact Nat.le_of_eq (rests.lines_eq found)
  · intro none
    rw [← List.head?_drop] at none
    exact rests.fresh none

end InStep

/-- A session is in step whatever is done in it. -/
theorem inStep_run (calls : List Call) : (run calls).InStep := by
  induction calls using List.reverseRecOn with
  | nil => exact .start
  | append_singleton calls call ih =>
      rw [run_concat]
      cases call with
      | apply record =>
          obtain ⟨changes, tracker, -⟩ := exists_changes calls
          refine ih.apply ?_ record
          rw [tracker]
          exact Tracker.booked_run changes
      | render closing => exact ih.render closing

/-- A rendering has left nothing to write for one like it. -/
def Settled (closing : Bool) (session : Session) : Prop :=
  Rests closing session.cursor (session.tracker.steps.drop session.cursor.position)

namespace Settled

variable {closing : Bool} {session : Session}

theorem step_eq (settled : Settled closing session) : session.step (.render closing) = session := by
  rw [step, Rests.write settled]
  dsimp only
  rw [String.append_empty]

/-- Other renderings in between leave nothing to write either. -/
theorem render (settled : Settled closing session) (inStep : session.InStep) (other : Bool) :
    Settled closing (session.step (.render other)) := by
  cases closing with
  | true =>
      have behind : Settled other session := Rests.of_closing settled other
      rwa [behind.step_eq]
  | false =>
      cases other with
      | true => exact (inStep.render_rests true).of_closing false
      | false => rwa [settled.step_eq]

/-- A rendering settles a session until the next record. -/
theorem run (calls : List Call) (closing : Bool) (between : List Bool) :
    Settled closing (Session.run (calls ++ .render closing :: between.map .render)) := by
  induction between using List.reverseRecOn with
  | nil =>
      rw [List.map_nil, run_concat]
      exact (inStep_run calls).render_rests closing
  | append_singleton between other ih =>
      rw [List.map_append, List.map_singleton, ← List.cons_append, ← List.append_assoc, run_concat]
      exact ih.render (inStep_run _) other

end Settled

/-- **Keeping in step.** Whatever records a session takes in and whenever it is rendered, the
sealed steps are those before the cursor, which is behind the last step at most, and of the step
there no more lines have been written than there are, or nothing at all if there is none. While no
rendering closes the session, sealed steps have finished and another step has begun behind each, so
the text has the ending of no other step. A rendering repeated before the next record writes
nothing and changes nothing. -/
theorem run_inStep (calls : List Call) :
    let session := run calls
    session.InStep ∧
      (.render true ∉ calls →
        (∀ position step, session.tracker.steps[position]? = some step → step.isSealed = true →
          step.status.isFinished = true ∧ position + 1 < session.tracker.steps.length) ∧
        session.text =
          cursorText session.cursor (titled (headNames calls) session.tracker.steps)) ∧
      ∀ (closing : Bool) (between : List Bool),
        let rendered := run (calls ++ .render closing :: between.map .render)
        write closing rendered.cursor rendered.tracker = ("", rendered.cursor, rendered.tracker) := by
  intro session
  refine ⟨inStep_run calls, fun ongoing => ?_, fun closing between =>
    Rests.write (Settled.run calls closing between)⟩
  have tidy := Watched.tidy_run ongoing
  rw [Watched.run_session] at tidy
  refine ⟨fun position step found isSealed => ?_, tidy.text⟩
  have before : position < session.cursor.position :=
    ((inStep_run calls).isSealed_iff position step found).mp isSealed
  have present := (List.getElem?_eq_some_iff.mp found).1
  have upTo : session.cursor.position ≤ frontier session.tracker.steps := tidy.upTo
  have last := frontier_le session.tracker.steps
  have inside : session.cursor.position < session.tracker.steps.length := by omega
  exact ⟨(le_frontier_iff inside).mp upTo position step before found, by omega⟩

theorem run_inStep_overlapping :
    let calls := overlapping ++ [.render false]
    .render true ∉ calls ∧
      (run calls).tracker.steps.map Step.isSealed = [true, false] ∧
      (run calls).cursor = { position := 1, headWritten := true, linesWritten := 0 } ∧
      (run calls).InStep ∧
      ∀ position step, (run calls).tracker.steps[position]? = some step → step.isSealed = true →
        step.status.isFinished = true ∧ position + 1 < (run calls).tracker.steps.length := by
  intro calls
  have ongoing : .render true ∉ calls := by simp [calls, overlapping]
  obtain ⟨inStep, finished, -⟩ := run_inStep calls
  exact ⟨ongoing, by decide +kernel, by decide +kernel, inStep, (finished ongoing).1⟩

end Session

end Transcript

end ContainerTasks.Progress
