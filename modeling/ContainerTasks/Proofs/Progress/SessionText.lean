import Mathlib.Data.List.Induction
import ContainerTasks.Proofs.Progress.Session

/-! # The text of a session

While no rendering closes a session, its cursor stays before the frontier, all steps
behind it are sealed, and its text is what the cursor says has been written
(`Session.Tidy`). Records keep this since sealed steps do not change and lines are only
added; a rendering moves the cursor to the frontier. Hence the text is always what can
be shown of the steps at once.
-/

namespace ContainerTasks.Progress.Transcript

namespace Session

/-- The text of a session is what its cursor says, under the names of the heads, and the
steps behind the cursor are sealed. -/
structure Tidy (session : Session) (names : List String) : Prop where
  upTo : session.cursor.position ≤ frontier session.tracker.steps
  isSealed : ∀ position step, position < session.cursor.position →
    session.tracker.steps[position]? = some step → step.isSealed = true
  headFirst : session.cursor.headWritten = false → session.cursor.linesWritten = 0
  present : session.cursor.headWritten = true →
    session.cursor.position < session.tracker.steps.length
  lines : ∀ step, session.tracker.steps[session.cursor.position]? = some step →
    session.cursor.linesWritten ≤ step.lines.length
  heads : names.length = session.cursor.position + session.cursor.headWritten.toNat
  text : session.text = cursorText session.cursor (titled names session.tracker.steps)
  named : Named names session.tracker.steps

namespace Tidy

theorem start : Tidy {} [] where
  upTo := Nat.zero_le _
  isSealed := by simp
  headFirst := fun _ => rfl
  present := by simp
  lines := by simp
  heads := rfl
  text := rfl
  named := by simp [Named]

variable {session : Session} {names : List String}

/-- Heads have been written only of steps that are there. -/
theorem names_length_le (tidy : session.Tidy names) :
    names.length ≤ session.tracker.steps.length := by
  have upTo := tidy.upTo
  have inside := frontier_le session.tracker.steps
  rw [tidy.heads]
  cases head : session.cursor.headWritten with
  | true => exact tidy.present head
  | false =>
      rw [Bool.toNat_false]
      omega

/-- The heads of all steps before the cursor have been written. -/
theorem position_le (tidy : session.Tidy names) : session.cursor.position ≤ names.length := by
  rw [tidy.heads]
  exact Nat.le_add_right _ _

/-- What has been written is right also when the steps have grown. -/
theorem cursorText_grows (tidy : session.Tidy names) {after : Tracker}
    (grows : session.tracker.Grows after) :
    cursorText session.cursor (titled names after.steps) =
      cursorText session.cursor (titled names session.tracker.steps) := by
  -- A step whose head has been written goes by the name of its head before and after.
  have growth : ∀ position (written : position < names.length),
      ∃ step later, session.tracker.steps[position]? = some step ∧ step.Grows later ∧
        (titled names session.tracker.steps)[position]? =
          some { step with name := names[position] } ∧
        (titled names after.steps)[position]? = some { later with name := names[position] } := by
    intro position written
    have found := List.getElem?_eq_getElem (Nat.lt_of_lt_of_le written tidy.names_length_le)
    obtain ⟨later, foundLater, growth⟩ := grows position _ found
    refine ⟨_, later, found, growth, ?_, ?_⟩
    · rw [getElem?_titled, found, List.getElem?_eq_getElem written]
      rfl
    · rw [getElem?_titled, foundLater, List.getElem?_eq_getElem written]
      rfl
  refine cursorText_congr ?_ ?_
  · intro position before
    obtain ⟨step, later, found, growth, titledStep, titledLater⟩ :=
      growth position (Nat.lt_of_lt_of_le before tidy.position_le)
    obtain ⟨status, lines⟩ := growth.kept (tidy.isSealed position step before found)
    rw [titledStep, titledLater, Option.map_some, Option.map_some]
    exact congrArg some (Step.Alike.block ⟨growth.index, rfl, lines, status⟩)
  · cases head : session.cursor.headWritten with
    | false =>
        simp only [Step.written_of_nothing head (tidy.headFirst head)]
        cases (titled names after.steps)[session.cursor.position]? <;>
          cases (titled names session.tracker.steps)[session.cursor.position]? <;> rfl
    | true =>
        have written : session.cursor.position < names.length := by
          rw [tidy.heads, head]
          exact Nat.lt_succ_self _
        obtain ⟨step, later, found, growth, titledStep, titledLater⟩ := growth _ written
        rw [titledStep, titledLater, Option.elim_some, Option.elim_some]
        exact Step.written_congr growth.index rfl growth.lines (tidy.lines step found)

/-- A record leaves a session tidy. -/
theorem apply (tidy : session.Tidy names) (record : Record) :
    (session.step (.apply record)).Tidy names := by
  have grows : session.tracker.Grows (session.tracker.apply record) :=
    session.tracker.apply_grows record
  have longer := grows.length_le
  refine ⟨Nat.le_trans tidy.upTo (frontier_grows grows), ?_, tidy.headFirst, ?_, ?_, tidy.heads, ?_,
    tidy.named.grows tidy.names_length_le grows⟩
  · intro position later before found
    have old : position < session.tracker.steps.length :=
      Nat.lt_of_lt_of_le before (Nat.le_trans tidy.position_le tidy.names_length_le)
    obtain ⟨step, present, growth⟩ := grows.of_later old found
    exact growth.isSealed (tidy.isSealed position step before present)
  · exact fun head => Nat.lt_of_lt_of_le (tidy.present head) longer
  · intro later found
    change session.cursor.linesWritten ≤ later.lines.length
    cases head : session.cursor.headWritten with
    | false =>
        rw [tidy.headFirst head]
        exact Nat.zero_le _
    | true =>
        obtain ⟨step, present, growth⟩ := grows.of_later (tidy.present head) found
        exact Nat.le_trans (tidy.lines step present) growth.lines.length_le
  · rw [show (session.step (.apply record)).text = session.text from rfl, tidy.text]
    exact (tidy.cursorText_grows grows).symm

/-- Writing on from the cursor does not depend on names that heads have been written
under. -/
theorem writeFrom_titled (tidy : session.Tidy names) (closing : Bool) :
    writeFrom closing session.cursor
        ((titled names session.tracker.steps).drop session.cursor.position) =
      writeFrom closing session.cursor
        (session.tracker.steps.drop session.cursor.position) := by
  rw [drop_titled]
  cases head : session.cursor.headWritten with
  | false =>
      have none : names.drop session.cursor.position = [] := by
        rw [List.drop_eq_nil_iff, tidy.heads, head]
        exact Nat.le_refl _
      rw [none, titled_nil]
  | true =>
      obtain ⟨name, one⟩ : ∃ name, names.drop session.cursor.position = [name] := by
        rw [← List.length_eq_one_iff, List.length_drop, tidy.heads, head]
        exact Nat.add_sub_cancel_left _ _
      rw [one]
      cases session.tracker.steps.drop session.cursor.position with
      | nil => rfl
      | cons step later =>
          -- The head of the step at the cursor has been written, so its name is not used.
          have unwritten : Step.unwritten { step with name } session.cursor =
              step.unwritten session.cursor := by
            simp only [Step.unwritten, head, ↓reduceIte]
            rfl
          rw [titled, titled_nil, writeFrom_cons, writeFrom_cons, unwritten]
          rfl

/-- A rendering writes what was missing of what can be shown. -/
theorem render_text (tidy : session.Tidy names) :
    (session.step (.render false)).text =
        openText (titled names session.tracker.steps) ∧
      (session.step (.render false)).cursor =
        (session.tracker.steps[frontier session.tracker.steps]?).elim session.cursor fun step =>
          { position := frontier session.tracker.steps
            headWritten := true
            linesWritten := step.lines.length } := by
  have upTo : session.cursor.position ≤ frontier (titled names session.tracker.steps) := by
    rw [frontier_titled]
    exact tidy.upTo
  obtain ⟨text, cursor⟩ := cursorText_append_open tidy.headFirst upTo
  rw [tidy.writeFrom_titled] at text cursor
  rw [← tidy.text] at text
  refine ⟨text, cursor.trans ?_⟩
  rw [frontier_titled, getElem?_titled]
  cases session.tracker.steps[frontier session.tracker.steps]? <;> rfl

/-- Sealing behind a rendering changes nothing that is shown. -/
theorem map_unsealed_step (session : Session) (closing : Bool) :
    session.tracker.steps.map unsealed =
      (session.step (.render closing)).tracker.steps.map unsealed :=
  (map_unsealed_sealBetween _ _ _).symm

/-- A rendering before the first step does nothing. -/
theorem render_empty (tidy : session.Tidy names) (empty : session.tracker.steps = []) :
    (session.step (.render false)).Tidy
      (extend (frontier session.tracker.steps + 1) names session.tracker.steps) := by
  have after : (session.step (.render false)).tracker.steps = [] := by
    have same := map_unsealed_step session false
    rw [empty, List.map_nil] at same
    exact List.map_eq_nil_iff.mp same.symm
  have unchanged : extend (frontier session.tracker.steps + 1) names session.tracker.steps =
      names := by
    simp [extend, empty]
  obtain ⟨text, cursor⟩ := tidy.render_text
  rw [empty, List.getElem?_nil, Option.elim_none] at cursor
  rw [empty] at text
  have upTo := tidy.upTo
  have present := tidy.present
  rw [empty] at upTo present
  rw [unchanged]
  refine ⟨?_, ?_, ?_, ?_, ?_, ?_, ?_, ?_⟩
  · rw [cursor, after]
    exact upTo
  · simp [after]
  · rw [cursor]
    exact tidy.headFirst
  · rw [cursor, after]
    exact present
  · simp [after]
  · rw [cursor]
    exact tidy.heads
  · rw [text, after]
    cases names <;> simp [titled, openText, cursorText]
  · simp [Named, after]

/-- A rendering seals the steps it moves the cursor past. -/
theorem isSealed_render (tidy : session.Tidy names) (closing : Bool) {position : Nat}
    {step : Step} (before : position < (session.step (.render closing)).cursor.position)
    (found : (session.step (.render closing)).tracker.steps[position]? = some step) :
    step.isSealed = true := by
  change (sealBetween session.tracker session.cursor.position
    (session.step (.render closing)).cursor.position).steps[position]? = some step at found
  rw [getElem?_sealBetween] at found
  obtain ⟨old, present, rfl⟩ := Option.map_eq_some_iff.mp found
  by_cases moved : session.cursor.position ≤ position
  · rw [if_pos ⟨moved, before⟩]
  · rw [if_neg fun stretch => moved stretch.1]
    exact tidy.isSealed position old (Nat.lt_of_not_le moved) present

/-- A rendering leaves a session tidy. -/
theorem render (tidy : session.Tidy names) :
    (session.step (.render false)).Tidy
      (extend (frontier session.tracker.steps + 1) names session.tracker.steps) := by
  by_cases empty : session.tracker.steps = []
  · exact tidy.render_empty empty
  · have same := map_unsealed_step session false
    have inside := frontier_lt empty
    have sameFrontier := frontier_eq_of_unsealed same
    have sameLength := length_eq_of_unsealed same
    obtain ⟨text, cursor⟩ := tidy.render_text
    obtain ⟨last, lastFound⟩ : ∃ last,
        session.tracker.steps[frontier session.tracker.steps]? = some last :=
      ⟨_, List.getElem?_eq_getElem inside⟩
    rw [lastFound, Option.elim_some] at cursor
    obtain ⟨shown, shownFound, alike⟩ := getElem?_of_unsealed same.symm lastFound
    have sameLines := congrArg Step.lines alike
    change shown.lines = last.lines at sameLines
    rw [← sameLines] at cursor
    have reached : names.length ≤ frontier session.tracker.steps + 1 := by
      have upTo := tidy.upTo
      have one := Bool.toNat_le session.cursor.headWritten
      rw [tidy.heads]
      omega
    refine ⟨?_, fun _ _ => tidy.isSealed_render false, ?_, ?_, ?_, ?_, ?_,
      (tidy.named.extend _).of_unsealed same⟩
    · rw [cursor]
      exact Nat.le_of_eq sameFrontier
    · simp [cursor]
    · intro _
      rw [cursor, ← sameLength]
      exact inside
    · intro step present
      rw [cursor] at present ⊢
      obtain rfl : shown = step := Option.some.inj (shownFound.symm.trans present)
      exact Nat.le_refl _
    · rw [cursor, length_extend reached inside, Bool.toNat_true]
    · rw [text, ← titled_extend (frontier session.tracker.steps + 1),
        openText_eq_of_unsealed _ same, cursor]
      rw [sameFrontier] at shownFound ⊢
      exact (cursorText_titled _ shownFound).symm

theorem closing_text (tidy : session.Tidy names) :
    (session.step (.render true)).text = closedText (titled names session.tracker.steps) := by
  have text : cursorText session.cursor (titled names session.tracker.steps) ++ _ = _ :=
    cursorText_append_closing tidy.headFirst
  rw [tidy.writeFrom_titled, ← tidy.text] at text
  exact text

end Tidy

end Session

/-- While no rendering closes it, a session is tidy. -/
theorem Watched.tidy_run {calls : List Call} (ongoing : .render true ∉ calls) :
    (Watched.run calls).session.Tidy (Watched.run calls).names := by
  induction calls using List.reverseRecOn with
  | nil => exact .start
  | append_singleton calls call ih =>
      have tidy := ih fun member => ongoing (List.mem_append_left _ member)
      rw [Watched.run, List.foldl_append, List.foldl_cons, List.foldl_nil]
      cases call with
      | apply record => exact tidy.apply record
      | render closing =>
          cases closing with
          | false => exact tidy.render
          | true => exact (ongoing (by simp)).elim

/-- **The text of a session.** Whatever records it has taken in and however they and the
renderings alternate, after a rendering the text is the blocks of the steps before the
frontier and the opening of the step there, and once a rendering has closed the session
it is all blocks, each step under the name its head was written under. That is the name
it has, unless it had none at the time. -/
theorem run_text (calls : List Call) (ongoing : .render true ∉ calls) (closing : Bool) :
    let after := Session.run (calls ++ [.render closing])
    let names := headNames (calls ++ [.render closing])
    after.text = (if closing then closedText (titled names after.tracker.steps)
      else openText (titled names after.tracker.steps)) ∧
    Named names after.tracker.steps := by
  have tidy := Watched.tidy_run ongoing
  have last : Watched.run (calls ++ [.render closing]) =
      (Watched.run calls).step (.render closing) := by
    rw [Watched.run, List.foldl_append]
    rfl
  have same := Session.Tidy.map_unsealed_step (Watched.run calls).session closing
  rw [← Watched.run_session, headNames, last]
  cases closing with
  | false =>
      refine ⟨?_, (tidy.named.extend _).of_unsealed same⟩
      refine tidy.render_text.1.trans ?_
      rw [← titled_extend (frontier (Watched.run calls).session.tracker.steps + 1)]
      exact openText_eq_of_unsealed _ same
  | true =>
      refine ⟨?_, (tidy.named.extend _).of_unsealed same⟩
      refine tidy.closing_text.trans ?_
      rw [← titled_extend (Watched.run calls).session.tracker.steps.length]
      exact closedText_eq_of_unsealed _ same

/-- A session in which a step gets its name after its head has been written, and another
step begins before it has finished. -/
def overlapping : List Call :=
  [.apply (.declared "a" ""), .apply (.started "a" {}), .render false,
    .apply (.declared "a" "pull"), .apply (.declared "b" "build"), .apply (.started "b" {}),
    .apply (.operated "a" "layer" 0 0 true true), .render false,
    .apply (.completed "a" true none)]

theorem run_text_overlapping :
    .render true ∉ overlapping ∧
      let after := Session.run (overlapping ++ [.render false])
      let names := headNames (overlapping ++ [.render false])
      after.text = "#1 \n#1 layer: done\n#1 CACHED\n\n#2 build\n" ∧
        after.text = openText (titled names after.tracker.steps) ∧
        Named names after.tracker.steps := by
  have ongoing : .render true ∉ overlapping := by simp [overlapping]
  exact ⟨ongoing, by decide +kernel, run_text overlapping ongoing false⟩

end ContainerTasks.Progress.Transcript
