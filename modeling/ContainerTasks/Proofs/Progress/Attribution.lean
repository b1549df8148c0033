import ContainerTasks.Proofs.Progress.Headers
import ContainerTasks.Proofs.Progress.Entries

/-! # Which step a line belongs to

Whatever a session does, it writes one block for each step it comes past, and the entries of the
step at its cursor (`laid_run`). Each entry stands behind the mark of its step. But a name, an
operation or a message may have newlines, and a line that follows one of these has no mark and may
even be blank. Where they have none, every line is attributed to its step (`run_attributed`).
-/

namespace ContainerTasks.Progress.Transcript

section Layout

/-- The entries of a step that a cursor has not come past. -/
def freshEntries (step : Step) (cursor : Cursor) : List String :=
  (if cursor.headWritten then [] else [step.name]) ++ step.lines.drop cursor.linesWritten

theorem toList_shown (step : Step) (line : String) :
    (step.shown line).toList = mark step.index ++ line.toList ++ ['\n'] := by
  simp [Step.shown, mark, Nat.toString_eq_repr, Nat.toList_repr]

theorem toList_unwritten (step : Step) (cursor : Cursor) :
    (step.unwritten cursor).toList = entryChars step.index (freshEntries step cursor) := by
  have lines (lines : List String) :
      (String.join (lines.map step.shown)).toList = entryChars step.index lines := by
    rw [String.toList_join, List.flatMap_map, entryChars]
    exact List.flatMap_congr fun line _ => toList_shown step line
  rw [Step.unwritten, String.toList_append, lines, freshEntries, entryChars_append]
  congr 1
  split
  · exact String.toList_empty
  · rw [toList_shown, entryChars_singleton]

theorem toList_ending (step : Step) :
    step.ending.toList = entryChars step.index step.status.terminalLine.toList ++ ['\n'] := by
  unfold Step.ending
  cases step.status.terminalLine with
  | none => simp [entryChars]
  | some line =>
      rw [Option.elim_some, String.toList_append, toList_shown, Option.toList_some,
        entryChars_singleton]
      rfl

/-- What has been written up to a cursor: the blocks of the steps before it and the entries of the
step there. All entries satisfy a condition. -/
structure Laid (fits : String → Prop) (text : String) (cursor : Cursor)
    (blocks : List (List String)) (opened : List String) : Prop where
  text : text.toList = pageChars blocks ++ entryChars (blocks.length + 1) opened
  position : cursor.position = blocks.length
  head : cursor.headWritten = true ↔ opened ≠ []
  filled : ∀ entries ∈ blocks, entries ≠ []
  fits : ∀ entries ∈ blocks ++ [opened], ∀ entry ∈ entries, fits entry

variable {fits : String → Prop} {text : String} {cursor : Cursor} {blocks : List (List String)}
  {opened : List String} {step : Step}

theorem fits_freshEntries (fitting : step.Fitting fits) (cursor : Cursor) :
    ∀ entry ∈ freshEntries step cursor, fits entry := by
  intro entry member
  rcases List.mem_append.mp member with head | line
  · split at head
    · cases head
    · exact List.mem_singleton.mp head ▸ fitting.name
  · exact fitting.lines entry (List.mem_of_mem_drop line)

namespace Laid

variable (laid : Laid fits text cursor blocks opened)

include laid

/-- The entries of a step are written on. -/
theorem extend (number : step.index = cursor.position + 1) (fitting : step.Fitting fits) :
    Laid fits (text ++ step.unwritten cursor)
      { cursor with headWritten := true, linesWritten := step.lines.length } blocks
      (opened ++ freshEntries step cursor) where
  text := by
    rw [String.toList_append, laid.text, toList_unwritten, number, laid.position,
      entryChars_append, List.append_assoc]
  position := laid.position
  head := by
    refine iff_of_true rfl fun none => ?_
    obtain ⟨unopened, fresh⟩ := List.append_eq_nil_iff.mp none
    have unwritten : ¬ cursor.headWritten = true := mt laid.head.mp (not_not.mpr unopened)
    rw [freshEntries, if_neg unwritten] at fresh
    cases fresh
  filled := laid.filled
  fits := by
    intro entries member entry among
    rcases List.mem_append.mp member with block | here
    · exact laid.fits entries (List.mem_append_left _ block) entry among
    · rw [List.mem_singleton.mp here] at among
      rcases List.mem_append.mp among with former | fresh
      · exact laid.fits opened (List.mem_append_right _ (List.mem_singleton_self _)) entry former
      · exact fits_freshEntries fitting cursor entry fresh

/-- A step is written to its end. -/
theorem close (number : step.index = cursor.position + 1) (fitting : step.Fitting fits) :
    Laid fits (text ++ (step.unwritten cursor ++ step.ending)) { position := cursor.position + 1 }
      (blocks ++ [opened ++ freshEntries step cursor ++ step.status.terminalLine.toList]) [] := by
  have open' := laid.extend number fitting
  refine ⟨?_, ?_, ⟨nofun, fun none => (none rfl).elim⟩, ?_, ?_⟩
  · rw [← String.append_assoc, String.toList_append, open'.text, toList_ending, number,
      laid.position, pageChars_concat, entryChars_append _ (opened ++ _)]
    simp [entryChars]
  · rw [laid.position, List.length_append, List.length_singleton]
  · intro entries member
    rcases List.mem_append.mp member with former | last
    · exact laid.filled entries former
    · rw [List.mem_singleton.mp last]
      exact List.append_ne_nil_of_left_ne_nil (open'.head.mp rfl) _
  · intro entries member entry among
    rw [List.mem_append, List.mem_append, List.mem_singleton, List.mem_singleton] at member
    rcases member with (former | rfl) | rfl
    · exact laid.fits entries (List.mem_append_left _ former) entry among
    · rcases List.mem_append.mp among with here | last
      · exact open'.fits _ (List.mem_append_right _ (List.mem_singleton_self _)) entry here
      · exact fitting.ending entry (Option.mem_toList.mp last)
    · cases among

/-- **Writing on.** Steps from the cursor on are added to what has been written. -/
theorem writeFrom (closing : Bool) {steps : List Step}
    (numbered : ∀ (position : Nat) (step : Step), steps[position]? = some step →
      step.index = cursor.position + position + 1)
    (fitting : ∀ step ∈ steps, step.Fitting fits) :
    ∃ blocks' opened', Laid fits (text ++ (writeFrom closing cursor steps).1)
      (Transcript.writeFrom closing cursor steps).2 blocks' opened' := by
  induction steps generalizing text cursor blocks opened with
  | nil =>
      refine ⟨blocks, opened, ?_⟩
      rw [Transcript.writeFrom, String.append_empty]
      exact laid
  | cons step later ih =>
      have number := numbered 0 step rfl
      have here := fitting step List.mem_cons_self
      rw [writeFrom_cons]
      split
      · dsimp only
        rw [← @String.append_assoc (step.unwritten cursor), ← @String.append_assoc text]
        refine ih (laid.close number here) (fun position other found => ?_) fun other member =>
          fitting other (List.mem_cons_of_mem _ member)
        rw [numbered (position + 1) other found, Nat.add_assoc cursor.position 1,
          Nat.add_comm 1 position]
      · exact ⟨_, _, laid.extend number here⟩

end Laid

/-- The cursor comes no further than the steps, and it has written of a step only if there is
one. -/
theorem writeFrom_within (closing : Bool) {cursor : Cursor} {steps : List Step}
    (present : cursor.headWritten = true → steps ≠ []) :
    (writeFrom closing cursor steps).2.position ≤ cursor.position + steps.length ∧
      ((writeFrom closing cursor steps).2.headWritten = true →
        (writeFrom closing cursor steps).2.position < cursor.position + steps.length) := by
  induction steps generalizing cursor with
  | nil => exact ⟨Nat.le_refl _, fun written => (present written rfl).elim⟩
  | cons step later ih =>
      rw [writeFrom_cons, List.length_cons]
      split
      · obtain ⟨upTo, inside⟩ := @ih { position := cursor.position + 1 } nofun
        rw [Nat.add_assoc, Nat.add_comm 1] at upTo inside
        exact ⟨upTo, inside⟩
      · dsimp only
        exact ⟨Nat.le_add_right _ _, fun _ => Nat.lt_add_of_pos_right (Nat.succ_pos _)⟩

/-- A session has written blocks and opened the step at its cursor, if there is one. -/
structure Session.Laid (fits : String → Prop) (session : Session) : Prop where
  laid : ∃ blocks opened, Transcript.Laid fits session.text session.cursor blocks opened
  upTo : session.cursor.position ≤ session.tracker.steps.length
  inside : session.cursor.headWritten = true →
    session.cursor.position < session.tracker.steps.length

theorem length_sealBetween (tracker : Tracker) (first last : Nat) :
    (sealBetween tracker first last).steps.length = tracker.steps.length :=
  length_eq_of_unsealed (map_unsealed_sealBetween tracker first last)

variable {fits : String → Prop} {session : Session}

theorem Session.Laid.start : Session.Laid fits {} where
  laid := ⟨[], [], by simp [entryChars, pageChars], rfl, ⟨nofun, fun none => (none rfl).elim⟩,
    fun _ member => absurd member List.not_mem_nil, by simp⟩
  upTo := Nat.le_refl 0
  inside := nofun

theorem Session.Laid.apply (laid : session.Laid fits) (record : Record) :
    (session.step (.apply record)).Laid fits := by
  have more := (session.tracker.apply_grows record).length_le
  exact ⟨laid.laid, laid.upTo.trans more, fun head => Nat.lt_of_lt_of_le (laid.inside head) more⟩

theorem Session.Laid.render (laid : session.Laid fits) (valid : session.tracker.Valid)
    (fitting : ∀ step ∈ session.tracker.steps, step.Fitting fits) (closing : Bool) :
    (session.step (.render closing)).Laid fits := by
  obtain ⟨blocks, opened, written⟩ := laid.laid
  have whole : session.cursor.position +
      (session.tracker.steps.drop session.cursor.position).length =
        session.tracker.steps.length := by
    rw [List.length_drop]
    exact Nat.add_sub_of_le laid.upTo
  have within := @writeFrom_within closing session.cursor
    (session.tracker.steps.drop session.cursor.position) fun head none =>
      Nat.not_le_of_lt (laid.inside head) (List.drop_eq_nil_iff.mp none)
  have length := length_sealBetween session.tracker session.cursor.position
  rw [whole] at within
  refine ⟨?_, ?_, ?_⟩
  · refine written.writeFrom closing (fun position step found => ?_) fun step member =>
      fitting step (List.mem_of_mem_drop member)
    rw [List.getElem?_drop] at found
    exact valid.numbered _ _ found
  · exact within.1.trans_eq (length _).symm
  · exact fun head => (within.2 head).trans_eq (length _).symm

/-- When a session has been closed, all that is written is blocks, one for each step. -/
theorem Session.Laid.closed (laid : (session.step (.render true)).Laid fits)
    (upTo : session.cursor.position ≤ session.tracker.steps.length) :
    ∃ blocks : List (List String),
      blocks.length = (session.step (.render true)).tracker.steps.length ∧
        (session.step (.render true)).text.toList = pageChars blocks ∧
        (∀ entries ∈ blocks, entries ≠ []) ∧
        ∀ entries ∈ blocks, ∀ entry ∈ entries, fits entry := by
  obtain ⟨blocks, opened, written⟩ := laid.laid
  have position : (session.step (.render true)).cursor.position =
      (session.step (.render true)).tracker.steps.length := by
    refine (position_writeFrom_closing _ _).trans ?_
    rw [List.length_drop, Nat.add_sub_of_le upTo]
    exact (length_sealBetween ..).symm
  have unopened : opened = [] := by
    refine not_not.mp (mt written.head.mpr fun head => ?_)
    exact Nat.ne_of_lt (laid.inside head) position
  refine ⟨blocks, written.position.symm.trans position, ?_, written.filled, fun entries member =>
    written.fits entries (List.mem_append_left _ member)⟩
  rw [written.text, unopened, entryChars, List.flatMap_nil, List.append_nil]

end Layout

theorem sealBetween_run (changes : List Tracker.Change) (first last : Nat) :
    sealBetween (Tracker.run changes) first last =
      Tracker.run (changes ++
        (List.range' first (last - first)).map fun position => .sealStep (position + 1)) := by
  rw [Tracker.run_append, List.foldl_map]
  rfl

/-- What a session does to its tracker is to apply its records and to seal steps. -/
theorem exists_changes (calls : List Call) :
    ∃ changes, (Session.run calls).tracker = Tracker.run changes ∧
      ∀ record, Tracker.Change.apply record ∈ changes → Call.apply record ∈ calls := by
  induction calls using List.reverseRecOn with
  | nil => exact ⟨[], rfl, fun _ member => absurd member List.not_mem_nil⟩
  | append_singleton calls call ih =>
      obtain ⟨changes, tracker, sent⟩ := ih
      rw [Session.run_concat]
      cases call with
      | apply record =>
          refine ⟨changes ++ [.apply record], ?_, fun other member => ?_⟩
          · rw [Tracker.run_concat, ← tracker]
            rfl
          · rcases List.mem_append.mp member with former | new
            · exact List.mem_append_left _ (sent other former)
            · cases List.mem_singleton.mp new
              exact List.mem_append_right _ (List.mem_singleton_self _)
      | render closing =>
          have sealed' := sealBetween_run changes (Session.run calls).cursor.position
            ((Session.run calls).step (.render closing)).cursor.position
          refine ⟨_, (congrArg (sealBetween · _ _) tracker).trans sealed', fun other member => ?_⟩
          rcases List.mem_append.mp member with former | new
          · exact List.mem_append_left _ (sent other former)
          · obtain ⟨position, -, same⟩ := List.mem_map.mp new
            cases same

/-- A session is laid out whatever is done in it. -/
theorem laid_run {fits : String → Prop} (oneLine : ∀ entry, OneLine entry → fits entry)
    {calls : List Call}
    (brought : ∀ record, .apply record ∈ calls → ∀ entry ∈ record.entry?, fits entry) :
    (Session.run calls).Laid fits := by
  induction calls using List.reverseRecOn with
  | nil => exact .start
  | append_singleton calls call ih =>
      have former : ∀ record, .apply record ∈ calls → ∀ entry ∈ record.entry?, fits entry :=
        fun record member => brought record (List.mem_append_left _ member)
      have laid := ih former
      rw [Session.run_concat]
      cases call with
      | apply record => exact laid.apply record
      | render closing =>
          obtain ⟨changes, tracker, sent⟩ := exists_changes calls
          have fitting := (Tracker.run_fitting oneLine fun record member =>
            former record (sent record member)).1
          rw [← tracker] at fitting
          exact laid.render (tracker ▸ (Tracker.booked_run changes).valid) fitting closing

/-- **Attribution.** When the response has ended, the transcript is one block for each step,
whatever has been taken in and whenever it has been written on. The entries of a block stand behind
the mark of its step, and an entry with newlines is a name, a completed operation or the message of
an error that a record has brought. If there is none of these, every line is attributed to its
step. -/
theorem run_attributed (calls : List Call) :
    let after := Session.run (calls ++ [.render true])
    ∃ blocks : List (List String),
      blocks.length = after.tracker.steps.length ∧ (∀ entries ∈ blocks, entries ≠ []) ∧
        after.text.toList.splitOn '\n' = pageLines blocks ++ [[]] ∧
        (∀ entries ∈ blocks, ∀ entry ∈ entries,
          OneLine entry ∨ ∃ record, .apply record ∈ calls ∧ record.entry? = some entry) ∧
        ((∀ record, .apply record ∈ calls → ∀ entry ∈ record.entry?, OneLine entry) →
          Attributed after.tracker.steps.length (pageLines blocks)) := by
  have last := Session.run_concat calls (.render true)
  have given {record : Record} (member : .apply record ∈ calls ++ [.render true]) :
      .apply record ∈ calls :=
    (List.mem_append.mp member).resolve_right fun closing => by
      cases List.mem_singleton.mp closing
  have laid : (Session.run calls).Laid fun _ => True := laid_run (fun _ _ => trivial)
    fun _ _ _ _ => trivial
  have closed : (Session.run (calls ++ [.render true])).Laid fun entry =>
      OneLine entry ∨ ∃ record, .apply record ∈ calls ∧ record.entry? = some entry :=
    laid_run (fun _ => Or.inl) fun record member entry brings =>
      Or.inr ⟨record, given member, brings⟩
  rw [last] at closed
  obtain ⟨blocks, count, text, filled, entries⟩ := closed.closed laid.upTo
  refine ⟨blocks, ?_, filled, ?_, entries, fun plain => ?_⟩
  · rw [last, count]
  · have split := splitOn_pageChars blocks []
    rw [List.append_nil] at split
    rw [last, text, split, List.splitOn_nil]
  · rw [last, ← count]
    refine attributed_pageLines filled fun block member entry among => ?_
    rcases entries block member entry among with oneLine | ⟨record, applied, brings⟩
    · exact oneLine
    · exact plain record applied entry brings

/-- A session that is closed once before a second step begins. -/
def reopened : List Call :=
  [.apply (.declared "a" "pull"), .apply (.operated "a" "layer" 0 0 true true), .render false,
    .render true, .apply (.declared "b" "build"), .apply (.printed "b" {} [120, 10, 121]),
    .apply (.completed "b" false none)]

theorem run_attributed_reopened :
    (∀ record, .apply record ∈ reopened → ∀ entry ∈ record.entry?, OneLine entry) ∧
      (Session.run (reopened ++ [.render true])).text =
        "#1 pull\n#1 layer: done\n\n#2 build\n#2 0.000 x\n#2 0.000 y\n#2 DONE\n\n" ∧
      ∃ blocks : List (List String),
        (Session.run (reopened ++ [.render true])).text.toList.splitOn '\n' =
            pageLines blocks ++ [[]] ∧
          Attributed (Session.run (reopened ++ [.render true])).tracker.steps.length
            (pageLines blocks) := by
  have plain : ∀ record, .apply record ∈ reopened → ∀ entry ∈ record.entry?, OneLine entry := by
    intro record member
    simp only [reopened, List.mem_cons, List.not_mem_nil, or_false, Call.apply.injEq, reduceCtorEq,
      false_or] at member
    rcases member with rfl | rfl | rfl | rfl | rfl <;> decide
  obtain ⟨blocks, -, -, lines, -, attributed⟩ := run_attributed reopened
  exact ⟨plain, by decide +kernel, blocks, lines, attributed plain⟩

/-- A step that has failed with a message of two lines. -/
def failing : List Call :=
  [.apply (.declared "a" "build"), .apply (.started "a" {}),
    .apply (.completed "a" false (some "exit code: 1\nsee log"))]

/-- The second line of a message has no mark. -/
theorem message_unattributed :
    ¬ ∀ calls : List Call, ∃ lines,
      (Session.run (calls ++ [.render true])).text.toList.splitOn '\n' = lines ++ [[]] ∧
        Attributed (Session.run (calls ++ [.render true])).tracker.steps.length lines := by
  intro always
  obtain ⟨lines, split, attributed⟩ := always failing
  have shown : (Session.run (failing ++ [.render true])).text.toList.splitOn '\n' =
      ["#1 build".toList, "#1 ERROR: exit code: 1".toList, "see log".toList, []] ++ [[]] := by
    decide +kernel
  have member : "see log".toList ∈ lines := by
    rw [← List.append_cancel_right (shown.symm.trans split)]
    decide
  rcases attributed.marked _ member with blank | ⟨number, -, -, rest, whole⟩
  · exact absurd blank (by decide)
  · exact absurd (congrArg List.head? whole) (by simp [mark])

end ContainerTasks.Progress.Transcript
