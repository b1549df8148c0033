import ContainerTasks.Proofs.Progress.Intake
import ContainerTasks.Proofs.Text.Newlines

/-! # The lines of a step

What a step shows beside its head are details: an operation that is complete, or a piece of
output. Each record it takes in adds one detail at most, behind those that are there
(`Detail.ofRecords`). An operation is shown once, when it is first reported complete, and
output gives one line for each of its own, behind the time since the step started. So the lines
of a step say what it has taken in, no less and nothing twice (`run_details`).
-/

namespace ContainerTasks.Progress

open Text.Utf8 (decodeLossy)

/-- Milliseconds below a second have three digits. -/
theorem length_threeDigits {n : Nat} (small : n < 1000) : (threeDigits n).length = 3 := by
  have digits : (toString n).length = (Nat.toDigits 10 n).length := String.length_ofList
  have positive := @Nat.length_toDigits_pos 10 n
  have one := @Nat.length_toDigits_le_iff 10 n 1 (by decide) (by decide)
  have two := @Nat.length_toDigits_le_iff 10 n 2 (by decide) (by decide)
  have three := @Nat.length_toDigits_le_iff 10 n 3 (by decide) (by decide)
  have pair : "00".length = 2 := rfl
  have single : "0".length = 1 := rfl
  have empty : "".length = 0 := rfl
  rw [threeDigits, String.length_append, digits]
  split_ifs <;> omega

namespace Step

theorem splitLines_eq_splitOn (chars : List Char) : splitLines chars = chars.splitOn '\n' := by
  induction chars with
  | nil => rfl
  | cons c rest ih =>
      rw [splitLines, ih, List.splitOn_eq_splitOnP, List.splitOn_eq_splitOnP,
        List.splitOnP_cons_eq_if_modifyHead]
      by_cases newline : c = '\n'
      · rw [if_pos newline, if_pos (beq_iff_eq.mpr newline)]
      · rw [if_neg newline, if_neg (mt beq_iff_eq.mp newline)]
        cases split : rest.splitOnP (· == '\n') with
        | nil => exact (List.splitOnP_ne_nil _ _ split).elim
        | cons line more => rfl

/-- A text has one line more than it has newlines. -/
theorem length_splitLines (chars : List Char) :
    (splitLines chars).length = chars.count '\n' + 1 := by
  induction chars with
  | nil => rfl
  | cons c rest ih =>
      rw [splitLines]
      by_cases newline : c = '\n'
      · rw [if_pos newline, newline, List.count_cons_self, List.length_cons, ih]
      · rw [if_neg newline, List.count_cons_of_ne newline, ← ih]
        cases split : splitLines rest with
        | nil =>
            rw [split] at ih
            cases ih
        | cons line more => rfl

/-- The lines that output adds, without the time in front of them. -/
def texts (data : Bytes) : List (List Char) :=
  splitLines (dropNewline (decodeLossy data))

theorem dropNewline_concat (chars : List Char) : dropNewline (chars ++ ['\n']) = chars := by
  rw [dropNewline, List.getLast?_concat, if_pos rfl, List.dropLast_concat]

/-- Output has a line for each newline, and one more if it does not end with one. -/
theorem length_texts (data : Bytes) :
    (texts data).length = data.count 10 + if data.getLast? = some 10 then 0 else 1 := by
  rw [texts, length_splitLines, ← Text.Utf8.count_newline_decodeLossy]
  by_cases ends : data.getLast? = some 10
  · obtain ⟨before, whole⟩ :=
      List.getLast?_eq_some_iff.mp ((Text.Utf8.getLast?_decodeLossy data).mpr ends)
    rw [if_pos ends, whole, dropNewline_concat, List.count_append, List.count_singleton_self,
      Nat.add_zero]
  · rw [if_neg ends, dropNewline, if_neg (mt (Text.Utf8.getLast?_decodeLossy data).mp ends)]

/-- Joined by newlines, the lines of output are its text without a newline at its end. -/
theorem intercalate_texts (data : Bytes) :
    ['\n'].intercalate (texts data) ++ (if data.getLast? = some 10 then ['\n'] else []) =
      decodeLossy data := by
  rw [texts, splitLines_eq_splitOn, List.intercalate_splitOn]
  by_cases ends : data.getLast? = some 10
  · obtain ⟨before, whole⟩ :=
      List.getLast?_eq_some_iff.mp ((Text.Utf8.getLast?_decodeLossy data).mpr ends)
    rw [if_pos ends, whole, dropNewline_concat]
  · rw [if_neg ends, dropNewline, if_neg (mt (Text.Utf8.getLast?_decodeLossy data).mp ends),
      List.append_nil]

end Step

/-- A step holds an operation once it has been reported complete. -/
theorem Step.contains_finished_operate (step : Step) (text other : String) (current total : Int64)
    (isCompleted : Bool) :
    (step.operate text current total isCompleted).finished.contains other = true ↔
      step.finished.contains other = true ∨ isCompleted = true ∧ text = other := by
  rw [operate_fields]
  dsimp only
  cases isCompleted with
  | false => simp
  | true =>
      cases held : step.finished.contains text with
      | false =>
          rw [Bool.not_false, Bool.and_true, if_pos rfl, Std.ExtTreeSet.contains_insert,
            Bool.or_eq_true, beq_iff_eq, Std.LawfulEqCmp.compare_eq_iff_eq, or_comm]
          simp only [true_and]
      | true =>
          -- Nothing is inserted, as the operation is held already.
          simp only [Bool.not_true, Bool.and_false, Bool.false_eq_true, ↓reduceIte, true_and,
            iff_self_or]
          rintro rfl
          exact held

namespace Record

/-- The operation that a record reports complete. -/
def completedText? : Record → Option String
  | .operated _ text _ _ _ isCompleted => if isCompleted then some text else none
  | .declared .. | .started .. | .completed .. | .printed .. => none

/-- The start that a record reports. -/
def startTime? : Record → Option Instant
  | .started _ time => some time
  | .declared .. | .completed .. | .operated .. | .printed .. => none

/-- The output that a record brings, if it is not empty. -/
def output? : Record → Option Bytes
  | .printed _ _ data => if data = [] then none else some data
  | .declared .. | .started .. | .completed .. | .operated .. => none

end Record

/-- What a step shows beside its head: an operation that is complete, or output that came so many
milliseconds after the start. -/
inductive Detail
  | finished (text : String)
  | output (millis : Nat) (data : Bytes)

namespace Detail

/-- The operation that is shown. -/
def text? : Detail → Option String
  | finished text => some text
  | output .. => none

/-- The output that is shown. -/
def data? : Detail → Option Bytes
  | finished _ => none
  | output _ data => some data

/-- The lines of a detail. -/
def lines : Detail → List String
  | finished text => [text ++ ": done"]
  | output millis data =>
    (Step.texts data).map fun line => secondsText millis ++ " " ++ String.ofList line

/-- Milliseconds from the start of a step to a time. A step that has not started lets no time
pass. -/
def offset (time : Instant) : Option Instant → Nat
  | none => 0
  | some start => (time.toNanos - start.toNanos) / 1000000

theorem millisSince_start (time : Instant) (start : Option Instant) :
    time.millisSince (start.getD time) = offset time start := by
  cases start with
  | none => rw [Option.getD_none, Instant.millisSince, Nat.sub_self, Nat.zero_div, offset]
  | some start => rfl

/-- The detail that a record adds behind earlier ones. An operation is shown when it is first
reported complete. -/
def ofRecord? (earlier : List Record) : Record → Option Detail
  | .operated _ text _ _ _ isCompleted =>
    if isCompleted = true ∧ text ∉ earlier.filterMap Record.completedText? then
      some (finished text)
    else none
  | .printed _ time data =>
    if data = [] then none
    else some (output (offset time (earlier.findSome? Record.startTime?)) data)
  | .declared .. | .started .. | .completed .. => none

/-- The details that records add behind earlier ones. -/
def ofRecords (earlier : List Record) : List Record → List Detail
  | [] => []
  | record :: later => (ofRecord? earlier record).toList ++ ofRecords (earlier ++ [record]) later

theorem ofRecords_append (earlier first second : List Record) :
    ofRecords earlier (first ++ second) =
      ofRecords earlier first ++ ofRecords (earlier ++ first) second := by
  induction first generalizing earlier with
  | nil => rw [List.nil_append, ofRecords, List.nil_append, List.append_nil]
  | cons record rest ih =>
      rw [List.cons_append, ofRecords, ofRecords, ih, List.append_assoc, List.append_assoc,
        List.singleton_append]

theorem ofRecords_concat (records : List Record) (record : Record) :
    ofRecords [] (records ++ [record]) =
      ofRecords [] records ++ (ofRecord? records record).toList := by
  rw [ofRecords_append, List.nil_append, ofRecords, ofRecords, List.append_nil]

theorem eraseDups_concat (texts : List String) (text : String) :
    (texts ++ [text]).eraseDups = texts.eraseDups ++ if text ∈ texts then [] else [text] := by
  rw [List.eraseDups_append]
  congr 1
  by_cases seen : text ∈ texts
  · rw [if_pos seen]
    simp [List.removeAll, seen]
  · rw [if_neg seen]
    simp [List.removeAll, seen, List.eraseDups_cons]

theorem ofRecord?_text (earlier : List Record) (record : Record) :
    ((ofRecord? earlier record).toList.filterMap text?) =
      match record.completedText? with
      | some text => if text ∈ earlier.filterMap Record.completedText? then [] else [text]
      | none => [] := by
  cases record with
  | declared | started | completed => rfl
  | printed vertex time data =>
      dsimp only [ofRecord?, Record.completedText?]
      split <;> rfl
  | operated vertex text current total isStarted isCompleted =>
      dsimp only [ofRecord?, Record.completedText?]
      cases isCompleted with
      | false => rfl
      | true =>
          by_cases seen : text ∈ earlier.filterMap Record.completedText?
          · rw [if_neg fun first => first.2 seen]
            exact (if_pos seen).symm
          · rw [if_pos ⟨rfl, seen⟩]
            exact (if_neg seen).symm

/-- Each operation that is ever reported complete is shown once, in the order in which they were
first complete. -/
theorem texts_ofRecords (records : List Record) :
    (ofRecords [] records).filterMap text? =
      (records.filterMap Record.completedText?).eraseDups := by
  induction records using List.reverseRecOn with
  | nil => rfl
  | append_singleton records record ih =>
      rw [ofRecords_concat, List.filterMap_append, ih, List.filterMap_append, ofRecord?_text]
      cases completes : record.completedText? with
      | none => rw [List.filterMap_cons_none completes, List.filterMap_nil, List.append_nil,
          List.append_nil]
      | some text =>
          rw [List.filterMap_cons_some completes, List.filterMap_nil, eraseDups_concat]

/-- All output is shown that is not empty. -/
theorem data_ofRecords (records : List Record) :
    (ofRecords [] records).filterMap data? = records.filterMap Record.output? := by
  induction records using List.reverseRecOn with
  | nil => rfl
  | append_singleton records record ih =>
      rw [ofRecords_concat, List.filterMap_append, ih, List.filterMap_append]
      congr 1
      cases record with
      | declared | started | completed => rfl
      | operated vertex text current total isStarted isCompleted =>
          dsimp only [ofRecord?]
          split <;> rfl
      | printed vertex time data =>
          by_cases empty : data = []
          · simp [ofRecord?, Record.output?, empty]
          · simp [ofRecord?, Record.output?, empty, data?]

end Detail

/-- The lines of a step are those of the details that it has taken in, it holds the operations
that are complete, and it has the first start, unless it is sealed. -/
structure Step.Shows (step : Step) (records : List Record) : Prop where
  lines : step.lines = (Detail.ofRecords [] records).flatMap Detail.lines
  finished : ∀ text, step.finished.contains text = true ↔
    text ∈ records.filterMap Record.completedText?
  started : step.isSealed = false → step.startedAt = records.findSome? Record.startTime?

namespace Step.Shows

variable {step later : Step} {records : List Record} (shows : step.Shows records)

include shows

theorem concat {record : Record}
    (lines : later.lines = step.lines ++
      (Detail.ofRecord? records record).toList.flatMap Detail.lines)
    (finished : ∀ text, later.finished.contains text = true ↔
      step.finished.contains text = true ∨ record.completedText? = some text)
    (started : later.isSealed = false → step.isSealed = false ∧
      later.startedAt = step.startedAt.or record.startTime?) :
    later.Shows (records ++ [record]) where
  lines := by
    rw [lines, shows.lines, Detail.ofRecords_concat, List.flatMap_append]
  finished := by
    intro text
    rw [finished, shows.finished, List.filterMap_append, List.mem_append]
    simp only [List.mem_filterMap, List.mem_singleton, exists_eq_left]
  started := by
    intro unsealed
    obtain ⟨formerly, same⟩ := started unsealed
    rw [same, shows.started formerly, List.findSome?_append, List.findSome?_singleton]

/-- A step has not shown an operation yet if its intake does not have it complete. -/
theorem shown_iff (text : String) (isCompleted : Bool) :
    (isCompleted && !step.finished.contains text) = true ↔
      isCompleted = true ∧ text ∉ records.filterMap Record.completedText? := by
  rw [Bool.and_eq_true, Bool.not_eq_true', ← shows.finished, Bool.not_eq_true]

/-- A report about an operation adds its line when it is first complete. -/
theorem operate {vertex text : String} {current total : Int64} {isStarted isCompleted : Bool}
    (unsealed : step.isSealed = false) :
    (step.operate text current total isCompleted).Shows
      (records ++ [.operated vertex text current total isStarted isCompleted]) := by
  rw [Step.operate_fields]
  have shown := shows.shown_iff text isCompleted
  refine shows.concat ?_ (fun other => ?_) (fun _ => ⟨unsealed, Option.or_none.symm⟩)
  · dsimp only [Detail.ofRecord?]
    by_cases first : isCompleted = true ∧ text ∉ records.filterMap Record.completedText?
    · rw [if_pos (shown.mpr first), if_pos first]
      rfl
    · rw [if_neg (mt shown.mp first), if_neg first]
      rfl
  · rw [← Step.operate_fields, step.contains_finished_operate, Record.completedText?,
      Option.ite_none_right_eq_some, Option.some.injEq]

/-- Output adds its lines behind the time since the start. -/
theorem print {vertex : String} {time : Instant} {data : Bytes}
    (unsealed : step.isSealed = false) :
    (step.print time data).Shows (records ++ [.printed vertex time data]) := by
  rw [Step.print]
  by_cases empty : data = []
  · rw [if_pos (List.isEmpty_iff.mpr empty)]
    refine shows.concat ?_ (fun text => ?_) (fun _ => ⟨unsealed, Option.or_none.symm⟩)
    · rw [Detail.ofRecord?, if_pos empty]
      exact (List.append_nil _).symm
    · exact (or_iff_left (Option.some_ne_none text).symm).symm
  · rw [if_neg (mt List.isEmpty_iff.mp empty)]
    refine shows.concat ?_ (fun text => ?_) (fun _ => ⟨unsealed, Option.or_none.symm⟩)
    · rw [Detail.ofRecord?, if_neg empty, ← shows.started unsealed, Option.toList_some,
        List.flatMap_singleton, Detail.lines, ← Detail.millisSince_start]
      rfl
    · exact (or_iff_left (Option.some_ne_none text).symm).symm

end Step.Shows

namespace Tracker

theorem kept_shows : Kept Step.Shows where
  begins := by
    intro vertex index name
    refine ⟨rfl, fun text => ?_, fun _ => rfl⟩
    simp
  takes := by
    intro step records record unsealed activity shows
    have isOpen : ¬ step.isSealed = true := Bool.eq_false_iff.mp unsealed
    cases record with
    | declared vertex name => cases activity
    | started vertex time =>
        refine shows.concat (List.append_nil _).symm (fun text => ?_) (fun _ => ⟨unsealed, rfl⟩)
        exact (or_iff_left (Option.some_ne_none text).symm).symm
    | completed vertex cached error =>
        rw [Step.take, if_neg isOpen]
        refine shows.concat (List.append_nil _).symm (fun text => ?_) (fun _ => ⟨unsealed, ?_⟩)
        · exact (or_iff_left (Option.some_ne_none text).symm).symm
        · exact Option.or_none.symm
    | operated vertex text current total isStarted isCompleted =>
        rw [Step.take, if_neg isOpen]
        exact shows.operate unsealed
    | printed vertex time data =>
        rw [Step.take, if_neg isOpen]
        exact shows.print unsealed
  renamed := by
    intro step records name shows
    unfold Step.rename
    split
    · exact ⟨shows.lines, shows.finished, shows.started⟩
    · exact shows
  closed := fun shows => ⟨shows.lines, shows.finished, nofun⟩
  startedLate := by
    intro step records time isSealed shows
    refine ⟨shows.lines, shows.finished, fun unsealed => ?_⟩
    exact (Bool.false_ne_true (unsealed.symm.trans isSealed)).elim

/-- The details that a step has taken in. -/
def detailsOf (step : Step) (changes : List Change) : List Detail :=
  Detail.ofRecords [] (intake step.vertex step.index changes)

/-- The detail that the next change adds to a step: none if the step is sealed or the change does
not show its vertex at work. -/
def addition? (step : Step) (changes : List Change) (next : Change) : Option Detail :=
  if step.isSealed then none
  else (next.work? step.vertex).bind (Detail.ofRecord? (intake step.vertex step.index changes))

theorem detailsOf_concat {changes : List Change} {step : Step} (member : step ∈ (run changes).steps)
    (next : Change) :
    detailsOf (step.undergo next) (changes ++ [next]) =
      detailsOf step changes ++ (addition? step changes next).toList := by
  unfold detailsOf addition?
  rw [Step.vertex_undergo, Step.index_undergo, intake_concat member]
  cases step.isSealed with
  | true => rw [if_pos rfl, if_pos rfl, List.append_nil, Option.toList_none, List.append_nil]
  | false =>
      rw [if_neg Bool.false_ne_true, if_neg Bool.false_ne_true]
      cases next.work? step.vertex with
      | none => rw [Option.toList_none, List.append_nil, Option.bind_none, Option.toList_none,
          List.append_nil]
      | some record => rw [Option.toList_some, Detail.ofRecords_concat, Option.bind_some]

/-- **The lines of a step.** They are those of the details it has taken in: each operation that
has been reported complete, once and in the order in which they first were, and all output
that is not empty. Output has a line for each newline, and one more if it does not end with one,
all behind the same time. Without this time they are the text of the output. Whatever is
done next, at most one detail comes behind those that are there. -/
theorem run_details (changes : List Change) :
    ∀ step ∈ (run changes).steps,
      step.lines = (detailsOf step changes).flatMap Detail.lines ∧
        (detailsOf step changes).filterMap Detail.text? =
          ((intake step.vertex step.index changes).filterMap Record.completedText?).eraseDups ∧
        (detailsOf step changes).filterMap Detail.data? =
          (intake step.vertex step.index changes).filterMap Record.output? ∧
        (∀ (millis : Nat) (data : Bytes), ∃ shown : List (List Char),
          (Detail.output millis data).lines =
              shown.map (fun line => toString (millis / 1000) ++ "." ++
                threeDigits (millis % 1000) ++ " " ++ String.ofList line) ∧
            (threeDigits (millis % 1000)).length = 3 ∧
            shown.length = data.count 10 + (if data.getLast? = some 10 then 0 else 1) ∧
            ['\n'].intercalate shown ++ (if data.getLast? = some 10 then ['\n'] else []) =
              decodeLossy data) ∧
        ∀ next : Change, ∃ later ∈ (run (changes ++ [next])).steps,
          later.vertex = step.vertex ∧ later.index = step.index ∧
            detailsOf later (changes ++ [next]) =
              detailsOf step changes ++ (addition? step changes next).toList ∧
            later.lines =
              step.lines ++ (addition? step changes next).toList.flatMap Detail.lines := by
  intro step member
  have lines := (kept_shows.run changes step member).lines
  refine ⟨lines, Detail.texts_ofRecords _, Detail.data_ofRecords _, ?_, ?_⟩
  · intro millis data
    exact ⟨Step.texts data, rfl, length_threeDigits (Nat.mod_lt _ (by decide)),
      Step.length_texts data, Step.intercalate_texts data⟩
  · intro next
    have present := undergo_mem_run member next
    have grown := detailsOf_concat member next
    refine ⟨step.undergo next, present, step.vertex_undergo next, step.index_undergo next,
      grown, ?_⟩
    have later := (kept_shows.run (changes ++ [next]) _ present).lines
    rw [later, lines, ← List.flatMap_append]
    exact congrArg (List.flatMap Detail.lines) grown

/-- A vertex that starts twice, reports an operation complete twice, and brings output whose second
piece comes before the start. -/
def chatty : List Change :=
  [.apply (.declared "a" "build"), .apply (.started "a" ⟨10, 0⟩),
    .apply (.printed "a" ⟨11, 500000000⟩ [120, 10, 121, 10]),
    .apply (.operated "a" "layer" 0 0 true true), .apply (.started "a" ⟨3, 0⟩),
    .apply (.operated "a" "layer" 0 0 true true), .apply (.printed "a" ⟨9, 0⟩ [122])]

theorem run_details_chatty :
    ∃ step ∈ (run chatty).steps,
      step.lines = ["1.500 x", "1.500 y", "layer: done", "0.000 z"] ∧
        ∃ later ∈ (run (chatty ++ [.apply (.printed "a" ⟨10, 42000000⟩ [10, 10])])).steps,
          later.lines = step.lines ++ ["0.042 ", "0.042 "] := by
  have only : (run chatty).steps.map (fun step => (step.vertex, step.index, step.isSealed)) =
      [("a", 1, false)] := by
    decide +kernel
  obtain ⟨step, member, same⟩ := List.mem_map.mp (only ▸ List.mem_singleton_self ("a", 1, false))
  simp only [Prod.mk.injEq] at same
  obtain ⟨vertex, index, unsealed⟩ := same
  obtain ⟨lines, -, -, -, grows⟩ := run_details chatty step member
  obtain ⟨later, present, -, -, -, more⟩ :=
    grows (.apply (.printed "a" ⟨10, 42000000⟩ [10, 10]))
  refine ⟨step, member, ?_, later, present, ?_⟩
  · rw [lines, detailsOf, vertex, index]
    decide +kernel
  · rw [more, addition?, unsealed, vertex, index]
    refine congrArg (step.lines ++ ·) ?_
    decide +kernel

end Tracker

end ContainerTasks.Progress
