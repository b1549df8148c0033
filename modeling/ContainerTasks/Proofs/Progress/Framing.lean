import ContainerTasks.Proofs.Progress.Plan

/-! # How lines are put together

The lines of a response each end in a newline, with or without a carriage return before it,
and the last may end with the response. However lines are put together, reading takes in just
these (`linesOf_framed`), so it comes to the same (`read_framed`); and a response of such
lines can be put together in no other way, but for a carriage return at its very end
(`framed_of_linesOf`).
-/

namespace ContainerTasks.Progress.Response

/-- What can stand in a line: no newline, and at the end no carriage return. -/
structure Plain (content : Bytes) : Prop where
  unbroken : 10 ∉ content
  unreturned : content.getLast? ≠ some 13

/-- The bytes that lines with these contents can be put together to. -/
inductive Framed (ending : Ending) : (contents : List Bytes) → (input : Bytes) → Prop
  | done : Framed ending [] []
  | newline {content : Bytes} {contents : List Bytes} {input : Bytes}
      (later : Framed ending contents input) :
      Framed ending (content :: contents) (content ++ 10 :: input)
  | returned {content : Bytes} {contents : List Bytes} {input : Bytes}
      (later : Framed ending contents input) :
      Framed ending (content :: contents) (content ++ 13 :: 10 :: input)
  /-- The end of a response ends a line that is not empty. -/
  | unended {content : Bytes} (closed : ending = .closed) (inhabited : content ≠ []) :
      Framed ending [content] content

section DropReturn

variable {line content : Bytes}

theorem dropReturn_of_unreturned (unreturned : line.getLast? ≠ some 13) : dropReturn line = line :=
  if_neg unreturned

theorem dropReturn_append_return (content : Bytes) : dropReturn (content ++ [13]) = content := by
  rw [dropReturn, List.getLast?_concat, if_pos rfl, List.dropLast_concat]

/-- A line has one carriage return more than its content, or none. -/
theorem eq_of_dropReturn (same : dropReturn line = content) :
    line = content ∨ line = content ++ [13] := by
  by_cases ends : line.getLast? = some 13
  · obtain ⟨front, rfl⟩ := List.getLast?_eq_some_iff.mp ends
    rw [dropReturn_append_return] at same
    exact Or.inr (by rw [same])
  · rw [dropReturn_of_unreturned ends] at same
    exact Or.inl same

end DropReturn

variable {ending : Ending} {contents : List Bytes} {input : Bytes}

/-- A response is read line by line, however its lines were put together. -/
theorem linesOf_framed (plain : ∀ content ∈ contents, Plain content)
    (framed : Framed ending contents input) : linesOf ending input = contents := by
  induction framed with
  | done => cases ending <;> rfl
  | @newline content _ _ later ih =>
      obtain ⟨first, rest⟩ := List.forall_mem_cons.mp plain
      rw [linesOf_append ending first.unbroken, dropReturn_of_unreturned first.unreturned, ih rest]
  | @returned content contents input later ih =>
      obtain ⟨first, rest⟩ := List.forall_mem_cons.mp plain
      have unbroken : 10 ∉ content ++ [13] := by
        exact fun member => (List.mem_append.mp member).elim first.unbroken (by decide)
      have split : content ++ 13 :: 10 :: input = (content ++ [13]) ++ 10 :: input := by
        rw [List.append_assoc, List.singleton_append]
      rw [split, linesOf_append ending unbroken, dropReturn_append_return, ih rest]
  | @unended content closed inhabited =>
      have last := plain content (List.mem_singleton_self content)
      subst closed
      rw [linesOf_unbroken last.unbroken, dropReturn_of_unreturned last.unreturned, if_neg]
      rwa [List.isEmpty_iff]

/-- Bytes that do not end in a carriage return are their lines put together. -/
theorem framed_of_linesOf (plain : ∀ content ∈ contents, Plain content)
    (unreturned : input.getLast? ≠ some 13) (lines : linesOf .closed input = contents) :
    Framed .closed contents input := by
  induction contents generalizing input with
  | nil =>
      by_cases broken : 10 ∈ input
      · obtain ⟨line, rest, rfl, unbroken⟩ := List.eq_append_cons_of_mem broken
        rw [linesOf_append .closed unbroken] at lines
        cases lines
      · cases input with
        | nil => exact .done
        | cons byte rest =>
            rw [linesOf_unbroken broken] at lines
            cases lines
  | cons content contents ih =>
      by_cases broken : 10 ∈ input
      · obtain ⟨line, rest, rfl, unbroken⟩ := List.eq_append_cons_of_mem broken
        rw [linesOf_append .closed unbroken] at lines
        obtain ⟨first, more⟩ := List.cons_eq_cons.mp lines
        have unreturnedRest : rest.getLast? ≠ some 13 := by
          cases rest with
          | nil => exact nofun
          | cons byte rest => rwa [List.getLast?_append, List.getLast?_cons_cons] at unreturned
        have later := ih (fun other member => plain other (List.mem_cons_of_mem _ member))
          unreturnedRest more
        rcases eq_of_dropReturn first with rfl | rfl
        · exact .newline later
        · rw [List.append_assoc, List.singleton_append]
          exact .returned later
      · rw [linesOf_unbroken broken, dropReturn_of_unreturned unreturned] at lines
        cases input with
        | nil => cases lines
        | cons byte rest =>
            obtain ⟨rfl, rfl⟩ := List.cons_eq_cons.mp lines
            exact .unended rfl (List.cons_ne_nil byte rest)

/-- **Lines however put together.** A reading takes in the contents of the lines one after
the other, empty ones like all others, so whichever way the lines end it writes and tells the
same and comes to the same result. -/
theorem read_framed (conditions : Conditions) (passthrough : Bool)
    (plain : ∀ content ∈ contents, Plain content)
    (framed : Framed conditions.ending contents input) :
    linesOf conditions.ending input = contents ∧
      read conditions passthrough input =
        readLines conditions passthrough {} [] [] contents ∧
      ∀ other, Framed conditions.ending contents other →
        read conditions passthrough other = read conditions passthrough input := by
  have same : ∀ other, Framed conditions.ending contents other →
      read conditions passthrough other = readLines conditions passthrough {} [] [] contents := by
    intro other framed
    rw [read, linesOf_framed plain framed]
  exact ⟨linesOf_framed plain framed, same input framed,
    fun other others => (same other others).trans (same input framed).symm⟩

/-- Two lines, the second of them empty and refused, with a carriage return behind either. -/
theorem read_framed_mixed :
    let content := Text.Utf8.ofString "\x7b\"stream\":\"pulled\"\x7d"
    let input := content ++ [13, 10, 10]
    let other := content ++ [10, 13, 10]
    (∀ line ∈ [content, []], Plain line) ∧ Framed .closed [content, []] input ∧
      Framed .closed [content, []] other ∧
      linesOf .closed input = [content, []] ∧
      (read {} true input).trail = [.write "pulled"] ∧
      (read {} true input).result = .error (.malformedLine "\"\"") ∧
      read {} true other = read {} true input := by
  intro content input other
  have plain : ∀ line ∈ [content, []], Plain line := by
    refine List.forall_mem_cons.mpr ⟨⟨?_, ?_⟩, List.forall_mem_singleton.mpr ⟨?_, ?_⟩⟩
    all_goals decide +kernel
  have empty : Framed .closed [[]] [10] := @Framed.newline _ [] _ _ .done
  have emptyOther : Framed .closed [[]] [13, 10] := @Framed.returned _ [] _ _ .done
  have framed : Framed .closed [content, []] input := .returned empty
  have framedOther : Framed .closed [content, []] other := .newline emptyOther
  obtain ⟨lines, reads, same⟩ := read_framed {} true plain framed
  refine ⟨plain, framed, framedOther, lines, ?_, ?_, same other framedOther⟩
  · rw [reads]
    decide +kernel
  · rw [reads]
    decide +kernel

end ContainerTasks.Progress.Response
