import ContainerTasks.Proofs.Progress.Details

/-! # The times in front of output

Each piece of output stands behind the time since the step started, and both times are clamped to
the epoch, their seconds and their nanoseconds each on its own. So a time before the epoch counts
as its part of a second and not as the epoch, unless it is a whole second (`Timestamp.counted`).
Apart from such times, later output has no smaller time in front of it (`run_offsets`).
-/

namespace ContainerTasks.Progress

namespace Timestamp

/-- The part of a second is less than a second and not negative. -/
def Proper (time : Timestamp) : Prop :=
  0 ≤ time.nanos.toInt ∧ time.nanos.toInt ≤ 999999999

/-- Nanoseconds from the epoch, negative before it. -/
def toNanos (time : Timestamp) : Int :=
  time.seconds.toInt * 1000000000 + time.nanos.toInt

/-- The nanoseconds that a timestamp counts as. -/
def counted (time : Timestamp) : Int :=
  if 0 ≤ time.seconds.toInt then time.toNanos else time.nanos.toInt

/-- A timestamp is not before the epoch, or it is a whole number of seconds. -/
def Regular (time : Timestamp) : Prop :=
  0 ≤ time.seconds.toInt ∨ time.nanos.toInt = 0

namespace Proper

variable {time : Timestamp} (proper : time.Proper)

include proper

theorem toNanos_sinceEpoch : (time.sinceEpoch.toNanos : Int) = time.counted := by
  obtain ⟨positive, within⟩ := proper
  unfold counted toNanos
  simp only [sinceEpoch, Instant.toNanos, nanosPerSecond]
  split <;> omega

/-- No timestamp counts as less than it should. -/
theorem max_le_counted : max time.toNanos 0 ≤ time.counted := by
  obtain ⟨positive, within⟩ := proper
  unfold counted toNanos
  split <;> omega

/-- The regular timestamps are those for which the epoch is what a time before it counts as. -/
theorem counted_eq_iff : time.counted = max time.toNanos 0 ↔ time.Regular := by
  obtain ⟨positive, within⟩ := proper
  unfold counted Regular toNanos
  split <;> omega

end Proper

end Timestamp

namespace Tracker

/-- At a place of its intake a step has output that is not empty, and the vertex had started
before. -/
structure Logged (step : Step) (changes : List Change) (start : Timestamp) (place : Nat)
    (time : Timestamp) (data : Bytes) : Prop where
  taken : (intake step.vertex step.index changes)[place]? =
    some (.printed step.vertex time.sinceEpoch data)
  content : data ≠ []
  started : ((intake step.vertex step.index changes).take place).findSome? Record.startTime? =
    some start.sinceEpoch
  proper : time.Proper

/-- The lines that a step shows of what it has taken in before a place. -/
def linesBefore (step : Step) (changes : List Change) (place : Nat) : List String :=
  (Detail.ofRecords [] ((intake step.vertex step.index changes).take place)).flatMap Detail.lines

variable {changes : List Change} {step : Step} {start time : Timestamp} {place : Nat} {data : Bytes}

/-- The lines of output stand behind those of what was taken in earlier. -/
theorem Logged.lines (logged : Logged step changes start place time data)
    (member : step ∈ (run changes).steps) :
    ∃ later, step.lines = linesBefore step changes place ++
      (Detail.output (time.sinceEpoch.millisSince start.sinceEpoch) data).lines ++ later := by
  obtain ⟨inside, here⟩ := List.getElem?_eq_some_iff.mp logged.taken
  have detail : Detail.ofRecord? ((intake step.vertex step.index changes).take place)
      (.printed step.vertex time.sinceEpoch data) =
        some (.output (time.sinceEpoch.millisSince start.sinceEpoch) data) := by
    rw [Detail.ofRecord?, if_neg logged.content, logged.started]
    rfl
  have split := List.take_append_drop place (intake step.vertex step.index changes)
  rw [List.drop_eq_getElem_cons inside, here] at split
  have lines := (kept_shows.run changes step member).lines
  rw [← split, Detail.ofRecords_append, List.nil_append, Detail.ofRecords, detail,
    Option.toList_some, List.flatMap_append, List.flatMap_append, List.flatMap_singleton,
    ← List.append_assoc] at lines
  exact ⟨_, lines⟩

/-- **Offsets.** Output that a step takes in after its start is shown behind the milliseconds
between what the two times count as. Where no time before the epoch has a part of a second, these
are the milliseconds between them, with the epoch in place of what lies before it, and output of a
later time does not have less of them. -/
theorem run_offsets (member : step ∈ (run changes).steps) (proper : start.Proper)
    (logged : Logged step changes start place time data) :
    let offset := (time.counted - start.counted).toNat / 1000000
    (∃ later, step.lines =
        linesBefore step changes place ++ (Detail.output offset data).lines ++ later) ∧
      (time.Regular → start.Regular →
        offset = (max 0 (max time.toNanos 0 - max start.toNanos 0)).toNat / 1000000) ∧
      ∀ {place' : Nat} {time' : Timestamp} {data' : Bytes},
        Logged step changes start place' time' data' → time.Regular →
          time.toNanos ≤ time'.toNanos →
            offset ≤ (time'.counted - start.counted).toNat / 1000000 := by
  have own := logged.proper.toNanos_sinceEpoch
  have first := proper.toNanos_sinceEpoch
  refine ⟨?_, ?_, ?_⟩
  · obtain ⟨later, lines⟩ := logged.lines member
    refine ⟨later, ?_⟩
    have millis : time.sinceEpoch.millisSince start.sinceEpoch =
        (time.counted - start.counted).toNat / 1000000 := by
      rw [Instant.millisSince, ← own, ← first, Int.toNat_sub]
    rwa [millis] at lines
  · intro regular regularStart
    rw [logged.proper.counted_eq_iff.mpr regular, proper.counted_eq_iff.mpr regularStart]
    congr 1
    omega
  · intro place' time' data' logged' regular ordered
    have exact := logged.proper.counted_eq_iff.mpr regular
    have least := logged'.proper.max_le_counted
    refine Nat.div_le_div_right (Int.toNat_le_toNat ?_)
    omega

/-- A vertex that started five seconds before the epoch, and two pieces of output. -/
def earlyStart (first second : Timestamp) : List Change :=
  (Record.ofUpdate
    { vertices := [{ digest := "v", started := some ⟨-5, 0⟩ }]
      printed := [{ vertex := "v", timestamp := some first, message := [120] },
        { vertex := "v", timestamp := some second, message := [121] }] }).map .apply

theorem intake_earlyStart (first second : Timestamp) :
    intake "v" 1 (earlyStart first second) =
      [.started "v" {}, .printed "v" first.sinceEpoch [120],
        .printed "v" second.sinceEpoch [121]] :=
  rfl

theorem logged_earlyStart {first second : Timestamp} (vertex : step.vertex = "v")
    (index : step.index = 1) (proper : first.Proper) (proper' : second.Proper) :
    Logged step (earlyStart first second) ⟨-5, 0⟩ 1 first [120] ∧
      Logged step (earlyStart first second) ⟨-5, 0⟩ 2 second [121] := by
  have records := intake_earlyStart first second
  rw [← vertex, ← index] at records
  constructor
  · refine ⟨?_, List.cons_ne_nil _ _, ?_, proper⟩
    · rw [records, vertex]
      rfl
    · rw [records]
      rfl
  · refine ⟨?_, List.cons_ne_nil _ _, ?_, proper'⟩
    · rw [records, vertex]
      rfl
    · rw [records]
      rfl

theorem run_offsets_earlyStart :
    ∃ step ∈ (run (earlyStart ⟨-1, 0⟩ ⟨1, 500000000⟩)).steps,
      Logged step (earlyStart ⟨-1, 0⟩ ⟨1, 500000000⟩) ⟨-5, 0⟩ 1 ⟨-1, 0⟩ [120] ∧
        Logged step (earlyStart ⟨-1, 0⟩ ⟨1, 500000000⟩) ⟨-5, 0⟩ 2 ⟨1, 500000000⟩ [121] ∧
        (∃ later, step.lines = linesBefore step (earlyStart ⟨-1, 0⟩ ⟨1, 500000000⟩) 1 ++
          (Detail.output 0 [120]).lines ++ later) ∧
        (∃ later, step.lines = linesBefore step (earlyStart ⟨-1, 0⟩ ⟨1, 500000000⟩) 2 ++
          (Detail.output 1500 [121]).lines ++ later) ∧
        (⟨-1, 0⟩ : Timestamp).Regular ∧
        (⟨-1, 0⟩ : Timestamp).toNanos ≤ (⟨1, 500000000⟩ : Timestamp).toNanos ∧ 0 ≤ 1500 := by
  have only : (run (earlyStart ⟨-1, 0⟩ ⟨1, 500000000⟩)).steps.map (fun step =>
      (step.vertex, step.index)) = [("v", 1)] := by
    decide +kernel
  obtain ⟨step, member, same⟩ := List.mem_map.mp (only ▸ List.mem_singleton_self ("v", 1))
  obtain ⟨vertex, index⟩ := Prod.mk.inj same
  have logged := logged_earlyStart vertex index
    (show (⟨-1, 0⟩ : Timestamp).Proper from ⟨by decide, by decide⟩)
    (show (⟨1, 500000000⟩ : Timestamp).Proper from ⟨by decide, by decide⟩)
  have proper : (⟨-5, 0⟩ : Timestamp).Proper := ⟨by decide, by decide⟩
  obtain ⟨first, -, ordered⟩ := run_offsets member proper logged.1
  obtain ⟨second, -, -⟩ := run_offsets member proper logged.2
  have regular : (⟨-1, 0⟩ : Timestamp).Regular := Or.inr (by decide)
  have earlier : (⟨-1, 0⟩ : Timestamp).toNanos ≤ (⟨1, 500000000⟩ : Timestamp).toNanos := by decide
  exact ⟨step, member, logged.1, logged.2, first, second, regular, earlier,
    ordered logged.2 regular earlier⟩

/-- Output of a nanosecond before the epoch stands behind more of a second than output of the
epoch itself. -/
theorem offsets_run_back :
    (run (earlyStart ⟨-1, 999999999⟩ ⟨0, 0⟩)).steps.map Step.lines = [["0.999 x", "0.000 y"]] ∧
      ¬ ∀ (changes : List Change), ∀ step ∈ (run changes).steps,
        ∀ {start time time' : Timestamp} {place place' : Nat} {data data' : Bytes},
          start.Proper → Logged step changes start place time data →
            Logged step changes start place' time' data' → time.toNanos ≤ time'.toNanos →
              time.sinceEpoch.millisSince start.sinceEpoch =
                  (max 0 (max time.toNanos 0 - max start.toNanos 0)).toNat / 1000000 ∧
                time.sinceEpoch.millisSince start.sinceEpoch ≤
                  time'.sinceEpoch.millisSince start.sinceEpoch := by
  refine ⟨by decide +kernel, fun ordered => ?_⟩
  have only : (run (earlyStart ⟨-1, 999999999⟩ ⟨0, 0⟩)).steps.map (fun step =>
      (step.vertex, step.index)) = [("v", 1)] := by
    decide +kernel
  obtain ⟨step, member, same⟩ := List.mem_map.mp (only ▸ List.mem_singleton_self ("v", 1))
  obtain ⟨vertex, index⟩ := Prod.mk.inj same
  have logged := logged_earlyStart vertex index
    (show (⟨-1, 999999999⟩ : Timestamp).Proper from ⟨by decide, by decide⟩)
    (show (⟨0, 0⟩ : Timestamp).Proper from ⟨by decide, by decide⟩)
  have less := (ordered _ step member ⟨by decide, by decide⟩ logged.1 logged.2 (by decide)).2
  exact absurd less (by decide)

end Tracker

end ContainerTasks.Progress
