import Mathlib.Algebra.Order.BigOperators.Group.List
import Mathlib.Algebra.Order.Ring.Nat
import Mathlib.Data.List.Dedup
import ContainerTasks.Proofs.Progress.Intake

/-! # The downloads of a step

An operation of a size greater than zero is a download, and its latest report of such a size
counts (`latest?`). The downloads of a step are those in its intake (`Tracker.kept_sizes`), and
while the step is active it is shown with their sums, which are exact. The sums of two downloads
always fit 64 bits, but those of three need not, and then the program breaks down instead
(`run_totals`).
-/

namespace ContainerTasks.Progress

/-- The operation that a record reports a size of, and this size. Less than nothing of it is
nothing. -/
def Record.size? : Record → Option (String × Size)
  | .operated _ text current total _ _ =>
    if 0 < total then some (text, ⟨current.toInt.toNat, total.toInt.toNat⟩) else none
  | .declared .. | .started .. | .completed .. | .printed .. => none

namespace Size

variable {sizes : List (String × Size)}

/-- The operations that sizes are reported of. -/
def texts (sizes : List (String × Size)) : List String :=
  (sizes.map Prod.fst).dedup

/-- The latest size of an operation. -/
def latest? (sizes : List (String × Size)) (text : String) : Option Size :=
  sizes.reverse.lookup text

/-- The sum of a part of the latest sizes of all operations. -/
def sum (part : Size → Nat) (sizes : List (String × Size)) : Nat :=
  ((texts sizes).filterMap fun text => (latest? sizes text).map part).sum

/-- The latest sizes of all operations together. -/
def sums (sizes : List (String × Size)) : Size :=
  ⟨sum current sizes, sum total sizes⟩

/-- The latest sizes of all operations together, if there is any. -/
def totals? (sizes : List (String × Size)) : Option Size :=
  if sizes = [] then none else some (sums sizes)

theorem latest?_concat (text other : String) (size : Size) :
    latest? (sizes ++ [(text, size)]) other =
      if text = other then some size else latest? sizes other := by
  rw [latest?, List.reverse_concat, List.lookup_cons]
  by_cases same : text = other
  · rw [if_pos same, beq_iff_eq.mpr same.symm]
  · rw [if_neg same, beq_eq_false_iff_ne.mpr (Ne.symm same)]
    rfl

theorem mem_texts_iff {text : String} : text ∈ texts sizes ↔ (latest? sizes text).isSome = true := by
  rw [texts, List.mem_dedup, latest?, Option.isSome_iff_ne_none, ne_eq, List.lookup_eq_none_iff]
  simp only [List.mem_map, List.mem_reverse, bne_iff_ne, not_forall, not_not]
  constructor
  · rintro ⟨report, member, rfl⟩
    exact ⟨report, member, rfl⟩
  · rintro ⟨report, member, same⟩
    exact ⟨report, member, same.symm⟩

theorem exists_of_latest? {text : String} {size : Size} (latest : latest? sizes text = some size) :
    ∃ report ∈ sizes, report.2 = size := by
  obtain ⟨later, earlier, split, -⟩ := List.lookup_eq_some_iff.mp latest
  have member : (text, size) ∈ sizes := by
    rw [← List.mem_reverse, split]
    exact List.mem_append_right later List.mem_cons_self
  exact ⟨(text, size), member, rfl⟩

/-- Each operation adds to the sum at most what a report can say of it. -/
theorem sum_le {part : Size → Nat} {bound : Nat} (bounded : ∀ report ∈ sizes, part report.2 ≤ bound) :
    sum part sizes ≤ (texts sizes).length * bound := by
  have each : ∀ value ∈ (texts sizes).filterMap fun text => (latest? sizes text).map part,
      value ≤ bound := by
    intro value member
    obtain ⟨text, -, given⟩ := List.mem_filterMap.mp member
    obtain ⟨size, latest, rfl⟩ := Option.map_eq_some_iff.mp given
    obtain ⟨report, reported, rfl⟩ := exists_of_latest? latest
    exact bounded report reported
  have fewer := List.length_filterMap_le (fun text => (latest? sizes text).map part) (texts sizes)
  calc sum part sizes
    _ ≤ ((texts sizes).filterMap fun text => (latest? sizes text).map part).length * bound :=
        List.sum_le_card_nsmul _ _ each
    _ ≤ (texts sizes).length * bound := Nat.mul_le_mul_right bound fewer

end Size

/-- The sizes in a record have 63 bits. -/
theorem Record.size?_le {record : Record} {report : String × Size}
    (reports : record.size? = some report) :
    report.2.current ≤ 2 ^ 63 - 1 ∧ report.2.total ≤ 2 ^ 63 - 1 := by
  cases record with
  | declared | started | completed | printed => cases reports
  | operated vertex text current total isStarted isCompleted =>
      rw [size?, Option.ite_none_right_eq_some, Option.some.injEq] at reports
      obtain ⟨-, rfl⟩ := reports
      have current := current.toInt_lt
      have total := total.toInt_lt
      dsimp only
      omega

/-- The sums of two operations at most fit 64 bits. -/
theorem Size.fits_of_few {sizes : List (String × Size)} (few : (texts sizes).length ≤ 2)
    (bounded : ∀ report ∈ sizes, report.2.current ≤ 2 ^ 63 - 1 ∧ report.2.total ≤ 2 ^ 63 - 1) :
    (sums sizes).Fits := by
  have current := sum_le fun report member => (bounded report member).1
  have total := sum_le fun report member => (bounded report member).2
  have size : UInt64.size = 2 ^ 64 := rfl
  constructor <;> dsimp only [sums] <;> omega

/-- A number without its negative part stays the same in 64 bits. -/
theorem Step.toNat_clamp (n : Int64) : (Step.clamp n).toNat = n.toInt.toNat := by
  unfold clamp
  by_cases negative : n < 0
  · have below : n.toInt < 0 := Int64.lt_iff_toInt_lt.mp negative
    rw [if_pos negative]
    exact (Int.toNat_of_nonpos below.le).symm
  · rw [if_neg negative]
    exact Int64.toNat_toUInt64_of_le (Int64.not_lt.mp negative)

/-- The latest report of a size of an operation counts. -/
theorem Step.size_take {step : Step} (unsealed : step.isSealed = false) (record : Record)
    (text : String) :
    ((step.take record).downloads[text]?).map Download.size =
      match record.size? with
      | some (other, size) =>
        if other = text then some size else (step.downloads[text]?).map Download.size
      | none => (step.downloads[text]?).map Download.size := by
  have isOpen : ¬ step.isSealed = true := Bool.eq_false_iff.mp unsealed
  cases record with
  | declared vertex name =>
      dsimp only [take, rename, Record.size?]
      split <;> rfl
  | started vertex time => rfl
  | completed vertex cached error =>
      dsimp only [take, Record.size?]
      rw [if_neg isOpen, complete]
  | printed vertex time data =>
      obtain ⟨lines, result⟩ := step.print_eq time data
      dsimp only [take, Record.size?]
      rw [if_neg isOpen, result]
  | operated vertex other current total isStarted isCompleted =>
      dsimp only [take, Record.size?]
      rw [if_neg isOpen, operate_fields]
      by_cases sized : 0 < total
      · rw [if_pos sized, if_pos sized]
        simp only [Std.ExtTreeMap.getElem?_insert, Std.LawfulEqCmp.compare_eq_iff_eq]
        by_cases same : other = text
        · rw [if_pos same, if_pos same, Option.map_some, Download.size, toNat_clamp, toNat_clamp]
        · rw [if_neg same, if_neg same]
      · rw [if_neg sized, if_neg sized]

/-- The latest report of each size is kept. -/
def Step.Sized (step : Step) (records : List Record) : Prop :=
  ∀ text, (step.downloads[text]?).map Download.size =
    Size.latest? (records.filterMap Record.size?) text

namespace Step.Sized

variable {step : Step} {records : List Record} (sized : step.Sized records)

include sized

/-- The downloads are those operations that a size has been reported of. -/
theorem perm_keys : step.downloads.keys.Perm (Size.texts (records.filterMap Record.size?)) := by
  refine (List.perm_ext_iff_of_nodup Std.ExtTreeMap.nodup_keys (List.nodup_dedup _)).mpr ?_
  intro text
  rw [Std.ExtTreeMap.mem_keys, Std.ExtTreeMap.mem_iff_isSome_getElem?, ← Option.isSome_map,
    sized text, ← Size.mem_texts_iff, Size.texts]

theorem sum_eq (part : Size → Nat) :
    (step.downloads.toList.map fun download => part download.2.size).sum =
      Size.sum part (records.filterMap Record.size?) := by
  -- Each value is looked up by its key, so only the keys have to be compared.
  have values : step.downloads.toList.map (fun download => part download.2.size) =
      step.downloads.keys.filterMap fun text =>
        (Size.latest? (records.filterMap Record.size?) text).map part := by
    rw [← Std.ExtTreeMap.map_fst_toList_eq_keys, List.filterMap_map, ← List.filterMap_eq_map]
    refine List.filterMap_congr fun download member => ?_
    have found := Std.ExtTreeMap.mem_toList_iff_getElem?_eq_some.mp member
    rw [Function.comp_apply, Function.comp_apply, ← sized, found]
    rfl
  rw [values]
  exact (sized.perm_keys.filterMap _).sum_nat

theorem isEmpty_iff : step.downloads.isEmpty = true ↔ records.filterMap Record.size? = [] := by
  rw [← Std.ExtTreeMap.isEmpty_keys, List.isEmpty_iff, ← List.length_eq_zero_iff,
    sized.perm_keys.length_eq, List.length_eq_zero_iff, Size.texts, List.dedup_eq_nil,
    List.map_eq_nil_iff]

/-- The downloads together have the sums of their sizes. -/
theorem loaded_eq : step.loaded = Size.sums (records.filterMap Record.size?) := by
  rw [Step.loaded, Size.all, List.map_map, List.map_map, Nat.zero_add, Nat.zero_add]
  exact congrArg₂ Size.mk (sized.sum_eq Size.current) (sized.sum_eq Size.total)

/-- What is shown of the downloads are the sums of their sizes, if these fit. -/
theorem map_size_download (fits : step.loaded.Fits) :
    step.asActive.download.map Download.size =
      Size.totals? (records.filterMap Record.size?) := by
  rw [Step.asActive, Size.totals?, ← sized.loaded_eq]
  by_cases none : records.filterMap Record.size? = []
  · rw [if_pos none, if_pos (sized.isEmpty_iff.mpr none), Option.map_none]
  · rw [if_neg none, if_neg (mt sized.isEmpty_iff.mp none), Option.map_some,
      Size.size_download fits]

end Step.Sized

namespace Tracker

theorem kept_sizes : Kept Step.Sized where
  begins := fun _ _ _ _ => rfl
  takes := by
    intro step records record unsealed _ kept text
    rw [Step.size_take unsealed, List.filterMap_append]
    cases sized : record.size? with
    | none =>
        rw [List.filterMap_cons_none sized, List.filterMap_nil, List.append_nil]
        exact kept text
    | some report =>
        rw [List.filterMap_cons_some sized, List.filterMap_nil, Size.latest?_concat, ← kept text]
  renamed := by
    intro step records name kept
    unfold Step.rename
    split <;> exact kept
  closed := id
  startedLate := fun _ _ => id

/-- The sizes that a step has taken in. -/
def sizesOf (step : Step) (changes : List Change) : List (String × Size) :=
  (intake step.vertex step.index changes).filterMap Record.size?

theorem sizesOf_le {step : Step} {changes : List Change} :
    ∀ report ∈ sizesOf step changes,
      report.2.current ≤ 2 ^ 63 - 1 ∧ report.2.total ≤ 2 ^ 63 - 1 := by
  intro report member
  obtain ⟨record, -, reports⟩ := List.mem_filterMap.mp member
  exact Record.size?_le reports

/-- The step that is shown, with the exact sums of its downloads. -/
def summed (changes : List Change) (step : Step) : Nat × String × Option Size :=
  (step.index, step.name, Size.totals? (sizesOf step changes))

theorem sized_of_mem {changes : List Change} {step : Step} (member : step ∈ (run changes).steps) :
    step.Sized (intake step.vertex step.index changes) :=
  kept_sizes.run changes step member

/-- **The totals of the downloads.** The active steps are shown in their order, with a download
if a size has been reported of an operation, and then with the sums of the latest sizes of all
operations, if these fit 64 bits for each of the steps. If they do not for one of them, the
program breaks down. They do if there are two operations at most. -/
theorem run_totals (changes : List Change) :
    let active := (run changes).steps.filter fun step => step.status = .active
    ((∀ step ∈ active, (Size.sums (sizesOf step changes)).Fits) →
      ∃ shown, (run changes).activeSteps = .ok shown ∧
        shown.map (fun step => (step.index, step.name, step.download.map Download.size)) =
          active.map (summed changes)) ∧
      ((∃ step ∈ active, ¬ (Size.sums (sizesOf step changes)).Fits) →
        (run changes).activeSteps = .error .overflow) ∧
      ∀ step ∈ active, (Size.texts (sizesOf step changes)).length ≤ 2 →
        (Size.sums (sizesOf step changes)).Fits := by
  intro active
  have running : (run changes).running = active := (booked_run changes).valid.running_eq
  have sized : ∀ step ∈ active, step.Sized (intake step.vertex step.index changes) :=
    fun step member => sized_of_mem (List.mem_of_mem_filter member)
  refine ⟨fun all => ?_, fun unfit => ?_, fun step _ few => Size.fits_of_few few sizesOf_le⟩
  · have fits : ∀ step ∈ active, step.loaded.Fits :=
      fun step member => (sized step member).loaded_eq ▸ all step member
    refine ⟨active.map Step.asActive, ?_, ?_⟩
    · rw [activeSteps_eq, running, if_pos fits]
    · rw [List.map_map]
      refine List.map_congr_left fun step member => ?_
      rw [Function.comp_apply, (sized step member).map_size_download (fits step member)]
      rfl
  · obtain ⟨step, member, beyond⟩ := unfit
    rw [activeSteps_eq, running, if_neg]
    exact fun fits => beyond ((sized step member).loaded_eq ▸ fits step member)

/-- Records about the layers of an image: one has more and more of its bytes, another one has
less than nothing, and one falls back to no size. -/
def layers : List Change :=
  [.apply (.declared "a" "pull"), .apply (.operated "a" "first" 3 10 true false),
    .apply (.operated "a" "second" (-1) 9223372036854775807 true false),
    .apply (.operated "a" "first" 7 10 true false), .apply (.operated "a" "first" 9 0 true true)]

theorem run_totals_layers :
    (∀ step ∈ (run layers).steps.filter fun step => step.status = .active,
      (Size.sums (sizesOf step layers)).Fits) ∧
      (run layers).activeSteps = .ok [⟨1, "pull", some ⟨7, 9223372036854775817⟩⟩] ∧
      ∃ shown, (run layers).activeSteps = .ok shown ∧
        shown.map (fun step => (step.index, step.name, step.download.map Download.size)) =
          ((run layers).steps.filter fun step => step.status = .active).map (summed layers) := by
  have only : (run layers).steps.map (fun step => (step.vertex, step.index)) = [("a", 1)] := by
    decide +kernel
  obtain ⟨exact, -, few⟩ := run_totals layers
  have fits : ∀ step ∈ (run layers).steps.filter fun step => step.status = .active,
      (Size.sums (sizesOf step layers)).Fits := by
    intro step member
    have same := List.mem_map_of_mem (List.mem_of_mem_filter member)
      (f := fun step => (step.vertex, step.index))
    rw [only, List.mem_singleton, Prod.mk.injEq] at same
    refine few step member ?_
    rw [sizesOf, same.1, same.2]
    decide +kernel
  exact ⟨fits, by decide +kernel, exact fits⟩

/-- The totals of three layers need not be shown. -/
theorem totals_unshown :
    ¬ ∀ records : List Record, ∃ shown, (run (records.map .apply)).activeSteps = .ok shown ∧
      ∀ step ∈ (run (records.map .apply)).steps, step.status = .active →
        summed (records.map .apply) step ∈
          shown.map fun step => (step.index, step.name, step.download.map Download.size) := by
  intro exactly
  obtain ⟨shown, shows, -⟩ := exactly vast
  have breaks : (run (vast.map .apply)).activeSteps = .error .overflow := by decide +kernel
  cases breaks.symm.trans shows

end Tracker

end ContainerTasks.Progress
