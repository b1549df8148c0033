import Mathlib.Algebra.Ring.Nat
import ContainerTasks.Progress.Tracker

/-! # Downloads together

The downloads of a step are added up one after the other, and each sum has to fit 64 bits.
None of them is greater than the last, so it comes down to the sums of all (`Step.loaded`): if
they fit the step is shown with them, and otherwise the program breaks down. Active steps are
shown together or not at all (`Tracker.activeSteps_eq`).
-/

namespace ContainerTasks.Progress

/-- How much of some content is there, and how much there is. -/
structure Size where
  current : Nat
  total : Nat
deriving DecidableEq

namespace Size

/-- Both numbers have 64 bits. -/
def Fits (size : Size) : Prop :=
  size.current < UInt64.size ∧ size.total < UInt64.size

instance (size : Size) : Decidable size.Fits :=
  inferInstanceAs (Decidable (_ ∧ _))

/-- A size in 64 bits. -/
def download (size : Size) : Download :=
  ⟨UInt64.ofNat size.current, UInt64.ofNat size.total⟩

end Size

namespace Download

/-- The size of a download. -/
def size (download : Download) : Size :=
  ⟨download.current.toNat, download.total.toNat⟩

theorem download_size (download : Download) : download.size.download = download := by
  rw [size, Size.download, UInt64.ofNat_toNat, UInt64.ofNat_toNat]

theorem fits (download : Download) : download.size.Fits :=
  ⟨download.current.toNat_lt, download.total.toNat_lt⟩

end Download

theorem Size.size_download {size : Size} (fits : size.Fits) : size.download.size = size := by
  rw [download, Download.size, UInt64.toNat_ofNat_of_lt' fits.1, UInt64.toNat_ofNat_of_lt' fits.2]

/-- A download after another, as a size. -/
def Size.plus (size : Size) (part : Download) : Size :=
  ⟨size.current + part.size.current, size.total + part.size.total⟩

theorem Download.add_eq (sum part : Download) :
    sum.add part =
      if (sum.size.plus part).Fits then .ok (sum.size.plus part).download
      else .error .overflow := by
  have parts : (sum.size.plus part).download =
      ⟨sum.current + part.current, sum.total + part.total⟩ := by
    simp [Size.plus, Size.download, size]
  have both : (sum.size.plus part).Fits ↔
      sum.current.toNat + part.current.toNat < UInt64.size ∧
        sum.total.toNat + part.total.toNat < UInt64.size := Iff.rfl
  simp only [parts, both, add, Breakdown.add]
  by_cases current : sum.current.toNat + part.current.toNat < UInt64.size
  · by_cases total : sum.total.toNat + part.total.toNat < UInt64.size
    · rw [if_pos current, if_pos total, if_pos ⟨current, total⟩]
      rfl
    · rw [if_pos current, if_neg total, if_neg (mt And.right total)]
      rfl
  · rw [if_neg current, if_neg (mt And.left current)]
    rfl

/-- All parts together with what was there before. -/
def Size.all (size : Size) (parts : List Download) : Size :=
  ⟨size.current + (parts.map fun part => part.size.current).sum,
    size.total + (parts.map fun part => part.size.total).sum⟩

theorem Size.all_cons (size : Size) (part : Download) (rest : List Download) :
    size.all (part :: rest) = (size.plus part).all rest := by
  rw [all, all, plus, List.map_cons, List.map_cons, List.sum_cons, List.sum_cons, Nat.add_assoc,
    Nat.add_assoc]

theorem Size.fits_of_all {size : Size} {parts : List Download} (fits : (size.all parts).Fits) :
    size.Fits :=
  ⟨Nat.lt_of_le_of_lt (Nat.le_add_right _ _) fits.1,
    Nat.lt_of_le_of_lt (Nat.le_add_right _ _) fits.2⟩

/-- The sums on the way fit if the last of them do. -/
theorem Download.foldlM_add (sum : Download) (parts : List Download) :
    parts.foldlM add sum =
      if (sum.size.all parts).Fits then .ok (sum.size.all parts).download
      else .error .overflow := by
  induction parts generalizing sum with
  | nil =>
      have same : sum.size.all [] = sum.size := rfl
      rw [same, if_pos sum.fits, download_size]
      rfl
  | cons part rest ih =>
      rw [List.foldlM_cons, add_eq, Size.all_cons]
      by_cases fits : (sum.size.plus part).Fits
      · rw [if_pos fits]
        refine (ih _).trans ?_
        rw [Size.size_download fits]
      · rw [if_neg fits, if_neg (mt Size.fits_of_all fits)]
        rfl

namespace Step

/-- The sizes of all downloads of a step together. -/
def loaded (step : Step) : Size :=
  Size.all ⟨0, 0⟩ (step.downloads.toList.map Prod.snd)

theorem download_eq (step : Step) :
    step.download =
      if step.loaded.Fits then
        .ok (if step.downloads.isEmpty then none else some step.loaded.download)
      else .error .overflow := by
  rw [download]
  by_cases none : step.downloads.isEmpty = true
  · have nothing : step.loaded = ⟨0, 0⟩ := by
      have parts : step.downloads.toList = [] := by
        rw [← List.isEmpty_iff, Std.ExtTreeMap.isEmpty_toList, none]
      rw [loaded, parts]
      rfl
    rw [if_pos none, if_pos none, nothing]
    rfl
  · have sums := Download.foldlM_add ⟨0, 0⟩ (step.downloads.toList.map Prod.snd)
    rw [List.foldlM_map] at sums
    rw [if_neg none, if_neg none]
    change (step.downloads.toList.foldlM _ _ >>= fun sum => pure (some sum)) = _
    rw [sums]
    change (if step.loaded.Fits then Except.ok step.loaded.download else _) >>= _ = _
    by_cases fits : step.loaded.Fits
    · rw [if_pos fits, if_pos fits]
      rfl
    · rw [if_neg fits, if_neg fits]
      rfl

/-- The step as it is shown while it runs, if its sums fit. -/
def asActive (step : Step) : ActiveStep :=
  ⟨step.index, step.name, if step.downloads.isEmpty then none else some step.loaded.download⟩

theorem toActive_eq (step : Step) :
    step.toActive = if step.loaded.Fits then .ok step.asActive else .error .overflow := by
  rw [toActive, download_eq]
  by_cases fits : step.loaded.Fits
  · rw [if_pos fits, if_pos fits]
    rfl
  · rw [if_neg fits, if_neg fits]
    rfl

theorem mapM_toActive (steps : List Step) :
    steps.mapM toActive =
      if ∀ step ∈ steps, step.loaded.Fits then .ok (steps.map asActive)
      else .error .overflow := by
  induction steps with
  | nil => rfl
  | cons step rest ih =>
      rw [List.mapM_cons, toActive_eq, ih]
      simp only [List.forall_mem_cons]
      by_cases fits : step.loaded.Fits
      · by_cases all : ∀ step ∈ rest, step.loaded.Fits
        · rw [if_pos fits, if_pos all, if_pos ⟨fits, all⟩]
          rfl
        · rw [if_pos fits, if_neg all, if_neg (mt And.right all)]
          rfl
      · rw [if_neg fits, if_neg (mt And.left fits)]
        rfl

end Step

namespace Tracker

/-- The active steps are all shown if the sums of each of them fit, and otherwise the program
breaks down. -/
theorem activeSteps_eq (tracker : Tracker) :
    tracker.activeSteps =
      if ∀ step ∈ tracker.running, step.loaded.Fits then .ok (tracker.running.map Step.asActive)
      else .error .overflow :=
  Step.mapM_toActive tracker.running

theorem activeSteps_eq_ok_iff {tracker : Tracker} {active : List ActiveStep} :
    tracker.activeSteps = .ok active ↔
      (∀ step ∈ tracker.running, step.loaded.Fits) ∧
        tracker.running.map Step.asActive = active := by
  rw [activeSteps_eq]
  split
  · rename_i fits
    rw [Except.ok.injEq, and_iff_right fits]
  · rename_i fits
    exact iff_of_false nofun fun both => fits both.1

end Tracker

end ContainerTasks.Progress
