import ContainerTasks.Proofs.Progress.Accounts

/-! # Which vertices become steps

A vertex becomes a step with the first record that shows it at work after it was declared.
So the steps have the vertices of such records, ordered by the first one of each, and a step
goes by the first name that is not empty among all declarations of its vertex, whether they
come before or after it began. A record that comes before the declaration of its vertex is
dropped (`applyAll_steps`).
-/

namespace ContainerTasks.Progress

namespace Record

/-- Whether a record shows its vertex at work. A declaration does not. -/
def isActivity : Record → Bool
  | declared _ _ => false
  | started .. | completed .. | operated .. | printed .. => true

/-- The record at a position shows its vertex at work, and the vertex has been declared by
then. -/
def ShowsAt (records : List Record) (vertex : String) (position : Nat) : Prop :=
  ∃ record, records[position]? = some record ∧ record.vertex = vertex ∧
    record.isActivity = true ∧ ∃ name, declared vertex name ∈ records.take position

/-- A vertex is shown at work, when it has been declared, before the other one is. -/
def ShownBefore (records : List Record) (first second : String) : Prop :=
  ∃ position, ShowsAt records first position ∧
    ∀ later, ShowsAt records second later → position < later

/-- The name that a record declares a vertex with. -/
def nameFor? (vertex : String) : Record → Option String
  | declared other name => if other = vertex then some name else none
  | started .. | completed .. | operated .. | printed .. => none

/-- The names that a vertex is declared with, in their order. -/
def namesOf (vertex : String) (records : List Record) : List String :=
  records.filterMap (nameFor? vertex)

/-- The first name that is not empty, or the empty one. -/
def firstName (names : List String) : String :=
  (names.find? fun name => !name.isEmpty).getD ""

theorem firstName_concat (names : List String) (name : String) :
    firstName (names ++ [name]) =
      if (firstName names).isEmpty then name else firstName names := by
  unfold firstName
  rw [List.find?_append]
  cases found : names.find? fun name => !name.isEmpty with
  | none =>
      rw [Option.none_or, Option.getD_none, if_pos (show "".isEmpty = true from rfl)]
      by_cases empty : name.isEmpty
      · rw [List.find?_cons_of_neg (by simp [empty]), String.isEmpty_iff.mp empty]
        rfl
      · rw [List.find?_cons_of_pos (by simp [empty])]
        rfl
  | some first =>
      have named : ¬ first.isEmpty := by simpa using List.find?_some found
      rw [Option.some_or, Option.getD_some, if_neg named]

theorem nameFor?_eq_some_iff {vertex name : String} {record : Record} :
    record.nameFor? vertex = some name ↔ record = declared vertex name := by
  cases record with
  | declared other given =>
      rw [nameFor?, Option.ite_none_right_eq_some, Option.some.injEq, declared.injEq]
  | started | completed | operated | printed => simp [nameFor?]

theorem namesOf_concat (vertex : String) (records : List Record) (record : Record) :
    namesOf vertex (records ++ [record]) =
      namesOf vertex records ++ (record.nameFor? vertex).toList := by
  rw [namesOf, namesOf, List.filterMap_append]
  cases declares : record.nameFor? vertex with
  | none => rw [List.filterMap_cons_none declares, List.filterMap_nil, Option.toList_none]
  | some name => rw [List.filterMap_cons_some declares, List.filterMap_nil, Option.toList_some]

theorem namesOf_eq_nil_iff {vertex : String} {records : List Record} :
    namesOf vertex records = [] ↔ ∀ name, declared vertex name ∉ records := by
  rw [namesOf, List.filterMap_eq_nil_iff]
  constructor
  · intro unnamed name member
    have declares := nameFor?_eq_some_iff.mpr (Eq.refl (declared vertex name))
    rw [unnamed _ member] at declares
    cases declares
  · intro undeclared record member
    cases declares : record.nameFor? vertex with
    | none => rfl
    | some name =>
        rw [nameFor?_eq_some_iff.mp declares] at member
        exact (undeclared name member).elim

theorem ShowsAt.lt {records : List Record} {vertex : String} {position : Nat}
    (shows : ShowsAt records vertex position) : position < records.length := by
  obtain ⟨record, found, -⟩ := shows
  exact (List.getElem?_eq_some_iff.mp found).1

theorem showsAt_concat {records : List Record} {record : Record} {vertex : String}
    {position : Nat} :
    ShowsAt (records ++ [record]) vertex position ↔ ShowsAt records vertex position ∨
      position = records.length ∧ record.vertex = vertex ∧ record.isActivity = true ∧
        ∃ name, declared vertex name ∈ records := by
  unfold ShowsAt
  rcases Nat.lt_trichotomy position records.length with old | rfl | beyond
  · have other : ¬ position = records.length := Nat.ne_of_lt old
    rw [List.getElem?_append_left old, List.take_append_of_le_length (Nat.le_of_lt old)]
    simp only [other, false_and, or_false]
  · have none : records[records.length]? = Option.none := List.getElem?_eq_none (Nat.le_refl _)
    rw [List.getElem?_concat_length, List.take_left, none]
    simp
  · have none : records[position]? = Option.none := List.getElem?_eq_none (Nat.le_of_lt beyond)
    have outside : (records ++ [record])[position]? = Option.none := by
      refine List.getElem?_eq_none ?_
      rw [List.length_append]
      exact beyond
    have other : ¬ position = records.length := Nat.ne_of_gt beyond
    rw [none, outside]
    simp [other]

theorem exists_showsAt_concat {records : List Record} {record : Record} {vertex : String} :
    (∃ position, ShowsAt (records ++ [record]) vertex position) ↔
      (∃ position, ShowsAt records vertex position) ∨
        record.vertex = vertex ∧ record.isActivity = true ∧
          ∃ name, declared vertex name ∈ records := by
  simp only [showsAt_concat, exists_or, exists_eq_left]

/-- What is shown later comes behind what has been shown. -/
theorem ShownBefore.concat {records : List Record} {first second : String}
    (before : ShownBefore records first second) (record : Record) :
    ShownBefore (records ++ [record]) first second := by
  obtain ⟨position, shows, least⟩ := before
  refine ⟨position, showsAt_concat.mpr (Or.inl shows), ?_⟩
  intro later showsLater
  rcases showsAt_concat.mp showsLater with old | ⟨rfl, -⟩
  · exact least later old
  · exact shows.lt

theorem ShowsAt.before {records : List Record} {first : String} {position : Nat}
    (shows : ShowsAt records first position) {record : Record}
    (unshown : ¬ ∃ position, ShowsAt records record.vertex position) :
    ShownBefore (records ++ [record]) first record.vertex := by
  refine ⟨position, showsAt_concat.mpr (Or.inl shows), ?_⟩
  intro later showsLater
  rcases showsAt_concat.mp showsLater with old | ⟨rfl, -⟩
  · exact (unshown ⟨later, old⟩).elim
  · exact shows.lt

end Record

namespace Tracker

open Record (ShowsAt ShownBefore namesOf firstName)

variable {tracker after : Tracker}

theorem applyAll_concat (tracker : Tracker) (records : List Record) (record : Record) :
    tracker.applyAll (records ++ [record]) = (tracker.applyAll records).apply record :=
  List.foldl_concat ..

theorem positions_complete (tracker : Tracker) (vertex : String) (cached : Bool)
    (error : Option String) : (tracker.complete vertex cached error).positions = tracker.positions := by
  unfold Tracker.complete
  split
  · rfl
  · split
    · rfl
    · exact positions_modifyStep ..

theorem positions_declare (tracker : Tracker) (vertex name : String) :
    (tracker.declare vertex name).positions = tracker.positions := by
  unfold Tracker.declare
  split
  · rfl
  · dsimp only
    split
    · exact positions_modifyStep ..
    · exact positions_modifyStep ..

/-- Records of activity make a vertex a step before they change it. -/
theorem positions_apply (tracker : Tracker) {record : Record} (activity : record.isActivity = true) :
    (tracker.apply record).positions = (tracker.enter record.vertex).positions := by
  cases record with
  | declared => cases activity
  | started => exact positions_modifyStep ..
  | completed => exact positions_complete ..
  | operated => exact positions_modifyStep ..
  | printed => exact positions_modifyStep ..

namespace Booked

theorem getElem?_vertices_iff (booked : tracker.Booked) {vertex : String} {position : Nat} :
    (tracker.steps.map Step.vertex)[position]? = some vertex ↔
      tracker.positions[vertex]? = some position := by
  rw [booked.placed, List.getElem?_map, Option.map_eq_some_iff]

theorem mem_vertices_iff (booked : tracker.Booked) {vertex : String} :
    vertex ∈ tracker.steps.map Step.vertex ↔ tracker.positions.contains vertex = true := by
  rw [← Std.ExtTreeMap.isSome_getElem?_eq_contains, Option.isSome_iff_exists,
    List.mem_iff_getElem?]
  exact exists_congr fun position => booked.getElem?_vertices_iff

/-- The positions say which vertices the steps have, and in which order. -/
theorem vertices_eq_of_positions (booked : tracker.Booked) (agrees : after.Booked)
    (positions : after.positions = tracker.positions) :
    after.steps.map Step.vertex = tracker.steps.map Step.vertex := by
  refine List.ext_getElem? fun position => Option.ext fun vertex => ?_
  rw [booked.getElem?_vertices_iff, agrees.getElem?_vertices_iff, positions]

/-- A vertex becomes the last step if it is declared and none yet. -/
theorem vertices_enter (booked : tracker.Booked) (vertex : String) :
    (tracker.enter vertex).steps.map Step.vertex =
      tracker.steps.map Step.vertex ++
        if (tracker.declared[vertex]?).isSome ∧ vertex ∉ tracker.steps.map Step.vertex then [vertex]
        else [] := by
  unfold Tracker.enter
  by_cases placed : tracker.positions.contains vertex
  · have known := booked.mem_vertices_iff.mpr placed
    rw [if_pos placed, if_neg fun fresh => fresh.2 known, List.append_nil]
  · have fresh : vertex ∉ tracker.steps.map Step.vertex := mt booked.mem_vertices_iff.mp placed
    rw [if_neg placed]
    cases declared : tracker.declared[vertex]? with
    | none => rw [if_neg fun declared => Bool.false_ne_true declared.1, List.append_nil]
    | some name => rw [if_pos ⟨rfl, fresh⟩, List.map_append, List.map_singleton]

/-- A record adds its vertex to the steps if it shows it at work and it was declared. -/
theorem vertices_apply (booked : tracker.Booked) (record : Record) :
    (tracker.apply record).steps.map Step.vertex =
      tracker.steps.map Step.vertex ++
        if record.isActivity = true ∧ (tracker.declared[record.vertex]?).isSome ∧
          record.vertex ∉ tracker.steps.map Step.vertex then [record.vertex] else [] := by
  by_cases activity : record.isActivity
  · rw [(booked.enter record.vertex).vertices_eq_of_positions (booked.apply record)
      (positions_apply tracker activity), booked.vertices_enter]
    simp only [activity, true_and]
  · rw [if_neg fun shows => activity shows.1, List.append_nil]
    cases record with
    | declared vertex name =>
        exact booked.vertices_eq_of_positions (booked.declare vertex name) (positions_declare ..)
    | started | completed | operated | printed => exact (activity rfl).elim

/-- A record of activity of a vertex that is not declared is dropped. -/
theorem apply_of_undeclared (booked : tracker.Booked) {record : Record}
    (activity : record.isActivity = true) (undeclared : tracker.declared[record.vertex]? = none) :
    tracker.apply record = tracker := by
  have unplaced : tracker.positions[record.vertex]? = none := by
    by_contra placed
    obtain ⟨position, placed⟩ := Option.ne_none_iff_exists'.mp placed
    obtain ⟨step, found, same⟩ := (booked.placed record.vertex position).mp placed
    have known := booked.named step (List.mem_of_getElem? found)
    rw [same, undeclared] at known
    cases known
  have unentered : tracker.enter record.vertex = tracker := by
    rw [Tracker.enter, undeclared, ite_self]
  have unchanged : ∀ change, tracker.modifyStep record.vertex change = tracker := by
    intro change
    rw [Tracker.modifyStep, unplaced]
  have unknown : tracker.stepOf? record.vertex = none := by rw [stepOf?, unplaced, Option.bind_none]
  cases record with
  | declared => cases activity
  | completed vertex cached error =>
      dsimp only [Record.vertex] at unentered unknown
      rw [Tracker.apply, unentered, Tracker.complete, unknown]
  | started | operated | printed =>
      dsimp only [Record.vertex] at unentered unchanged
      rw [Tracker.apply, unentered]
      exact unchanged _

end Booked

/-- The name that a vertex has been declared with. -/
theorem declared_applyAll (records : List Record) (vertex : String) :
    (({} : Tracker).applyAll records).declared[vertex]? =
      if namesOf vertex records = [] then none else some (firstName (namesOf vertex records)) := by
  induction records using List.reverseRecOn with
  | nil => rfl
  | append_singleton records record ih =>
      have booked : (({} : Tracker).applyAll records).Booked := booked_applyAll .start records
      rw [applyAll_concat, Record.namesOf_concat]
      refine (congrArg Account.declared (booked.account_apply record vertex)).trans ?_
      cases declares : record.nameFor? vertex with
      | none =>
          rw [Option.toList_none, List.append_nil, ← ih]
          cases record with
          | declared other name =>
              refine congrArg Account.declared (if_neg ?_)
              rintro rfl
              have given := Record.nameFor?_eq_some_iff.mpr (Eq.refl (Record.declared other name))
              exact Option.some_ne_none name (given.symm.trans declares)
          | started | completed | operated | printed =>
              exact (apply_ite Account.declared _ _ _).trans (ite_self _)
      | some name =>
          obtain rfl := Record.nameFor?_eq_some_iff.mp declares
          have former : (({} : Tracker).applyAll records).declared[vertex]?.getD "" =
              firstName (namesOf vertex records) := by
            rw [ih]
            by_cases unnamed : namesOf vertex records = []
            · rw [if_pos unnamed, unnamed]
              rfl
            · rw [if_neg unnamed, Option.getD_some]
          have named : ¬ namesOf vertex records ++ [name] = [] := by simp
          rw [Option.toList_some, Record.firstName_concat, ← former]
          exact (congrArg Account.declared (if_pos rfl)).trans (if_neg named).symm

theorem isSome_declared_applyAll {records : List Record} {vertex : String} :
    ((({} : Tracker).applyAll records).declared[vertex]?).isSome ↔
      ∃ name, Record.declared vertex name ∈ records := by
  rw [declared_applyAll]
  by_cases unnamed : namesOf vertex records = []
  · rw [if_pos unnamed]
    refine ⟨fun known => (Bool.false_ne_true known).elim, ?_⟩
    rintro ⟨name, member⟩
    exact (Record.namesOf_eq_nil_iff.mp unnamed name member).elim
  · rw [if_neg unnamed]
    refine ⟨fun _ => ?_, fun _ => rfl⟩
    by_contra undeclared
    exact unnamed (Record.namesOf_eq_nil_iff.mpr (not_exists.mp undeclared))

/-- The vertices of the steps are those that have been shown at work, by the first record that
shows each of them. -/
theorem vertices_applyAll (records : List Record) :
    let vertices := (({} : Tracker).applyAll records).steps.map Step.vertex
    (∀ vertex, vertex ∈ vertices ↔ ∃ position, ShowsAt records vertex position) ∧
      vertices.Pairwise (ShownBefore records) := by
  induction records using List.reverseRecOn with
  | nil =>
      refine ⟨fun vertex => ⟨fun member => absurd member List.not_mem_nil, ?_⟩, .nil⟩
      rintro ⟨position, shows⟩
      exact absurd shows.lt (Nat.not_lt_zero position)
  | append_singleton records record ih =>
      obtain ⟨shown, ordered⟩ := ih
      have booked : (({} : Tracker).applyAll records).Booked := booked_applyAll .start records
      rw [applyAll_concat, booked.vertices_apply]
      have earlier := ordered.imp fun before => ShownBefore.concat before record
      by_cases fresh : record.isActivity = true ∧
          ((({} : Tracker).applyAll records).declared[record.vertex]?).isSome ∧
            record.vertex ∉ (({} : Tracker).applyAll records).steps.map Step.vertex
      · rw [if_pos fresh]
        obtain ⟨activity, known, unplaced⟩ := fresh
        refine ⟨fun vertex => ?_, List.pairwise_append.mpr ⟨earlier, List.pairwise_singleton _ _, ?_⟩⟩
        · rw [Record.exists_showsAt_concat, ← shown, List.mem_append, List.mem_singleton]
          refine or_congr_right ⟨?_, fun shows => shows.1.symm⟩
          rintro rfl
          exact ⟨rfl, activity, isSome_declared_applyAll.mp known⟩
        · intro first member second new
          obtain rfl := List.mem_singleton.mp new
          obtain ⟨position, shows⟩ := (shown first).mp member
          exact shows.before (mt (shown _).mpr unplaced)
      · rw [if_neg fresh, List.append_nil]
        refine ⟨fun vertex => ?_, earlier⟩
        rw [Record.exists_showsAt_concat, ← shown, iff_self_or]
        rintro ⟨rfl, activity, known⟩
        by_contra unplaced
        exact fresh ⟨activity, isSome_declared_applyAll.mpr known, unplaced⟩

/-- **Which vertices become steps.** The steps are those of the vertices that were shown at work
after they were declared, ordered by the first record that shows them so. Each goes by the first
name that is not empty among all declarations of its vertex. A record that shows a vertex at
work before it is declared changes nothing. -/
theorem applyAll_steps (records : List Record) :
    let tracker := ({} : Tracker).applyAll records
    (∀ vertex, vertex ∈ tracker.steps.map Step.vertex ↔
        ∃ position, ShowsAt records vertex position) ∧
      (tracker.steps.map Step.vertex).Pairwise (ShownBefore records) ∧
      (∀ step ∈ tracker.steps, step.name = firstName (namesOf step.vertex records)) ∧
      ∀ record : Record, record.isActivity = true →
        (∀ name, .declared record.vertex name ∉ records) → tracker.apply record = tracker := by
  intro tracker
  have booked : tracker.Booked := booked_applyAll .start records
  obtain ⟨shown, ordered⟩ := vertices_applyAll records
  refine ⟨shown, ordered, ?_, ?_⟩
  · intro step member
    have named := booked.named step member
    rw [declared_applyAll] at named
    by_cases unnamed : namesOf step.vertex records = []
    · rw [if_pos unnamed] at named
      cases named
    · rw [if_neg unnamed] at named
      exact (Option.some.inj named).symm
  · intro record activity undeclared
    refine booked.apply_of_undeclared activity ?_
    rw [declared_applyAll, if_pos (Record.namesOf_eq_nil_iff.mpr undeclared)]

/-- A vertex that is never declared, one that is named late, and one that begins before it. -/
def lateNames : List Record :=
  [.declared "b" "", .started "c" ⟨1, 0⟩, .declared "a" "pull", .completed "a" true none,
    .started "b" ⟨2, 0⟩, .declared "b" "run", .declared "a" "renamed"]

theorem applyAll_steps_lateNames :
    (Record.started "c" ⟨3, 0⟩).isActivity = true ∧
      (∀ name, Record.declared "c" name ∉ lateNames) ∧
      (({} : Tracker).applyAll lateNames).steps.map Step.name = ["pull", "run"] ∧
      (({} : Tracker).applyAll lateNames).apply (.started "c" ⟨3, 0⟩) =
        ({} : Tracker).applyAll lateNames := by
  have undeclared : ∀ name, Record.declared "c" name ∉ lateNames := by simp [lateNames]
  obtain ⟨-, -, -, dropped⟩ := applyAll_steps lateNames
  exact ⟨rfl, undeclared, by decide +kernel, dropped (.started "c" ⟨3, 0⟩) rfl undeclared⟩

end Tracker

end ContainerTasks.Progress
