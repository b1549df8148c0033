import ContainerTasks.Proofs.Progress.Bookkeeping

/-! # What a tracker keeps of one vertex

Records about many vertices come mixed. What a tracker keeps of a vertex is an account: the
name it was declared with and its step without the number. A record changes the account of
its own vertex, in a way that depends on this account only, and no other
(`Booked.account_apply`), so an account comes from the records about its vertex alone. All
that vertices share is the order in which they become steps: records that are mixed in
another way give the same tracker if this order is the same (`applyAll_eq_of_parts`).
-/

namespace ContainerTasks.Progress

/-- A step without its number. -/
def Step.unnumbered (step : Step) : Step :=
  { step with index := 0 }

/-- What is known of one vertex: the name it was declared with, and its step without the
number. -/
structure Account where
  declared : Option String := none
  step : Option Step := none

theorem Step.eq_of_unnumbered {step other : Step} (alike : step.unnumbered = other.unnumbered)
    (number : step.index = other.index) : step = other :=
  calc step = { step.unnumbered with index := step.index } := rfl
    _ = { other.unnumbered with index := other.index } := by rw [alike, number]
    _ = other := rfl

theorem Step.rename_empty (step : Step) : step.rename "" = step := by
  unfold Step.rename
  by_cases unnamed : step.name.isEmpty
  · rw [if_pos unnamed, ← String.isEmpty_iff.mp unnamed]
  · rw [if_neg unnamed]

namespace Account

/-- Makes the vertex a step if it is declared and none yet. -/
def enter (account : Account) (vertex : String) : Account :=
  { account with
    step := account.step.or (account.declared.map fun name => { vertex, index := 0, name }) }

/-- Changes the step, if there is one. -/
def modify (account : Account) (change : Step → Step) : Account :=
  { account with step := account.step.map change }

/-- Changes the step unless it is sealed. -/
def modifyOpen (account : Account) (change : Step → Step) : Account :=
  account.modify fun step => if step.isSealed then step else change step

/-- Declares the vertex. Its first name that is not empty counts. -/
def declare (account : Account) (name : String) : Account where
  declared := some (if (account.declared.getD "").isEmpty then name else account.declared.getD "")
  step := account.step.map (·.rename name)

/-- Takes in one record about the vertex. -/
def take (account : Account) : Record → Account
  | .declared _ name => account.declare name
  | .started vertex time => (account.enter vertex).modify (·.start time)
  | .completed vertex cached error =>
    (account.enter vertex).modifyOpen (·.complete cached error)
  | .operated vertex text current total _ isCompleted =>
    (account.enter vertex).modifyOpen (·.operate text current total isCompleted)
  | .printed vertex time data => (account.enter vertex).modifyOpen (·.print time data)

end Account

namespace Tracker

/-- What a tracker keeps of a vertex. -/
def account (tracker : Tracker) (vertex : String) : Account where
  declared := tracker.declared[vertex]?
  step := (tracker.stepOf? vertex).map Step.unnumbered

variable {tracker : Tracker} {vertex : String}

theorem booked_applyAll (booked : tracker.Booked) (records : List Record) :
    (tracker.applyAll records).Booked := by
  induction records generalizing tracker with
  | nil => exact booked
  | cons record rest ih => exact ih (booked.apply record)

@[simp]
theorem declared_enter (tracker : Tracker) (vertex : String) :
    (tracker.enter vertex).declared = tracker.declared := by
  unfold enter
  split
  · rfl
  · split <;> rfl

/-- A declaration without a name only makes the vertex known. -/
theorem getElem?_declared_declare_empty (tracker : Tracker) (vertex other : String) :
    (tracker.declare vertex "").declared[other]? =
      if vertex = other then some (tracker.declared[other]?.getD "")
      else tracker.declared[other]? := by
  rw [declare, if_pos (show "".isEmpty = true from rfl), Std.ExtTreeMap.getElem?_insertIfNew]
  by_cases same : vertex = other
  · subst same
    rw [if_pos rfl]
    cases known : tracker.declared[vertex]? with
    | none =>
        have fresh : vertex ∉ tracker.declared := by
          rw [Std.ExtTreeMap.mem_iff_isSome_getElem?, known]
          exact Bool.false_ne_true
        exact if_pos ⟨Std.compare_eq_iff_eq.mpr rfl, fresh⟩
    | some former =>
        have present : vertex ∈ tracker.declared := by
          rw [Std.ExtTreeMap.mem_iff_isSome_getElem?, known, Option.isSome_some]
        exact if_neg fun fresh => fresh.2 present
  · rw [if_neg fun fresh => same (Std.compare_eq_iff_eq.mp fresh.1), if_neg same]

/-- The name that a vertex is declared with is its first one that is not empty. -/
theorem getElem?_declared_declare (tracker : Tracker) (vertex name other : String) :
    (tracker.declare vertex name).declared[other]? =
      if vertex = other then
        some (if (tracker.declared[other]?.getD "").isEmpty then name
          else tracker.declared[other]?.getD "")
      else tracker.declared[other]? := by
  cases empty : name.isEmpty with
  | true =>
      obtain rfl := String.isEmpty_iff.mp empty
      rw [getElem?_declared_declare_empty]
      by_cases unnamed : (tracker.declared[other]?.getD "").isEmpty
      · rw [if_pos unnamed, String.isEmpty_iff.mp unnamed]
      · rw [if_neg unnamed]
  | false =>
      rw [declare_named tracker vertex empty, Std.ExtTreeMap.getD_eq_getD_getElem?]
      dsimp only
      by_cases same : vertex = other
      · subst same
        rw [if_pos rfl]
        by_cases unnamed : (tracker.declared[vertex]?.getD "").isEmpty
        · rw [if_pos unnamed, if_pos unnamed, Std.ExtTreeMap.getElem?_insert_self]
        · rw [if_neg unnamed, if_neg unnamed]
          cases known : tracker.declared[vertex]? with
          | none =>
              rw [known] at unnamed
              exact (unnamed rfl).elim
          | some former => rfl
      · rw [if_neg same]
        by_cases unnamed : (tracker.declared[vertex]?.getD "").isEmpty
        · rw [if_pos unnamed, Std.ExtTreeMap.getElem?_insert,
            if_neg (mt Std.compare_eq_iff_eq.mp same)]
        · rw [if_neg unnamed]

/-- A change of steps that does not look at the number. -/
def Blind (change : Step → Step) : Prop :=
  ∀ step, (change step).unnumbered = change step.unnumbered

theorem Blind.unlessSealed {change : Step → Step} (blind : Blind change) :
    Blind fun step => if step.isSealed then step else change step := by
  intro step
  exact (apply_ite Step.unnumbered _ _ _).trans (ite_congr rfl (fun _ => rfl) fun _ => blind step)

theorem blind_rename (name : String) : Blind (·.rename name) :=
  fun _ => apply_ite Step.unnumbered _ _ _

theorem blind_operate (text : String) (current total : Int64) (isCompleted : Bool) :
    Blind (·.operate text current total isCompleted) := by
  intro step
  unfold Step.operate Step.unnumbered
  by_cases sized : 0 < total <;> by_cases first : isCompleted && !step.finished.contains text <;>
    simp only [sized, first, ↓reduceIte, Bool.false_eq_true]

theorem blind_print (time : Instant) (data : Bytes) : Blind (·.print time data) :=
  fun _ => apply_ite Step.unnumbered _ _ _

namespace Booked

variable (booked : tracker.Booked)

include booked

theorem vertex_stepOf? {step : Step} (found : tracker.stepOf? vertex = some step) :
    step.vertex = vertex := by
  obtain ⟨position, placed, present⟩ := Option.bind_eq_some_iff.mp found
  obtain ⟨other, there, same⟩ := (booked.placed vertex position).mp placed
  rw [Option.some.inj (present.symm.trans there), same]

theorem stepOf?_modifyStep (change : Step → Step) (other : String) :
    (tracker.modifyStep vertex change).stepOf? other =
      if vertex = other then (tracker.stepOf? other).map change else tracker.stepOf? other := by
  have changed : (tracker.modifyStep vertex change).stepOf? other =
      (tracker.stepOf? other).map fun step => if step.vertex = vertex then change step else step := by
    rw [stepOf?, stepOf?, positions_modifyStep, booked.steps_modifyStep, Option.map_bind]
    simp only [List.getElem?_map]
    rfl
  rw [changed]
  by_cases same : vertex = other
  · rw [if_pos same]
    exact Option.map_congr fun step found =>
      if_pos ((booked.vertex_stepOf? found).trans same.symm)
  · rw [if_neg same]
    refine (Option.map_congr fun step found => if_neg ?_).trans Option.map_id'
    intro owner
    exact same (owner.symm.trans (booked.vertex_stepOf? found))

theorem isSome_stepOf?_iff :
    (tracker.stepOf? vertex).isSome ↔ (tracker.positions[vertex]?).isSome := by
  constructor
  · intro present
    cases placed : tracker.positions[vertex]? with
    | none =>
        rw [stepOf?, placed] at present
        cases present
    | some position => rfl
  · intro present
    obtain ⟨position, placed⟩ := Option.isSome_iff_exists.mp present
    obtain ⟨step, found, -⟩ := (booked.placed vertex position).mp placed
    rw [stepOf?, placed, Option.bind_some, found]
    rfl

/-- A vertex becomes a step when it is declared and none yet, and no other vertex does. -/
theorem stepOf?_enter (other : String) :
    (tracker.enter vertex).stepOf? other =
      if vertex = other then
        (tracker.stepOf? vertex).or (tracker.declared[vertex]?.map fun name =>
          { vertex, index := tracker.steps.length + 1, name })
      else tracker.stepOf? other := by
  by_cases placed : tracker.positions.contains vertex
  · have known : (tracker.stepOf? vertex).isSome := by
      rw [booked.isSome_stepOf?_iff, Std.ExtTreeMap.isSome_getElem?_eq_contains]
      exact placed
    rw [Tracker.enter, if_pos placed, Option.or_of_isSome known]
    by_cases here : vertex = other
    · rw [if_pos here, here]
    · rw [if_neg here]
  · have unplaced : tracker.positions[vertex]? = none :=
      Std.ExtTreeMap.getElem?_eq_none fun member =>
        placed (Std.ExtTreeMap.contains_iff_mem.mpr member)
    have unknown : tracker.stepOf? vertex = none := by rw [stepOf?, unplaced, Option.bind_none]
    rw [Tracker.enter, if_neg placed, unknown, Option.none_or]
    cases declared : tracker.declared[vertex]? with
    | none =>
        by_cases here : vertex = other
        · rw [if_pos here, ← here, unknown, Option.map_none]
        · rw [if_neg here]
    | some name =>
        dsimp only
        by_cases here : vertex = other
        · subst here
          rw [if_pos rfl, stepOf?, Std.ExtTreeMap.getElem?_insert_self, Option.bind_some,
            List.getElem?_concat_length, Option.map_some]
        · rw [if_neg here, stepOf?, Std.ExtTreeMap.getElem?_insert,
            if_neg (mt Std.compare_eq_iff_eq.mp here), stepOf?]
          refine Option.bind_congr fun position found => ?_
          obtain ⟨step, present, -⟩ := (booked.placed other position).mp found
          exact List.getElem?_append_left (List.getElem?_eq_some_iff.mp present).1

theorem account_modifyStep {change : Step → Step} (blind : Blind change) (other : String) :
    (tracker.modifyStep vertex change).account other =
      if vertex = other then (tracker.account other).modify change else tracker.account other := by
  unfold account
  rw [declared_modifyStep, booked.stepOf?_modifyStep]
  by_cases same : vertex = other
  · rw [if_pos same, if_pos same, Account.modify, Option.map_map, Option.map_map]
    congr 2
    exact funext blind
  · rw [if_neg same, if_neg same]

theorem account_modifyOpen {change : Step → Step} (blind : Blind change) (other : String) :
    (tracker.modifyOpen vertex change).account other =
      if vertex = other then (tracker.account other).modifyOpen change
      else tracker.account other :=
  booked.account_modifyStep blind.unlessSealed other

theorem account_enter (other : String) :
    (tracker.enter vertex).account other =
      if vertex = other then (tracker.account other).enter vertex else tracker.account other := by
  unfold account
  rw [declared_enter, booked.stepOf?_enter]
  by_cases same : vertex = other
  · subst same
    rw [if_pos rfl, if_pos rfl, Account.enter, Option.map_or, Option.map_map]
    rfl
  · rw [if_neg same, if_neg same]

theorem account_complete (cached : Bool) (error : Option String) (other : String) :
    (tracker.complete vertex cached error).account other =
      if vertex = other then (tracker.account other).modifyOpen (·.complete cached error)
      else tracker.account other := by
  rw [Tracker.complete]
  cases found : tracker.stepOf? vertex with
  | none =>
      by_cases same : vertex = other
      · subst same
        rw [if_pos rfl, account, found]
        rfl
      · rw [if_neg same]
  | some step =>
      dsimp only
      have opened : vertex = other → (tracker.account other).modifyOpen (·.complete cached error) =
          { tracker.account other with
            step := some (if step.isSealed then step.unnumbered
              else step.unnumbered.complete cached error) } := by
        rintro rfl
        rw [account, found]
        rfl
      by_cases isSealed : step.isSealed
      · rw [if_pos isSealed]
        by_cases same : vertex = other
        · rw [if_pos same, opened same, if_pos isSealed, account, ← same, found]
          rfl
        · rw [if_neg same]
      · rw [if_neg isSealed]
        have blind : Blind (·.complete cached error) := fun _ => rfl
        refine (booked.account_modifyStep blind other).trans ?_
        by_cases same : vertex = other
        · rw [if_pos same, if_pos same, opened same, if_neg isSealed, account, ← same, found]
          rfl
        · rw [if_neg same, if_neg same]

theorem stepOf?_declare (name other : String) :
    (tracker.declare vertex name).stepOf? other =
      if vertex = other then (tracker.stepOf? other).map (·.rename name)
      else tracker.stepOf? other := by
  rw [← booked.stepOf?_modifyStep]
  cases empty : name.isEmpty with
  | true =>
      obtain rfl := String.isEmpty_iff.mp empty
      rw [booked.stepOf?_modifyStep, Tracker.declare, if_pos empty]
      by_cases same : vertex = other
      · rw [if_pos same, funext Step.rename_empty]
        exact Option.map_id'.symm
      · rw [if_neg same]
        rfl
  | false =>
      rw [declare_named tracker vertex empty]
      rfl

theorem account_declare (name other : String) :
    (tracker.declare vertex name).account other =
      if vertex = other then (tracker.account other).declare name else tracker.account other := by
  unfold account
  rw [getElem?_declared_declare, booked.stepOf?_declare]
  by_cases same : vertex = other
  · rw [if_pos same, if_pos same, if_pos same, Account.declare, Option.map_map, Option.map_map]
    congr 2
    exact funext (blind_rename name)
  · rw [if_neg same, if_neg same, if_neg same]

/-- After a vertex has become a step, only its own account differs. -/
theorem account_entered (vertex other : String) (change : Account → Account) :
    (if vertex = other then change ((tracker.enter vertex).account other)
      else (tracker.enter vertex).account other) =
    if vertex = other then change ((tracker.account other).enter vertex)
      else tracker.account other := by
  rw [booked.account_enter]
  by_cases same : vertex = other
  · simp only [if_pos same]
  · simp only [if_neg same]

/-- **Accounts.** A record changes the account of its vertex and no other. -/
theorem account_apply (record : Record) (other : String) :
    (tracker.apply record).account other =
      if record.vertex = other then (tracker.account other).take record
      else tracker.account other := by
  cases record with
  | declared vertex name => exact booked.account_declare name other
  | started vertex time =>
      have blind : Blind (·.start time) := fun _ => rfl
      exact ((booked.enter vertex).account_modifyStep blind other).trans
        (booked.account_entered vertex other fun account => account.modify (·.start time))
  | completed vertex cached error =>
      exact ((booked.enter vertex).account_complete cached error other).trans
        (booked.account_entered vertex other fun account =>
          account.modifyOpen (·.complete cached error))
  | operated vertex text current total _ isCompleted =>
      have blind := blind_operate text current total isCompleted
      exact ((booked.enter vertex).account_modifyOpen blind other).trans
        (booked.account_entered vertex other fun account =>
          account.modifyOpen (·.operate text current total isCompleted))
  | printed vertex time data =>
      have blind := blind_print time data
      exact ((booked.enter vertex).account_modifyOpen blind other).trans
        (booked.account_entered vertex other fun account =>
          account.modifyOpen (·.print time data))

/-- The account of a vertex comes from the records about it alone. -/
theorem account_applyAll (records : List Record) (vertex : String) :
    (tracker.applyAll records).account vertex =
      (records.filter fun record => record.vertex = vertex).foldl Account.take
        (tracker.account vertex) := by
  induction records generalizing tracker with
  | nil => rfl
  | cons record rest ih =>
      have later := ih (booked.apply record)
      rw [booked.account_apply] at later
      refine later.trans ?_
      by_cases same : record.vertex = vertex
      · rw [if_pos same, List.filter_cons_of_pos (by simpa using same), List.foldl_cons]
      · rw [if_neg same, List.filter_cons_of_neg (by simpa using same)]

theorem stepOf?_of_getElem? {position : Nat} {step : Step}
    (found : tracker.steps[position]? = some step) : tracker.stepOf? step.vertex = some step := by
  rw [stepOf?, (booked.placed step.vertex position).mpr ⟨step, found, rfl⟩, Option.bind_some, found]

/-- Steps are the same if they have the same vertices in the same order and the accounts of all
vertices are the same. -/
theorem steps_eq_of_account {other : Tracker} (agrees : other.Booked)
    (order : tracker.steps.map Step.vertex = other.steps.map Step.vertex)
    (accounts : ∀ vertex, tracker.account vertex = other.account vertex) :
    tracker.steps = other.steps := by
  refine List.ext_getElem? fun position => ?_
  have placed := congrArg (·[position]?) order
  simp only [List.getElem?_map] at placed
  cases found : tracker.steps[position]? with
  | none =>
      rw [found] at placed
      exact (Option.map_eq_none_iff.mp placed.symm).symm
  | some step =>
      rw [found, Option.map_some] at placed
      obtain ⟨later, present, same⟩ := Option.map_eq_some_iff.mp placed.symm
      have alike : some step.unnumbered = some later.unnumbered := by
        have account := congrArg Account.step (accounts step.vertex)
        rw [Tracker.account, Tracker.account, booked.stepOf?_of_getElem? found, ← same,
          agrees.stepOf?_of_getElem? present] at account
        exact account
      have number : step.index = later.index := by
        rw [booked.valid.numbered position step found, agrees.valid.numbered position later present]
      rw [present, Step.eq_of_unnumbered (Option.some.inj alike) number]

/-- Trackers whose books agree with the steps are the same if their steps have the same
vertices in the same order and they keep the same of every vertex. -/
theorem eq_of_account {other : Tracker} (agrees : other.Booked)
    (order : tracker.steps.map Step.vertex = other.steps.map Step.vertex)
    (accounts : ∀ vertex, tracker.account vertex = other.account vertex) : tracker = other := by
  have steps := booked.steps_eq_of_account agrees order accounts
  have declared : tracker.declared = other.declared :=
    Std.ExtTreeMap.ext_getElem? fun vertex => congrArg Account.declared (accounts vertex)
  have positions : tracker.positions = other.positions := by
    refine Std.ExtTreeMap.ext_getElem? fun vertex => Option.ext fun position => ?_
    rw [booked.placed, agrees.placed, steps]
  have active : tracker.active = other.active := by
    refine Std.ExtTreeSet.ext_mem fun number => ?_
    rw [booked.valid.mem_active_iff, agrees.valid.mem_active_iff, steps]
  cases tracker
  cases other
  cases declared
  cases positions
  cases steps
  cases active
  rfl

end Booked

/-- **Mixed records.** Two ways to mix the same records about each vertex lead a new tracker
to the same state if the vertices become steps in the same order. -/
theorem applyAll_eq_of_parts {first second : List Record}
    (parts : ∀ vertex, first.filter (fun record => record.vertex = vertex) =
      second.filter fun record => record.vertex = vertex)
    (order : (({} : Tracker).applyAll first).steps.map Step.vertex =
      (({} : Tracker).applyAll second).steps.map Step.vertex) :
    ({} : Tracker).applyAll first = ({} : Tracker).applyAll second := by
  have start : ({} : Tracker).Booked := .start
  refine (booked_applyAll start first).eq_of_account (booked_applyAll start second) order ?_
  intro vertex
  rw [start.account_applyAll, start.account_applyAll, parts]

/-- Records about two vertices, one after the other. -/
def inTurn : List Record :=
  [.declared "a" "pull", .started "a" ⟨1, 0⟩, .operated "a" "layer" 5 10 true true,
    .completed "a" false none, .declared "b" "", .printed "b" ⟨2, 0⟩ [104], .declared "b" "run",
    .completed "b" false (some "exit code: 1")]

/-- The same records about each of them, mixed. -/
def mixed : List Record :=
  [.declared "b" "", .declared "a" "pull", .started "a" ⟨1, 0⟩, .printed "b" ⟨2, 0⟩ [104],
    .operated "a" "layer" 5 10 true true, .declared "b" "run",
    .completed "b" false (some "exit code: 1"), .completed "a" false none]

theorem applyAll_eq_of_parts_mixed :
    (∀ vertex, inTurn.filter (fun record => record.vertex = vertex) =
        mixed.filter fun record => record.vertex = vertex) ∧
      (({} : Tracker).applyAll inTurn).steps.map Step.vertex = ["a", "b"] ∧
      (({} : Tracker).applyAll mixed).steps.map Step.vertex = ["a", "b"] ∧
      ({} : Tracker).applyAll inTurn = ({} : Tracker).applyAll mixed := by
  have parts : ∀ vertex, inTurn.filter (fun record => record.vertex = vertex) =
      mixed.filter fun record => record.vertex = vertex := by
    intro vertex
    by_cases first : "a" = vertex
    · subst first
      decide
    · by_cases second : "b" = vertex
      · subst second
        decide
      · simp [inTurn, mixed, Record.vertex, first, second]
  have early : (({} : Tracker).applyAll inTurn).steps.map Step.vertex = ["a", "b"] := by
    decide +kernel
  have late : (({} : Tracker).applyAll mixed).steps.map Step.vertex = ["a", "b"] := by
    decide +kernel
  exact ⟨parts, early, late, applyAll_eq_of_parts parts (early.trans late.symm)⟩

end Tracker

end ContainerTasks.Progress
