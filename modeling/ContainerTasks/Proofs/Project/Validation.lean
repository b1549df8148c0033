import ContainerTasks.Proofs.Project.Acceptance
import ContainerTasks.Proofs.Text.ByteOrder

/-! # What makes a project valid

The rules for a draft are stated here one by one, apart from the order in which they are
checked. A draft is accepted exactly if it keeps all of them (`Draft.accept_exact`); otherwise
the fault is that of the first entry that does not keep the rules for it, and tasks are looked
at only if there is nothing wrong with the containers.
-/

namespace ContainerTasks.Project

/-- A command that need not be there is divided into words, at least one. -/
def Splits (command : Option String) : Prop :=
  ∀ text, command = some text → ∃ first further, Shell.words? text = some (first :: further)

/-- The rules for a container with a name. -/
structure ContainerDraft.Valid (draft : ContainerDraft) (name : String) : Prop where
  named : Text.isBlankText name = false
  /-- It has an image or a directory to build from, and not both. -/
  sourced : draft.image.isSome ≠ draft.buildDirectory.isSome
  /-- A build file and arguments belong to a directory. -/
  settings : draft.buildDirectory = none → draft.dockerfile = none ∧ draft.buildArguments = ∅
  dependencies : ∀ dependency ∈ draft.dependencies, Text.isBlankText dependency = false
  command : Splits draft.command

/-- The rules for a task with a name. -/
structure TaskDraft.Valid (draft : TaskDraft) (name : String) : Prop where
  named : Text.isBlankText name = false
  runs : ∀ run, draft.run = some run →
    Text.isBlankText run.container = false ∧ Splits run.command
  /-- A task that runs nothing has prerequisites. -/
  groups : draft.run = none → draft.prerequisites ≠ []
  dependencies : ∀ dependency ∈ draft.dependencies, Text.isBlankText dependency = false
  prerequisites : ∀ prerequisite ∈ draft.prerequisites, Text.isBlankText prerequisite = false

/-- The rules for a project. -/
structure Draft.Valid (draft : Draft) : Prop where
  named : ∀ name, draft.name = some name → Text.isBlankText name = false
  containers : ∀ (name : String) (container : ContainerDraft),
    draft.containers[name]? = some container → container.Valid name
  tasks : ∀ (name : String) (task : TaskDraft), draft.tasks[name]? = some task → task.Valid name

theorem exists_parseOptionalCommand_iff {command : Option String} :
    (∃ arguments, parseOptionalCommand command = .ok arguments) ↔ Splits command := by
  cases command with
  | none => simp [parseOptionalCommand, Splits]
  | some text =>
      simp only [parseOptionalCommand, parseCommand, Splits, Option.some.injEq, forall_eq']
      cases Shell.words? text with
      | none => simp [Except.map]
      | some words => cases words <;> simp [Except.map]

theorem any_isBlankText_eq_false_iff {names : NameSet} :
    names.toList.any Text.isBlankText = false ↔
      ∀ name ∈ names, Text.isBlankText name = false := by
  simp [Std.ExtTreeSet.mem_toList]

namespace ContainerDraft

variable {draft : ContainerDraft} {name directory : String}

theorem exists_source_iff : (∃ source, draft.source directory = .ok source) ↔
    draft.image.isSome ≠ draft.buildDirectory.isSome ∧
      (draft.buildDirectory = none → draft.dockerfile = none ∧ draft.buildArguments = ∅) := by
  unfold source
  cases draft.image with
  | none => cases draft.buildDirectory <;> simp
  | some image =>
      cases draft.buildDirectory with
      | some path => simp
      | none =>
          by_cases settings : draft.dockerfile = none ∧ draft.buildArguments = ∅
          · simp [settings.1, settings.2]
          · have given : (draft.dockerfile.isSome || !draft.buildArguments.isEmpty) = true := by
              rw [Bool.or_eq_true, Option.isSome_iff_ne_none, Bool.not_eq_true', ← Bool.not_eq_true,
                Std.ExtTreeMap.isEmpty_iff]
              exact Decidable.not_and_iff_not_or_not.mp settings
            simp [given, settings]

/-- A container is accepted exactly if it keeps the rules. -/
theorem exists_accept_iff :
    (∃ container, draft.accept name directory = .ok container) ↔ draft.Valid name := by
  constructor
  · rintro ⟨container, made⟩
    unfold accept at made
    dsimp only at made
    split at made
    · cases made
    · rename_i named
      obtain ⟨source, sourced, made⟩ := exists_of_bind_eq_ok made
      obtain ⟨one, settings⟩ := exists_source_iff.mp ⟨source, sourced⟩
      split at made
      · cases made
      · rename_i dependencies
        obtain ⟨command, splits, -⟩ := exists_of_bind_eq_ok made
        exact ⟨by simpa using named, one, settings,
          any_isBlankText_eq_false_iff.mp (by simpa using dependencies),
          exists_parseOptionalCommand_iff.mp ⟨command, ok_of_mapError splits⟩⟩
  · intro valid
    obtain ⟨source, sourced⟩ : ∃ source, draft.source directory = .ok source :=
      exists_source_iff.mpr ⟨valid.sourced, valid.settings⟩
    obtain ⟨command, splits⟩ := exists_parseOptionalCommand_iff.mpr valid.command
    cases made : draft.accept name directory with
    | ok container => exact ⟨container, rfl⟩
    | error fault =>
        unfold accept at made
        simp only [valid.named, sourced, any_isBlankText_eq_false_iff.mpr valid.dependencies,
          splits] at made
        cases made

end ContainerDraft

namespace TaskDraft

variable {draft : TaskDraft} {name : String}

theorem exists_acceptRun_iff : (∃ run, draft.acceptRun = .ok run) ↔
    (∀ run, draft.run = some run →
      Text.isBlankText run.container = false ∧ Splits run.command) ∧
      (draft.run = none → draft.prerequisites ≠ []) := by
  unfold acceptRun
  cases draft.run with
  | none => cases draft.prerequisites <;> simp
  | some run =>
      simp only [Option.some.injEq, forall_eq', reduceCtorEq, false_implies, and_true]
      constructor
      · rintro ⟨accepted, made⟩
        split at made
        · cases made
        · rename_i named
          obtain ⟨command, splits, -⟩ := exists_of_bind_eq_ok made
          exact ⟨by simpa using named,
            exists_parseOptionalCommand_iff.mp ⟨command, ok_of_mapError splits⟩⟩
      · rintro ⟨named, valid⟩
        obtain ⟨command, splits⟩ := exists_parseOptionalCommand_iff.mpr valid
        rw [named, splits]
        exact ⟨_, rfl⟩

/-- A task is accepted exactly if it keeps the rules. -/
theorem exists_accept_iff : (∃ task, draft.accept name = .ok task) ↔ draft.Valid name := by
  constructor
  · rintro ⟨task, made⟩
    unfold accept at made
    dsimp only at made
    split at made
    · cases made
    · rename_i named
      obtain ⟨run, accepted, made⟩ := exists_of_bind_eq_ok made
      obtain ⟨runs, groups⟩ := exists_acceptRun_iff.mp ⟨run, accepted⟩
      split at made
      · cases made
      · rename_i dependencies
        split at made
        · cases made
        · rename_i prerequisites
          exact ⟨by simpa using named, runs, groups,
            any_isBlankText_eq_false_iff.mp (by simpa using dependencies),
            by simpa using prerequisites⟩
  · intro valid
    obtain ⟨run, accepted⟩ := exists_acceptRun_iff.mpr ⟨valid.runs, valid.groups⟩
    have prerequisites : draft.prerequisites.any Text.isBlankText = false := by
      simpa using valid.prerequisites
    cases made : draft.accept name with
    | ok task => exact ⟨task, rfl⟩
    | error fault =>
        unfold accept at made
        simp only [valid.named, accepted, any_isBlankText_eq_false_iff.mpr valid.dependencies,
          prerequisites] at made
        cases made

end TaskDraft

namespace Draft

variable {α β ε : Type} {accept : String → α → Except ε β}

/-- Entries are accepted exactly if each of them is. -/
theorem exists_acceptEntries_iff {entries : List (String × α)} :
    (∃ accepted, acceptEntries accept entries = .ok accepted) ↔
      ∀ entry ∈ entries, ∃ value, accept entry.1 entry.2 = .ok value := by
  induction entries with
  | nil => exact ⟨fun _ => by simp, fun _ => ⟨[], rfl⟩⟩
  | cons entry rest ih =>
      rw [List.forall_mem_cons, ← ih, acceptEntries_cons]
      cases accept entry.1 entry.2 with
      | error fault => simp [bind, Except.bind]
      | ok value => cases acceptEntries accept rest <;> simp [bind, Except.bind, Except.map]

/-- Where entries are not accepted, all before the one at fault are. -/
theorem exists_of_acceptEntries_error {entries : List (String × α)} {fault : ε}
    (failed : acceptEntries accept entries = .error fault) :
    ∃ before entry after, entries = before ++ entry :: after ∧
      (∀ other ∈ before, ∃ value, accept other.1 other.2 = .ok value) ∧
      accept entry.1 entry.2 = .error fault := by
  induction entries with
  | nil => cases failed
  | cons entry rest ih =>
      rw [acceptEntries_cons] at failed
      cases here : accept entry.1 entry.2 with
      | error other =>
          rw [here] at failed
          cases failed
          exact ⟨[], entry, rest, rfl, by simp, here⟩
      | ok value =>
          cases later : acceptEntries accept rest with
          | ok values =>
              rw [here, later] at failed
              cases failed
          | error other =>
              rw [here, later] at failed
              cases failed
              obtain ⟨before, blamed, after, rfl, fine, faulty⟩ := ih later
              exact ⟨entry :: before, blamed, after, rfl,
                List.forall_mem_cons.mpr ⟨⟨value, here⟩, fine⟩, faulty⟩

/-- Accepted entries stand under all names that were stated. -/
theorem isSome_of_acceptEntries {table : Std.ExtTreeMap String α} {accepted : List (String × β)}
    (made : acceptEntries accept table.toList = .ok accepted) (name : String) :
    (Std.ExtTreeMap.ofList accepted)[name]?.isSome = table[name]?.isSome := by
  obtain ⟨names, -⟩ := acceptEntries_ok made
  rw [Bool.eq_iff_iff, ← Std.ExtTreeMap.mem_iff_isSome_getElem?, Std.ExtTreeMap.mem_ofList, names,
    List.contains_iff_mem, ← Std.ExtTreeMap.mem_iff_isSome_getElem?,
    Std.ExtTreeMap.map_fst_toList_eq_keys, Std.ExtTreeMap.mem_keys]

/-- A name that something holds of, and the first such name in the order of bytes. -/
structure IsFirst (holds : String → Prop) (name : String) : Prop where
  itself : holds name
  least : ∀ other, holds other → Text.Utf8.ofString name ≤ Text.Utf8.ofString other

/-- A name stands in a table with an entry that does not keep the rules. -/
def Breaks (valid : α → String → Prop) (table : Std.ExtTreeMap String α) (name : String) : Prop :=
  ∃ entry, table[name]? = some entry ∧ ¬ valid entry name

/-- The entry at fault is the first of those that do not keep the rules. -/
theorem isFirst_of_acceptEntries_error {valid : α → String → Prop}
    {table : Std.ExtTreeMap String α} {fault : ε}
    (judges : ∀ name entry, (∃ value, accept name entry = .ok value) ↔ valid entry name)
    (failed : acceptEntries accept table.toList = .error fault) :
    ∃ name entry, accept name entry = .error fault ∧ IsFirst (Breaks valid table) name := by
  obtain ⟨before, ⟨name, entry⟩, after, split, fine, faulty⟩ :=
    exists_of_acceptEntries_error failed
  have present : (name, entry) ∈ table.toList := by simp [split]
  have ordered := split ▸ table.ordered_keys_toList
  refine ⟨name, entry, faulty, ⟨entry, ?_, ?_⟩, ?_⟩
  · exact Std.ExtTreeMap.mem_toList_iff_getElem?_eq_some.mp present
  · rw [← judges, faulty]
    simp
  · rintro other ⟨otherEntry, found, invalid⟩
    have member := Std.ExtTreeMap.mem_toList_iff_getElem?_eq_some.mpr found
    rw [split, List.mem_append, List.mem_cons] at member
    rcases member with earlier | same | later
    · exact (invalid ((judges other otherEntry).mp (fine _ earlier))).elim
    · obtain ⟨rfl, rfl⟩ := Prod.mk.inj same
      exact List.le_refl _
    · have front := (List.pairwise_append.mp ordered).2.1
      have less := (List.pairwise_cons.mp front).1 _ later
      exact List.le_of_lt (Text.Utf8.ofString_lt less)

variable {draft : Draft} {directory : String}

/-- What an error blames: the name of the project, or else the first container that does not
keep the rules, or else, if there is none, the first such task. -/
inductive Blames (draft : Draft) : Error → Prop
  | name {name : String} (stated : draft.name = some name) (blank : Text.isBlankText name = true) :
      Blames draft .emptyProjectName
  | container {name : String} {fault : ContainerFault}
      (first : IsFirst (Breaks ContainerDraft.Valid draft.containers) name) :
      Blames draft (.container name fault)
  | task {name : String} {fault : TaskFault}
      (sound : ∀ name, ¬ Breaks ContainerDraft.Valid draft.containers name)
      (first : IsFirst (Breaks TaskDraft.Valid draft.tasks) name) : Blames draft (.task name fault)

theorem projectName_settles (draft : Draft) (directory : String) :
    Settles (fun _ => ∀ name, draft.name = some name → Text.isBlankText name = false)
      draft.Blames (draft.projectName directory) := by
  unfold projectName
  cases stated : draft.name with
  | none => exact nofun
  | some name =>
      dsimp only
      cases blank : Text.isBlankText name with
      | true => exact .name stated blank
      | false =>
          rintro _ ⟨⟩
          exact blank

theorem judges_mapError {α β ε ω : Type} {accept : String → α → Except ε β}
    {change : String → ε → ω} {valid : α → String → Prop}
    (judges : ∀ name entry, (∃ value, accept name entry = .ok value) ↔ valid entry name)
    (name : String) (entry : α) :
    (∃ value, (accept name entry).mapError (change name) = .ok value) ↔ valid entry name := by
  rw [← judges]
  cases accept name entry <;> simp [Except.mapError]

/-- Entries are accepted if all of them keep the rules, and otherwise the first that does not
is at fault. -/
theorem acceptEntries_settles {α β ε ω : Type} {accept : String → α → Except ε β}
    {change : String → ε → ω} {valid : α → String → Prop} {blames : ω → Prop}
    (table : Std.ExtTreeMap String α)
    (judges : ∀ name entry, (∃ value, accept name entry = .ok value) ↔ valid entry name)
    (blamed : ∀ name fault, IsFirst (Breaks valid table) name → blames (change name fault)) :
    Settles
      (fun accepted => (∀ name, ¬ Breaks valid table name) ∧
        ∀ name : String,
          (Std.ExtTreeMap.ofList accepted)[name]?.isSome = table[name]?.isSome)
      blames
      (acceptEntries (fun name entry => (accept name entry).mapError (change name))
        table.toList) := by
  cases made : acceptEntries (fun name entry => (accept name entry).mapError (change name))
      table.toList with
  | ok accepted =>
      refine ⟨?_, isSome_of_acceptEntries made⟩
      rintro name ⟨entry, found, invalid⟩
      have fine := exists_acceptEntries_iff.mp ⟨accepted, made⟩ (name, entry)
        (Std.ExtTreeMap.mem_toList_iff_getElem?_eq_some.mpr found)
      exact invalid ((judges_mapError judges name entry).mp fine)
  | error error =>
      obtain ⟨name, entry, faulty, first⟩ :=
        isFirst_of_acceptEntries_error (judges_mapError judges) made
      cases own : accept name entry with
      | ok value =>
          rw [own] at faulty
          cases faulty
      | error fault =>
          rw [own] at faulty
          cases faulty
          exact blamed name fault first

/-- A draft that is accepted keeps the rules, and an error blames what does not. -/
theorem accept_settles (draft : Draft) (directory : String) :
    Settles
      (fun project => draft.Valid ∧
        (∀ name, (project.container? name).isSome = draft.containers[name]?.isSome) ∧
          ∀ name, (project.task? name).isSome = draft.tasks[name]?.isSome)
      draft.Blames (draft.accept directory) := by
  unfold accept
  refine (projectName_settles draft directory).bind fun title named => ?_
  refine (acceptEntries_settles draft.containers
    (fun name entry => ContainerDraft.exists_accept_iff)
    (fun name fault first => .container first)).bind fun containers present => ?_
  obtain ⟨sound, containersPresent⟩ := present
  refine (acceptEntries_settles draft.tasks
    (fun name entry => TaskDraft.exists_accept_iff)
    (fun name fault first => .task sound first)).bind fun tasks present => ?_
  obtain ⟨soundTasks, tasksPresent⟩ := present
  refine ⟨⟨named, ?_, ?_⟩, containersPresent, tasksPresent⟩
  · intro name container found
    by_contra invalid
    exact sound name ⟨container, found, invalid⟩
  · intro name task found
    by_contra invalid
    exact soundTasks name ⟨task, found, invalid⟩

/-- What is blamed does not keep the rules. -/
theorem Blames.not_valid {error : Error} (blames : draft.Blames error) : ¬ draft.Valid := by
  intro valid
  cases blames with
  | name stated blank => exact absurd (valid.named _ stated) (by simp [blank])
  | container first =>
      obtain ⟨entry, found, invalid⟩ := first.itself
      exact invalid (valid.containers _ entry found)
  | task sound first =>
      obtain ⟨entry, found, invalid⟩ := first.itself
      exact invalid (valid.tasks _ entry found)

/-- **Validation.** A draft is accepted exactly if it keeps the rules. In the project that it
becomes there are the containers and tasks that were stated, each under its own name. If it
is not accepted, the error blames a blank name of the project; or else the container that does
not keep the rules and whose name comes first in the order of bytes; or else, if all containers
keep them, the first such task. -/
theorem accept_exact (draft : Draft) (directory : String) :
    ((∃ project, draft.accept directory = .ok project) ↔ draft.Valid) ∧
    (∀ project, draft.accept directory = .ok project →
      project.Keyed ∧ project.TasksKeyed ∧
        (∀ name, (project.container? name).isSome = draft.containers[name]?.isSome) ∧
        ∀ name, (project.task? name).isSome = draft.tasks[name]?.isSome) ∧
    ∀ error, draft.accept directory = .error error → draft.Blames error := by
  have settles := accept_settles draft directory
  refine ⟨⟨?_, ?_⟩, ?_, ?_⟩
  · rintro ⟨project, made⟩
    rw [made] at settles
    exact settles.1
  · intro valid
    cases made : draft.accept directory with
    | ok project => exact ⟨project, rfl⟩
    | error error =>
        rw [made] at settles
        exact (settles.not_valid valid).elim
  · intro project made
    rw [made] at settles
    obtain ⟨keyed, tasksKeyed⟩ := keyed_of_accept made
    exact ⟨keyed, tasksKeyed, settles.2⟩
  · intro error made
    rw [made] at settles
    exact settles

/-- A draft with two containers and a task that do not keep the rules. -/
def unruly : Draft where
  containers := .ofList
    [("web", ({ image := some "nginx", buildDirectory := some "." } : ContainerDraft)),
      ("Zoo", { image := some "alpine", command := some "'" }), ("app", { image := some "alpine" })]
  tasks := .ofList [("all", ({} : TaskDraft))]

/-- A draft with a task that runs a container after another task. -/
def ruly : Draft where
  containers := .ofList
    [("app", ({ image := some "alpine", command := some "echo ''" } : ContainerDraft))]
  tasks := .ofList
    [("all", ({ prerequisites := ["serve"] } : TaskDraft)),
      ("serve", { run := some { container := "app" } })]

theorem accept_exact_unruly :
    let error := Error.container "Zoo"
      (.command "command ''' has an unbalanced quote or a dangling backslash")
    unruly.accept "/project" = .error error ∧
      IsFirst (Breaks ContainerDraft.Valid unruly.containers) "Zoo" ∧
      ∃ project, ruly.accept "/project" = .ok project ∧ ruly.Valid ∧
        project.Keyed ∧ project.TasksKeyed ∧ (project.task? "serve").isSome := by
  intro error
  have faulty : (match unruly.accept "/project" with
      | .ok _ => none
      | .error fault => some fault) = some error := by
    decide +kernel
  have refused : unruly.accept "/project" = .error error := by
    cases made : unruly.accept "/project" with
    | ok project =>
        rw [made] at faulty
        cases faulty
    | error fault =>
        rw [made] at faulty
        exact congrArg Except.error (Option.some.inj faulty)
  have accepted : (ruly.accept "/project").toOption.isSome = true := by decide +kernel
  have blames : unruly.Blames (.container "Zoo" _) :=
    (accept_exact unruly "/project").2.2 error refused
  obtain ⟨project, made⟩ : ∃ project, ruly.accept "/project" = .ok project := by
    cases made : ruly.accept "/project" with
    | ok project => exact ⟨project, rfl⟩
    | error fault =>
        rw [made] at accepted
        cases accepted
  obtain ⟨accepts, states, -⟩ := accept_exact ruly "/project"
  obtain ⟨keyed, tasksKeyed, -, present⟩ := states project made
  refine ⟨refused, ?_, project, made, accepts.mp ⟨project, made⟩, keyed, tasksKeyed, ?_⟩
  · cases blames with
    | container first => exact first
  · rw [present]
    decide +kernel

end Draft

end ContainerTasks.Project
