import ContainerTasks.Graph.TaskOrder
import ContainerTasks.Project.Override
import ContainerTasks.Proofs.Graph.ContainerWalk
import ContainerTasks.Proofs.Outcome

/-! # What image overrides change

The project with other images is the project in which every container has the image that the
last override for it names, and all else is as it was (`overridden`). Overrides that name only
containers of the project give just that, and the first that does not is the error
(`specialise_eq_ok_iff`, `specialise_of_unknown`). Which containers a task needs and in which
order tasks run does not depend on images, so both come out the same (`SameNeeds`).
-/

namespace ContainerTasks.Project

/-- The image that overrides name for a container: that of the last of them. -/
def imageFor? (overrides : List ImageOverride) (name : String) : Option String :=
  (overrides.filter (·.container = name)).getLast?.map (·.image)

/-- The container with an image to pull, if one is named. -/
def Container.withImage (container : Container) (image? : Option String) : Container :=
  { container with source := image?.elim container.source .pull }

/-- The project in which overrides have been applied. -/
def overridden (project : Project) (overrides : List ImageOverride) : Project :=
  { project with
    containers := project.containers.map fun name container =>
      container.withImage (imageFor? overrides name) }

/-- An override names a container of the project. -/
def Names (project : Project) (change : ImageOverride) : Prop :=
  (project.container? change.container).isSome

instance (project : Project) (change : ImageOverride) : Decidable (project.Names change) :=
  inferInstanceAs (Decidable (_ = true))

section Image

variable {change : ImageOverride} {name : String}

theorem imageFor?_cons (change : ImageOverride) (rest : List ImageOverride) (name : String) :
    imageFor? (change :: rest) name =
      (imageFor? rest name).or (if change.container = name then some change.image else none) := by
  rw [imageFor?, imageFor?, List.filter_cons]
  by_cases same : change.container = name
  · rw [if_pos (decide_eq_true same), if_pos same, List.getLast?_cons]
    cases (rest.filter (·.container = name)).getLast? <;> rfl
  · rw [if_neg (by simpa using same), if_neg same, Option.or_none]

/-- A container is named by none of the overrides, or has the image of one. -/
theorem imageFor?_eq_none_iff {overrides : List ImageOverride} :
    imageFor? overrides name = none ↔ ∀ change ∈ overrides, change.container ≠ name := by
  rw [imageFor?, Option.map_eq_none_iff, List.getLast?_eq_none_iff, List.filter_eq_nil_iff]
  simp only [decide_eq_true_eq, ne_eq]

/-- Of two images the later counts. -/
theorem Container.withImage_withImage (container : Container) (earlier later : Option String) :
    (container.withImage earlier).withImage later = container.withImage (later.or earlier) := by
  cases later <;> rfl

end Image

variable {project : Project} {change : ImageOverride} {overrides rest : List ImageOverride}

theorem container?_overridden (project : Project) (overrides : List ImageOverride)
    (name : String) :
    (project.overridden overrides).container? name =
      (project.container? name).map (·.withImage (imageFor? overrides name)) :=
  Std.ExtTreeMap.getElem?_map

/-- Overrides leave a container alone that none of them names. -/
theorem container?_of_unnamed {name : String}
    (unnamed : ∀ change ∈ overrides, change.container ≠ name) :
    (project.overridden overrides).container? name = project.container? name := by
  rw [container?_overridden, imageFor?_eq_none_iff.mpr unnamed]
  exact Option.map_id'

theorem names_overridden : (project.overridden overrides).Names change ↔ project.Names change := by
  rw [Names, container?_overridden, Option.isSome_map, Names]

theorem overridden_nil : project.overridden [] = project := by
  rw [overridden]
  exact congrArg (fun containers => { project with containers }) Std.ExtTreeMap.map_id

/-- Overrides may be applied one after the other. -/
theorem overridden_overridden :
    (project.overridden [change]).overridden rest = project.overridden (change :: rest) := by
  rw [overridden, overridden, overridden, Std.ExtTreeMap.map_map]
  refine congrArg (fun change => { project with containers := project.containers.map change }) ?_
  funext name container
  rw [Container.withImage_withImage, imageFor?_cons change rest, imageFor?_cons change []]
  rfl

theorem overrideImage_of_names (names : project.Names change) :
    project.overrideImage change = .ok (project.overridden [change]) := by
  obtain ⟨container, present⟩ := Option.isSome_iff_exists.mp names
  rw [overrideImage, show project.containers[change.container]? = some container from present]
  refine congrArg (fun containers => Except.ok { project with containers }) ?_
  refine Std.ExtTreeMap.ext_getElem? fun name => ?_
  rw [Std.ExtTreeMap.getElem?_insert, Std.ExtTreeMap.getElem?_map, imageFor?_cons]
  by_cases same : change.container = name
  · subst same
    rw [if_pos Std.ReflCmp.compare_self, if_pos rfl,
      show project.containers[change.container]? = some container from present]
    rfl
  · rw [if_neg (mt Std.LawfulEqCmp.compare_eq_iff_eq.mp same), if_neg same]
    exact Option.map_id'.symm

theorem overrideImage_of_not_names (missing : ¬ project.Names change) :
    project.overrideImage change = .error (.overrideContainer change.container) := by
  have absent : project.containers[change.container]? = none := by
    simpa [Names, container?] using missing
  rw [overrideImage, absent]

/-- Overrides for containers of the project change just these. -/
theorem specialise_of_known (known : ∀ change ∈ overrides, project.Names change) :
    project.specialise overrides = .ok (project.overridden overrides) := by
  induction overrides generalizing project with
  | nil => exact congrArg Except.ok overridden_nil.symm
  | cons change rest ih =>
      obtain ⟨first, later⟩ := List.forall_mem_cons.mp known
      have next : (project.overridden [change]).specialise rest =
          .ok ((project.overridden [change]).overridden rest) :=
        ih fun other member => names_overridden.mpr (later other member)
      rw [overridden_overridden] at next
      rw [specialise, List.foldlM_cons, overrideImage_of_names first]
      exact next

/-- The first override that names no container of the project is the error. -/
theorem specialise_of_unknown {earlier later : List ImageOverride}
    (known : ∀ change ∈ earlier, project.Names change) (missing : ¬ project.Names change) :
    project.specialise (earlier ++ change :: later) =
      .error (.overrideContainer change.container) := by
  have first := specialise_of_known known
  rw [specialise] at first
  rw [specialise, List.foldlM_append, first]
  change List.foldlM _ _ _ = _
  rw [List.foldlM_cons, overrideImage_of_not_names (mt names_overridden.mp missing)]
  rfl

/-- Unless all overrides name containers of the project, there is a first that does not. -/
theorem exists_unknown (unknown : ¬ ∀ change ∈ overrides, project.Names change) :
    ∃ earlier change later, overrides = earlier ++ change :: later ∧
      (∀ other ∈ earlier, project.Names other) ∧ ¬ project.Names change := by
  cases search : overrides.find? fun change => ¬ project.Names change with
  | none =>
      simp only [List.find?_eq_none, decide_eq_true_eq, not_not] at search
      exact absurd search unknown
  | some change =>
      obtain ⟨missing, earlier, later, split, known⟩ := List.find?_eq_some_iff_append.mp search
      simp only [Bool.not_eq_true', decide_eq_false_iff_not, not_not] at known
      exact ⟨earlier, change, later, split, known, of_decide_eq_true missing⟩

/-- Overrides can be applied if all of them name containers, and then they change just these. -/
theorem specialise_eq_ok_iff {changed : Project} :
    project.specialise overrides = .ok changed ↔
      (∀ change ∈ overrides, project.Names change) ∧ project.overridden overrides = changed := by
  by_cases known : ∀ change ∈ overrides, project.Names change
  · rw [specialise_of_known known, Except.ok.injEq, and_iff_right known]
  · obtain ⟨earlier, change, later, rfl, before, missing⟩ := exists_unknown known
    rw [specialise_of_unknown before missing]
    exact iff_of_false nofun fun both => known both.1

/-! ## What containers need -/

/-- Two projects have the same tasks, and containers of the same names that need the same. -/
structure SameNeeds (project other : Project) : Prop where
  containers : ∀ name,
    (other.container? name).map (fun found => (found.name, found.dependencies)) =
      (project.container? name).map fun found => (found.name, found.dependencies)
  size : other.containers.size = project.containers.size
  tasks : other.tasks = project.tasks

/-- Images have no part in what is needed. -/
theorem sameNeeds_overridden (project : Project) (overrides : List ImageOverride) :
    SameNeeds project (project.overridden overrides) where
  containers name := by
    rw [container?_overridden, Option.map_map]
    rfl
  size := Std.ExtTreeMap.size_map
  tasks := rfl

namespace SameNeeds

variable {other : Project} (same : SameNeeds project other)

include same

theorem isNone (name : String) :
    (other.container? name).isNone = (project.container? name).isNone := by
  have agree := congrArg Option.isNone (same.containers name)
  rwa [Option.isNone_map, Option.isNone_map] at agree

/-- A container is missing in both projects, or is there in both and needs the same. -/
theorem cases (name : String) :
    (project.container? name = none ∧ other.container? name = none) ∨
      ∃ found foundOther, project.container? name = some found ∧
        other.container? name = some foundOther ∧ foundOther.name = found.name ∧
          foundOther.dependencies = found.dependencies := by
  have agree := same.containers name
  cases here : project.container? name with
  | none =>
      rw [here] at agree
      exact Or.inl ⟨rfl, Option.map_eq_none_iff.mp agree⟩
  | some found =>
      rw [here] at agree
      obtain ⟨foundOther, there, equal⟩ := Option.map_eq_some_iff.mp agree
      obtain ⟨names, dependencies⟩ := Prod.mk.inj equal
      exact Or.inr ⟨found, foundOther, rfl, there, names, dependencies⟩

open ContainerGraph in
theorem visit_eq (fuel : Nat) (path : List String) (container : String) (dependencies : NameSet)
    (adjacency : Std.ExtTreeMap String NameSet) :
    visit other fuel path container dependencies adjacency =
      visit project fuel path container dependencies adjacency := by
  induction fuel generalizing path container dependencies adjacency with
  | zero => rfl
  | succ fuel ih =>
      rw [visit_succ, visit_succ]
      refine congrArg (fun step => List.foldlM step _ _) ?_
      funext adjacency dependency
      rcases same.cases dependency with
        ⟨missing, missingOther⟩ | ⟨found, foundOther, here, there, -, needs⟩
      · rw [follow, follow, missing, missingOther]
      · rw [follow, follow, here, there]
        dsimp only
        rw [ih, needs]

/-- A task needs the same containers in both projects, or has the same fault. -/
theorem ofTask_eq (task : Task) :
    ContainerGraph.ofTask other task = ContainerGraph.ofTask project task := by
  unfold ContainerGraph.ofTask
  cases task.run with
  | none => rfl
  | some run =>
      dsimp only
      rcases same.cases run.container with
        ⟨missing, missingOther⟩ | ⟨found, foundOther, here, there, names, needs⟩
      · rw [missing, missingOther]
      · rw [here, there]
        simp only [same.isNone, same.visit_eq, same.size, names, needs]

theorem task?_eq (name : String) : other.task? name = project.task? name := by
  rw [task?, task?, same.tasks]

theorem prerequisites_eq : Graph.prerequisites other = Graph.prerequisites project := by
  funext task
  rw [Graph.prerequisites, Graph.prerequisites, same.task?_eq]

theorem addPrerequisites_eq (fuel : Nat) (dag : Graph.Dag) (task : String) :
    Graph.addPrerequisites other fuel dag task = Graph.addPrerequisites project fuel dag task := by
  induction fuel generalizing dag task with
  | zero => rfl
  | succ fuel ih =>
      rw [Graph.addPrerequisites, Graph.addPrerequisites, same.prerequisites_eq]
      simp only [same.task?_eq, ih]

/-- The order of a task and its prerequisites is the same in both projects. -/
theorem taskOrder_eq (task : String) :
    Graph.taskOrder other task = Graph.taskOrder project task := by
  rw [Graph.taskOrder, Graph.taskOrder, same.tasks, same.task?_eq, same.prerequisites_eq]
  simp only [same.addPrerequisites_eq]

end SameNeeds

/-- To apply overrides again changes nothing. -/
theorem overridden_again :
    (project.overridden overrides).overridden overrides = project.overridden overrides := by
  rw [overridden, overridden, Std.ExtTreeMap.map_map]
  refine congrArg (fun change => { project with containers := project.containers.map change }) ?_
  funext name container
  rw [Container.withImage_withImage, Option.or_self]

/-- **Image overrides.** Applying overrides fails exactly if one of them names no container of
the project, and tells the first that does not. Otherwise every container has the image of the
last override that names it, or its own if there is none, and nothing else is changed; so each
task needs the same containers as before, started in the same order, and runs after the same
tasks; and to apply the overrides again changes nothing. -/
theorem specialise_exact (project : Project) (overrides : List ImageOverride) :
    match project.specialise overrides with
    | .error error =>
        ∃ earlier change later, overrides = earlier ++ change :: later ∧
          (∀ other ∈ earlier, (project.container? other.container).isSome) ∧
            project.container? change.container = none ∧
              error = .overrideContainer change.container
    | .ok changed =>
        (∀ change ∈ overrides, (project.container? change.container).isSome) ∧
          changed.name = project.name ∧ changed.tasks = project.tasks ∧
          (∀ name, changed.container? name = (project.container? name).map fun container =>
            match (overrides.filter (·.container = name)).getLast? with
            | some change => { container with source := .pull change.image }
            | none => container) ∧
          (∀ task, ContainerGraph.ofTask changed task = ContainerGraph.ofTask project task) ∧
          (∀ task, (ContainerGraph.ofTask changed task).map (·.startOrder) =
            (ContainerGraph.ofTask project task).map (·.startOrder)) ∧
          (∀ task, Graph.taskOrder changed task = Graph.taskOrder project task) ∧
          changed.specialise overrides = .ok changed := by
  by_cases known : ∀ change ∈ overrides, project.Names change
  · have same := sameNeeds_overridden project overrides
    rw [specialise_of_known known]
    refine ⟨known, rfl, rfl, fun name => ?_, same.ofTask_eq,
      fun task => congrArg _ (same.ofTask_eq task), same.taskOrder_eq, ?_⟩
    · rw [container?_overridden, imageFor?]
      cases (overrides.filter (·.container = name)).getLast? <;> rfl
    · exact specialise_eq_ok_iff.mpr
        ⟨fun change member => names_overridden.mpr (known change member), overridden_again⟩
  · obtain ⟨earlier, change, later, rfl, before, missing⟩ := exists_unknown known
    rw [specialise_of_unknown before missing]
    refine ⟨earlier, change, later, rfl, before, ?_, rfl⟩
    rwa [Names, Option.not_isSome_iff_eq_none] at missing

end ContainerTasks.Project
