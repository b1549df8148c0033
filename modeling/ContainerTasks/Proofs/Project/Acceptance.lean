import ContainerTasks.Project.Load
import ContainerTasks.Project.Override
import ContainerTasks.Proofs.Graph.ContainerGraph
import ContainerTasks.Proofs.Outcome

/-! # Projects that are accepted

Entries of a project file are accepted one by one, each under the name it is stated under.
A container or task that is accepted is called by that name, and another image leaves it its
name. So in whatever project the program runs tasks, containers and tasks stand under their
own names (`load_specialise_keyed`).
-/

namespace ContainerTasks.Project

/-! That two projects are the same can be computed, as far as their tables go by their
entries. -/

instance {α : Type} [DecidableEq α] : DecidableEq (Std.ExtTreeMap String α) :=
  instDecidableEqOfLawfulBEq

instance : DecidableEq NameSet :=
  instDecidableEqOfLawfulBEq

deriving instance DecidableEq for ImageSource, Container, TaskRun, Task, Project

/-- Tasks stand under their own names. -/
def TasksKeyed (project : Project) : Prop :=
  ∀ name task, project.task? name = some task → task.name = name

namespace Draft

variable {α β ε : Type} {accept : String → α → Except ε β}

theorem acceptEntries_cons (accept : String → α → Except ε β) (entry : String × α)
    (rest : List (String × α)) :
    acceptEntries accept (entry :: rest) =
      accept entry.1 entry.2 >>= fun value =>
        (acceptEntries accept rest).map ((entry.1, value) :: ·) := by
  unfold acceptEntries
  rw [List.mapM_cons]
  dsimp only
  cases accept entry.1 entry.2 with
  | error fault => rfl
  | ok value => rfl

/-- Entries that are accepted are under the names that were stated, in the same order, and
each comes from what was stated under its name. -/
theorem acceptEntries_ok {entries : List (String × α)} {accepted : List (String × β)}
    (made : acceptEntries accept entries = .ok accepted) :
    accepted.map Prod.fst = entries.map Prod.fst ∧
      ∀ result ∈ accepted, ∃ draft,
        (result.1, draft) ∈ entries ∧ accept result.1 draft = .ok result.2 := by
  induction entries generalizing accepted with
  | nil =>
      cases made
      simp
  | cons entry rest ih =>
      rw [acceptEntries_cons] at made
      cases here : accept entry.1 entry.2 with
      | error fault =>
          rw [here] at made
          cases made
      | ok value =>
          cases later : acceptEntries accept rest with
          | error fault =>
              rw [here, later] at made
              cases made
          | ok values =>
              rw [here, later] at made
              cases made
              obtain ⟨names, stated⟩ := ih later
              refine ⟨by rw [List.map_cons, List.map_cons, names], ?_⟩
              refine List.forall_mem_cons.mpr ⟨⟨entry.2, List.mem_cons_self, here⟩, ?_⟩
              intro result member
              obtain ⟨draft, present, same⟩ := stated result member
              exact ⟨draft, List.mem_cons_of_mem _ present, same⟩

/-- What stands in an accepted table was stated under the same name. -/
theorem exists_of_acceptEntries {entries : Std.ExtTreeMap String α} {accepted : List (String × β)}
    (made : acceptEntries accept entries.toList = .ok accepted) {name : String} {value : β}
    (found : (Std.ExtTreeMap.ofList accepted)[name]? = some value) :
    ∃ draft, entries[name]? = some draft ∧ accept name draft = .ok value := by
  obtain ⟨names, stated⟩ := acceptEntries_ok made
  have distinct : accepted.Pairwise fun first second => ¬ compare first.1 second.1 = .eq := by
    rw [← List.pairwise_map (f := Prod.fst) (R := fun first second => ¬ compare first second = .eq),
      names, List.pairwise_map]
    exact entries.distinct_keys_toList
  have listed : name ∈ Std.ExtTreeMap.ofList accepted := by
    rw [Std.ExtTreeMap.mem_iff_isSome_getElem?, found, Option.isSome_some]
  rw [Std.ExtTreeMap.mem_ofList, List.contains_iff_mem] at listed
  obtain ⟨result, member, rfl⟩ := List.mem_map.mp listed
  rw [Std.ExtTreeMap.getElem?_ofList_of_mem Std.ReflCmp.compare_self distinct member] at found
  obtain rfl := Option.some.inj found
  obtain ⟨draft, present, same⟩ := stated result member
  exact ⟨draft, Std.ExtTreeMap.mem_toList_iff_getElem?_eq_some.mp present, same⟩

end Draft

theorem ContainerDraft.name_of_accept {draft : ContainerDraft} {name directory : String}
    {container : Container} (made : draft.accept name directory = .ok container) :
    container.name = name := by
  unfold ContainerDraft.accept at made
  dsimp only at made
  split at made
  · cases made
  · obtain ⟨source, -, made⟩ := exists_of_bind_eq_ok made
    split at made
    · cases made
    · obtain ⟨command, -, made⟩ := exists_of_bind_eq_ok made
      cases made
      rfl

theorem TaskDraft.name_of_accept {draft : TaskDraft} {name : String} {task : Task}
    (made : draft.accept name = .ok task) : task.name = name := by
  unfold TaskDraft.accept at made
  dsimp only at made
  split at made
  · cases made
  · obtain ⟨run, -, made⟩ := exists_of_bind_eq_ok made
    split at made
    · cases made
    · split at made
      · cases made
      · cases made
        rfl

/-- In an accepted project each container and each task is one that was stated under its
name. -/
theorem Draft.exists_of_accept {draft : Draft} {directory : String} {project : Project}
    (made : draft.accept directory = .ok project) :
    (∀ name container, project.container? name = some container →
      ∃ stated, draft.containers[name]? = some stated ∧
        stated.accept name directory = .ok container) ∧
    ∀ name task, project.task? name = some task →
      ∃ stated, draft.tasks[name]? = some stated ∧ stated.accept name = .ok task := by
  unfold Draft.accept at made
  obtain ⟨title, -, made⟩ := exists_of_bind_eq_ok made
  obtain ⟨containers, containersMade, made⟩ := exists_of_bind_eq_ok made
  obtain ⟨tasks, tasksMade, made⟩ := exists_of_bind_eq_ok made
  cases made
  constructor
  · intro name container found
    obtain ⟨stated, present, accepted⟩ := exists_of_acceptEntries containersMade found
    exact ⟨stated, present, ok_of_mapError accepted⟩
  · intro name task found
    obtain ⟨stated, present, accepted⟩ := exists_of_acceptEntries tasksMade found
    exact ⟨stated, present, ok_of_mapError accepted⟩

/-- In an accepted project containers and tasks stand under their own names. -/
theorem Draft.keyed_of_accept {draft : Draft} {directory : String} {project : Project}
    (made : draft.accept directory = .ok project) : project.Keyed ∧ project.TasksKeyed := by
  obtain ⟨containers, tasks⟩ := exists_of_accept made
  constructor
  · intro name container found
    obtain ⟨stated, -, accepted⟩ := containers name container found
    exact ContainerDraft.name_of_accept accepted
  · intro name task found
    obtain ⟨stated, -, accepted⟩ := tasks name task found
    exact TaskDraft.name_of_accept accepted

theorem ofYaml_keyed {text directory : String} {project : Project}
    (made : ofYaml text directory = .ok project) : project.Keyed ∧ project.TasksKeyed := by
  unfold ofYaml at made
  split at made
  · cases made
  · exact Draft.keyed_of_accept made

theorem load_keyed {store : Files.FileStore} {directory path : String} {project : Project}
    (made : load store directory path = .ok project) : project.Keyed ∧ project.TasksKeyed := by
  unfold load at made
  split at made
  · cases made
  · split at made
    · cases made
    · exact ofYaml_keyed made

/-- Another image leaves containers and tasks their names. -/
theorem overrideImage_keyed {project changed : Project} {change : ImageOverride}
    (keyed : project.Keyed ∧ project.TasksKeyed)
    (made : project.overrideImage change = .ok changed) : changed.Keyed ∧ changed.TasksKeyed := by
  obtain ⟨keyed, tasksKeyed⟩ := keyed
  unfold overrideImage at made
  split at made
  · cases made
  · rename_i container present
    cases made
    refine ⟨fun name other found => ?_, tasksKeyed⟩
    rw [container?, Std.ExtTreeMap.getElem?_insert] at found
    split at found
    · rename_i same
      obtain rfl := Option.some.inj found
      exact (keyed change.container container present).trans (Std.LawfulEqCmp.compare_eq_iff_eq.mp same)
    · exact keyed name other found

theorem specialise_keyed {project changed : Project} {overrides : List ImageOverride}
    (keyed : project.Keyed ∧ project.TasksKeyed)
    (made : project.specialise overrides = .ok changed) : changed.Keyed ∧ changed.TasksKeyed := by
  induction overrides generalizing project with
  | nil =>
      cases made
      exact keyed
  | cons change rest ih =>
      rw [specialise, List.foldlM_cons] at made
      obtain ⟨next, first, made⟩ := exists_of_bind_eq_ok made
      exact ih (overrideImage_keyed keyed first) made

/-- **Names.** In every project that tasks are run in, containers and tasks stand under their
own names. -/
theorem load_specialise_keyed {store : Files.FileStore} {directory path : String}
    {project changed : Project} {overrides : List ImageOverride}
    (loaded : load store directory path = .ok project)
    (made : project.specialise overrides = .ok changed) : changed.Keyed ∧ changed.TasksKeyed :=
  specialise_keyed (load_keyed loaded) made

end ContainerTasks.Project
