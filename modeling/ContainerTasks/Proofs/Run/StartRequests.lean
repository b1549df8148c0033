import ContainerTasks.Proofs.Graph.StartOrder
import ContainerTasks.Proofs.Tables
import ContainerTasks.Run.TaskRun

/-! # What the containers of a task start with

Every container that a task needs exists, and starts under its own name for the task with
the image that was prepared for it. A container that the main one depends on starts with
its own command and environment; in those of the main container the task comes first
(`startRequests_asks`).
-/

namespace ContainerTasks

open Project

/-- The main container comes after all others in the start order. -/
theorem ContainerGraph.startOrder_eq {project : Project} {task : Task} {graph : ContainerGraph}
    (made : ofTask project task = .ok graph) :
    graph.startOrder = graph.startOrder.filter (· != graph.root) ++ [graph.root] := by
  obtain ⟨nodup, -⟩ := startOrder_leaves made
  obtain ⟨front, split⟩ : ∃ front, graph.startOrder = front ++ [graph.root] :=
    List.getLast?_eq_some_iff.mp (startOrder_follows made).2
  rw [split] at nodup ⊢
  have absent : graph.root ∉ front := by
    intro member
    exact (List.nodup_append.mp nodup).2.2 _ member _ (List.mem_singleton_self _) rfl
  have kept : front.filter (· != graph.root) = front := by
    refine List.filter_eq_self.mpr fun name member => bne_iff_ne.mpr ?_
    rintro rfl
    exact absent member
  rw [List.filter_append, kept, List.filter_singleton, bne_self_eq_false]
  simp

namespace Run.Setup

variable {σ : Type}

theorem isSome_of_mem_startOrder (setup : Setup σ) (keyed : setup.project.Keyed) {task : Task}
    {run : TaskRun} {graph : ContainerGraph} (runs : task.run = some run)
    (made : ContainerGraph.ofTask setup.project task = .ok graph) {name : String}
    (member : name ∈ graph.startOrder) : (setup.project.container? name).isSome := by
  obtain ⟨own, complete⟩ := ContainerGraph.exists_complete made
  obtain ⟨root, known⟩ := ContainerGraph.root_eq_of_keyed keyed runs made
  have reached := ((ContainerGraph.startOrder_leaves made).2 name).mp member
  rcases complete.known name (complete.reaches_iff.mp reached) with rfl | isSome
  · rwa [root]
  · exact isSome

/-- Where containers exist, each is found under its name. -/
theorem forall₂_containers (setup : Setup σ) {names : List String}
    (known : ∀ name ∈ names, (setup.project.container? name).isSome) :
    List.Forall₂ (fun name container => setup.project.container? name = some container) names
      (setup.containers names) := by
  induction names with
  | nil => exact .nil
  | cons name rest ih =>
      obtain ⟨knownHere, known⟩ := List.forall_mem_cons.mp known
      obtain ⟨container, found⟩ := Option.isSome_iff_exists.mp knownHere
      rw [containers, List.filterMap_cons_some found]
      exact .cons found (ih known)

theorem names_containers (setup : Setup σ) (keyed : setup.project.Keyed) {names : List String}
    (known : ∀ name ∈ names, (setup.project.container? name).isSome) :
    (setup.containers names).map (·.name) = names := by
  refine (List.forall₂_eq_eq_eq ▸ List.forall₂_map_right_iff.mpr ?_ :
    names = (setup.containers names).map (·.name)).symm
  refine (setup.forall₂_containers known).imp fun name container found => ?_
  exact (keyed name container found).symm

/-- A request asks for what a container of a task is to start with, given the main container
of the task. -/
structure Asks (setup : Setup σ) (task : Task) (run : TaskRun) (main : String)
    (container : Container) (request : Engine.StartRequest) : Prop where
  name : request.name = setup.containerName task.name container.name
  image : request.image =
    match container.source with
    | .pull image => image
    | .build _ _ _ => imageTag setup.project.name container.name
  command : request.command =
    if container.name = main then run.command.or container.command else container.command
  environment : ∀ key : String, request.environment[key]? =
    if container.name = main then run.environment[key]?.or container.environment[key]?
    else container.environment[key]?
  workingDirectory : request.workingDirectory = container.workingDirectory

theorem dependencyRequest_asks (setup : Setup σ) (task : Task) (run : TaskRun) {main : String}
    {images : TextMap} {container : Container} (other : container.name ≠ main)
    (prepared : images[container.name]? =
      some (Method.ofContainer setup.project.name container).image) :
    setup.Asks task run main container (setup.dependencyRequest task images container) where
  name := rfl
  image := by
    rw [dependencyRequest, prepared]
    unfold Method.ofContainer
    cases container.source <;> rfl
  command := (if_neg other).symm
  environment _ := (if_neg other).symm
  workingDirectory := rfl

theorem mainRequest_asks (setup : Setup σ) (task : Task) (run : TaskRun) {images : TextMap}
    {container : Container}
    (prepared : images[container.name]? =
      some (Method.ofContainer setup.project.name container).image) :
    setup.Asks task run container.name container
      (setup.mainRequest task run images container) where
  name := rfl
  image := by
    rw [mainRequest, dependencyRequest, prepared]
    unfold Method.ofContainer
    cases container.source <;> rfl
  command := (if_pos rfl).symm
  environment key := (getElem?_insertMany_toList _ _ key).trans (if_pos rfl).symm
  workingDirectory := rfl

/-- With the images that were prepared, each container of a task is asked to start as it is
to, in the start order. -/
theorem startRequests_asks (setup : Setup σ) (keyed : setup.project.Keyed) {task : Task}
    {run : TaskRun} {graph : ContainerGraph}
    (made : ContainerGraph.ofTask setup.project task = .ok graph) {images : TextMap}
    (prepared : ∀ container ∈ setup.containers graph.startOrder,
      images[container.name]? = some (Method.ofContainer setup.project.name container).image) :
    List.Forall₂ (setup.Asks task run graph.root) (setup.containers graph.startOrder)
      (setup.startRequests task run graph images) := by
  have split : setup.containers graph.startOrder =
      setup.containers (graph.startOrder.filter (· != graph.root)) ++
        setup.containers [graph.root] :=
    (congrArg setup.containers (ContainerGraph.startOrder_eq made)).trans List.filterMap_append
  rw [split] at prepared ⊢
  refine List.rel_append ?_ ?_
  · refine List.forall₂_map_right_iff.mpr (List.forall₂_same.mpr fun container member => ?_)
    obtain ⟨name, listed, found⟩ := List.mem_filterMap.mp member
    refine setup.dependencyRequest_asks task run ?_ (prepared _ (List.mem_append_left _ member))
    rw [keyed name container found]
    exact bne_iff_ne.mp (List.mem_filter.mp listed).2
  · refine List.forall₂_map_right_iff.mpr (List.forall₂_same.mpr fun container member => ?_)
    obtain ⟨name, listed, found⟩ := List.mem_filterMap.mp member
    have main : container.name = graph.root :=
      (keyed name container found).trans (List.mem_singleton.mp listed)
    rw [← main]
    exact setup.mainRequest_asks task run (prepared _ (List.mem_append_right _ member))

end Run.Setup

end ContainerTasks
