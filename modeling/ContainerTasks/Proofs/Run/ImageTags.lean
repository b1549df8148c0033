import ContainerTasks.Proofs.Project.Acceptance
import ContainerTasks.Proofs.Run.TaskTrace
import ContainerTasks.Proofs.Text.Lowercase

/-! # The tags of built images

The image of a container that is built is tagged with the names of the project and the
container, in lowercase. So the builds of two containers of a task have the same tag just if
the names of the containers are the same in lowercase, and then both containers start with
the same image. Where this is not so, each starts with the image of its own build
(`runTask_builds`).
-/

namespace ContainerTasks.Run

open Text (lowercase)

variable {σ : Type}

/-- The build that a call asks for. -/
def Call.build? : Call → Option Engine.BuildRequest
  | .build request => some request
  | _ => none

/-- The builds that some calls ask for. -/
def builds (calls : List Call) : List Engine.BuildRequest :=
  calls.filterMap Call.build?

theorem builds_filter (calls : List Call) : builds (calls.filter (·.Prepares)) = builds calls := by
  unfold builds
  rw [List.filterMap_filter]
  refine List.filterMap_congr fun call _ => ?_
  cases call with
  | pull | build => rfl
  | start | logs | wait | stop | remove => rfl

/-- Where items have different keys only one of them has a given key. -/
theorem filter_key_eq_singleton {α β : Type} [DecidableEq β] {key : α → β} {items : List α}
    (distinct : (items.map key).Nodup) {item : α} (member : item ∈ items) :
    items.filter (key · = key item) = [item] := by
  induction items with
  | nil => cases member
  | cons first rest ih =>
      rw [List.map_cons, List.nodup_cons] at distinct
      rcases List.mem_cons.mp member with rfl | later
      · have others : rest.filter (key · = key item) = [] := by
          refine List.filter_eq_nil_iff.mpr fun other present => ?_
          simp only [decide_eq_true_eq]
          exact fun same => distinct.1 (same ▸ List.mem_map_of_mem present)
        rw [List.filter_cons_of_pos (by simp), others]
      · have different : key first ≠ key item := fun same =>
          distinct.1 (same ▸ List.mem_map_of_mem later)
        rw [List.filter_cons_of_neg (by simpa using different)]
        exact ih distinct.2 later

namespace Setup

/-- The build of its own that a container has, unless its image is pulled. -/
def build? (setup : Setup σ) (container : Project.Container) : Option Engine.BuildRequest :=
  match container.source with
  | .pull _ => none
  | .build directory dockerfile arguments =>
      some { directory, dockerfile, arguments
             tag := Project.imageTag setup.project.name container.name }

/-- The builds that some containers have. -/
def ownBuilds (setup : Setup σ) (containers : List Project.Container) :
    List Engine.BuildRequest :=
  containers.filterMap setup.build?

/-- The names of those containers that are built, in lowercase. -/
def builtNames (setup : Setup σ) (containers : List Project.Container) : List String :=
  (containers.filter fun container => (setup.build? container).isSome).map fun container =>
    lowercase container.name

theorem tag_of_build? (setup : Setup σ) {container : Project.Container}
    {own : Engine.BuildRequest} (builds : setup.build? container = some own) :
    own.tag = Project.imageTag setup.project.name container.name := by
  unfold build? at builds
  split at builds
  · cases builds
  · cases builds
    rfl

theorem builds_preparations (setup : Setup σ) (graph : ContainerGraph) :
    builds (setup.preparations graph) = setup.ownBuilds (setup.containers graph.startOrder) := by
  unfold builds preparations ownBuilds
  rw [List.filterMap_map]
  refine List.filterMap_congr fun container _ => ?_
  rw [Function.comp_apply, build?, Method.ofContainer]
  cases container.source <;> rfl

/-- The builds with the tag of a container are those of containers whose names are the same as
its own in lowercase. -/
theorem filter_ownBuilds (setup : Setup σ) (containers : List Project.Container) (name : String) :
    (setup.ownBuilds containers).filter (·.tag = Project.imageTag setup.project.name name) =
      setup.ownBuilds (containers.filter fun other => lowercase other.name = lowercase name) := by
  induction containers with
  | nil => rfl
  | cons container rest ih =>
      unfold ownBuilds at ih ⊢
      cases builds : setup.build? container with
      | none =>
          rw [List.filterMap_cons_none builds, ih]
          by_cases same : lowercase container.name = lowercase name
          · rw [List.filter_cons_of_pos (by simpa using same), List.filterMap_cons_none builds]
          · rw [List.filter_cons_of_neg (by simpa using same)]
      | some own =>
          have tag : own.tag = Project.imageTag setup.project.name name ↔
              lowercase container.name = lowercase name := by
            rw [setup.tag_of_build? builds, Project.imageTag_eq_iff]
          rw [List.filterMap_cons_some builds]
          by_cases same : lowercase container.name = lowercase name
          · rw [List.filter_cons_of_pos (by simpa using tag.mpr same), ih,
              List.filter_cons_of_pos (by simpa using same), List.filterMap_cons_some builds]
          · rw [List.filter_cons_of_neg (by simpa using mt tag.mp same), ih,
              List.filter_cons_of_neg (by simpa using same)]

/-- The builds of containers have different tags just if the names of the containers are
different in lowercase. -/
theorem nodup_tags_iff (setup : Setup σ) (containers : List Project.Container) :
    ((setup.ownBuilds containers).map (·.tag)).Nodup ↔ (setup.builtNames containers).Nodup := by
  have tags : (setup.ownBuilds containers).map (·.tag) =
      (setup.builtNames containers).map (lowercase setup.project.name ++ "-" ++ ·) := by
    unfold ownBuilds builtNames
    induction containers with
    | nil => rfl
    | cons container rest ih =>
        cases builds : setup.build? container with
        | none =>
            rw [List.filterMap_cons_none builds, List.filter_cons_of_neg (by simp [builds]), ih]
        | some own =>
            rw [List.filterMap_cons_some builds, List.filter_cons_of_pos (by simp [builds]),
              List.map_cons, List.map_cons, List.map_cons, ih, setup.tag_of_build? builds,
              Project.imageTag, Text.lowercase_hyphen]
  rw [tags]
  exact List.nodup_map_iff fun first second => (String.append_right_inj _).mp

/-- What images a task builds, given the containers that it needs. -/
structure TaskBuilds (setup : Setup σ) (task : Project.Task) (containers : List Project.Container)
    (marks : List Mark) : Prop where
  /-- Each container is built once at most, and nothing else is. -/
  attempted : (builds (made marks)).Subperm (setup.ownBuilds containers)
  distinct : (setup.builtNames containers).Nodup → ((builds (made marks)).map (·.tag)).Nodup
  /-- A container that is built starts with the image of one of the builds with its tag, which
  have succeeded. -/
  starts : ∀ earlier request cancelled later,
    marks = earlier ++ .began (.start request) cancelled :: later →
      ∃ container ∈ containers, request.name = setup.containerName task.name container.name ∧
        ∀ own, setup.build? container = some own → request.image = own.tag ∧
          ((builds (succeeded earlier)).filter (·.tag = request.image)).Perm
            (setup.ownBuilds
              (containers.filter fun other => lowercase other.name = lowercase container.name)) ∧
          ((setup.builtNames containers).Nodup →
            (builds (succeeded earlier)).filter (·.tag = request.image) = [own])

section

variable {setup : Setup σ} {task : Project.Task} {run : Project.TaskRun} {graph : ContainerGraph}
  {result : Except Error Int} {marks : List Mark}

theorem TaskTrace.builds (left : TaskTrace setup task run graph result marks) :
    TaskBuilds setup task (setup.containers graph.startOrder) marks := by
  have attempted : (Run.builds (made marks)).Subperm
      (setup.ownBuilds (setup.containers graph.startOrder)) := by
    obtain ⟨some, perm, sublist⟩ := left.attempted
    rw [← builds_filter, ← setup.builds_preparations]
    exact ⟨Run.builds some, perm.filterMap _, sublist.filterMap _⟩
  refine ⟨attempted, fun names => ?_, ?_⟩
  · obtain ⟨some, perm, sublist⟩ := attempted
    have tags := (setup.nodup_tags_iff _).mpr names
    exact (perm.map (·.tag)).nodup_iff.mp ((sublist.map (·.tag)).nodup tags)
  · intro earlier request cancelled later split
    have asked : request ∈ requested marks := by
      rw [split, requested_append]
      exact List.mem_append_right _ List.mem_cons_self
    obtain ⟨container, member, asks⟩ := left.asks request asked
    refine ⟨container, member, asks.name, fun own built => ?_⟩
    have tag := setup.tag_of_build? built
    have image : request.image = own.tag := by
      rw [asks.image, tag]
      unfold build? at built
      cases source : container.source with
      | pull image =>
          rw [source] at built
          cases built
      | build directory dockerfile arguments => rfl
    have succeeded : (Run.builds (succeeded earlier)).Perm
        (setup.ownBuilds (setup.containers graph.startOrder)) := by
      rw [← builds_filter, ← setup.builds_preparations]
      exact (left.prepared earlier request cancelled later split).2.filterMap _
    refine ⟨image, ?_, fun names => ?_⟩
    · rw [image, tag, ← setup.filter_ownBuilds]
      exact succeeded.filter _
    · have only := filter_key_eq_singleton ((setup.nodup_tags_iff _).mpr names)
        (List.mem_filterMap.mpr ⟨container, member, built⟩)
      rw [image]
      exact List.perm_singleton.mp (only ▸ succeeded.filter _)

/-- **Tags of built images.** Each container of a task is built once at most, and if it is
started the build has succeeded. The builds of different containers have the same tag just
if the names of the containers are the same in lowercase. So where these names differ each
container that is built starts with the image of its own build. -/
theorem runTask_builds (setup : Setup σ) {text directory : String}
    (accepted : Project.ofYaml text directory = .ok setup.project) (runs : task.run = some run)
    (created : ContainerGraph.ofTask setup.project task = .ok graph) (before : State σ) :
    (((setup.ownBuilds (setup.containers graph.startOrder)).map (·.tag)).Nodup ↔
      (setup.builtNames (setup.containers graph.startOrder)).Nodup) ∧
    ∃ marks, (outcome (setup.runTask task run).run before).2.trace = before.trace ++ marks ∧
      TaskBuilds setup task (setup.containers graph.startOrder) marks := by
  obtain ⟨keyed, -⟩ := Project.ofYaml_keyed accepted
  obtain ⟨marks, grown, course⟩ := runTask_records setup.taskPhases_describe task run before
  exact ⟨setup.nodup_tags_iff _, marks, grown, (course.taskTrace keyed runs created).builds⟩

end

end Setup

/-- A project file with three containers that are built, two of which have names that are the
same in lowercase. -/
def clashingText : String :=
  "project_name: shop\ncontainers:\n  App:\n    build_directory: upper\n" ++
  "  app:\n    build_directory: lower\n  store:\n    build_directory: store\n" ++
  "tasks:\n  check:\n    run:\n      container: App\n    dependencies: [store]\n" ++
  "  serve:\n    run:\n      container: App\n    dependencies: [app]\n"

/-- A container that is built from a directory. -/
def built (name directory : String) : String × Project.Container :=
  (name, { name, source := .build directory "Dockerfile" ∅ })

/-- A task that runs the first of them while another one is running. -/
def beside (name dependency : String) : Project.Task where
  name
  run := some { container := "App" }
  dependencies := (∅ : NameSet).insert dependency

/-- The project in this file. -/
def clashing : Setup Unit where
  engine := ready
  project :=
    { name := "shop"
      containers := .ofList [built "App" "/project/upper", built "app" "/project/lower",
        built "store" "/project/store"]
      tasks := .ofList [("check", beside "check" "store"), ("serve", beside "serve" "app")] }

theorem clashing_accepted : Project.ofYaml clashingText "/project" = .ok clashing.project :=
  ok_of_toOption (by decide +kernel)

/-- The containers of such a task. -/
def pair (task dependency : String) : ContainerGraph where
  task
  root := "App"
  adjacency :=
    ((∅ : Std.ExtTreeMap String NameSet).insert "App" ((∅ : NameSet).insertMany [dependency])).insert
      dependency ∅

theorem runTask_builds_clashing :
    ∃ marks, ((clashing.ownBuilds (clashing.containers ["store", "App"])).map (·.tag)).Nodup ∧
      ((builds (made marks)).map (·.tag)).Nodup ∧
      (outcome (clashing.runTask (beside "check" "store") { container := "App" }).run
        { engine := () }).2.trace = marks := by
  have created : ContainerGraph.ofTask clashing.project (beside "check" "store") =
    .ok (pair "check" "store") := rfl
  obtain ⟨tags, marks, grown, taskBuilds⟩ :=
    clashing.runTask_builds clashing_accepted rfl created { engine := () }
  have names : (clashing.builtNames (clashing.containers ["store", "App"])).Nodup := by
    decide +kernel
  exact ⟨marks, tags.mpr names, taskBuilds.distinct names, grown⟩

/-- The images of two containers of a task of an accepted project can be built with one tag. -/
theorem tags_clash :
    ¬ ∀ (setup : Setup Unit) (text directory : String) (task : Project.Task)
      (run : Project.TaskRun) (graph : ContainerGraph) (before : State Unit) (marks : List Mark),
      Project.ofYaml text directory = .ok setup.project → task.run = some run →
      ContainerGraph.ofTask setup.project task = .ok graph →
      (outcome (setup.runTask task run).run before).2.trace = before.trace ++ marks →
      ((builds (made marks)).map (·.tag)).Nodup := by
  intro distinct
  have created : ContainerGraph.ofTask clashing.project (beside "serve" "app") =
    .ok (pair "serve" "app") := rfl
  have both : clashing.containers (pair "serve" "app").startOrder =
    [(built "app" "/project/lower").2, (built "App" "/project/upper").2] := rfl
  have nodup := distinct clashing clashingText "/project" (beside "serve" "app") _ _
    { engine := () } _ clashing_accepted rfl created (List.nil_append _).symm
  rw [Setup.runTask_of_ok _ created, both, clashing.prepare_of_permitted (by decide +kernel),
    ImagePool.prepare, ImagePool.run_begun rfl rfl (Nat.not_lt_zero _)] at nodup
  simp only [ImagePool.run_single] at nodup
  revert nodup
  decide +kernel

end ContainerTasks.Run
