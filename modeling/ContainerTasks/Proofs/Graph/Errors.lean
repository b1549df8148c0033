import ContainerTasks.Proofs.Graph.ContainerGraph
import ContainerTasks.Proofs.Graph.TaskOrder

/-! # What errors of graphs say

An error about the containers of a task or about the order of tasks names what is wrong with
the project: something that is missing and what refers to it, or a cycle. What it names is
there (`ContainerGraph.Justified`, `JustifiedOrder`): what refers to something missing can be
reached from the task in question, and so can a cycle, along which each name leads to the
next. The errors of the acyclic graph underneath never come to light.
-/

namespace ContainerTasks.Graph

/-- Whatever stands in a chain can be reached from its first name. -/
theorem reaches_of_isChain {next : String → List String} {first : String} {rest : List String}
    (chain : (first :: rest).IsChain (Leads next)) :
    ∀ name ∈ first :: rest, Reaches next first name := by
  induction rest generalizing first with
  | nil =>
      intro name member
      rw [List.mem_singleton.mp member]
  | cons second rest ih =>
      intro name member
      rcases List.mem_cons.mp member with rfl | later
      · exact .refl
      · exact .head chain.rel (ih chain.tail name later)

end ContainerTasks.Graph

namespace ContainerTasks.ContainerGraph

open Project ContainerTasks.Graph

variable {project : Project} {task : Task} {run : TaskRun}

/-- What makes an error about the containers of a task a justified one. A cycle is a walk along
what the containers depend on, back to where it began and with no other name twice. -/
def Justified (project : Project) (task : Task) : Graph.Error → Prop
  | .noMainContainer name => name = task.name ∧ task.run = none
  | .unknownContainer name (.task referrer) =>
    project.container? name = none ∧ referrer = task.name ∧
      ∃ run, task.run = some run ∧ (name = run.container ∨ name ∈ task.dependencies)
  | .unknownContainer name (.container referrer) =>
    project.container? name = none ∧
      ∃ run, task.run = some run ∧
        Reaches (taskSteps project task run.container) run.container referrer ∧
        ∃ container, project.container? referrer = some container ∧ name ∈ container.dependencies
  | .dependencyCycle cycle =>
    2 ≤ cycle.length ∧ cycle.head? = cycle.getLast? ∧ cycle.dropLast.Nodup ∧
      ∃ run, task.run = some run ∧
        cycle.IsChain (Leads (taskSteps project task run.container)) ∧
        ∀ name ∈ cycle, Reaches (taskSteps project task run.container) run.container name
  | .taskNotFound _ | .unknownTask _ _ | .taskCycle _ _ | .dag _ => False

theorem mem_declared_iff {container name : String} :
    name ∈ declared project container ↔
      ∃ found, project.container? container = some found ∧ name ∈ found.dependencies := by
  unfold declared
  cases project.container? container with
  | none => simp
  | some found => simp

/-- What a container needs, unless the task adds it, is what the container itself says it
depends on. -/
theorem mem_declared_of_leads {main referrer name : String}
    (leads : Leads (taskSteps project task main) referrer name)
    (own : name ∉ task.dependencies) : name ∈ declared project referrer := by
  have needed := Std.ExtTreeSet.mem_toList.mp leads
  unfold taskNeeds needs at needed
  split at needed
  · rename_i same
    rw [same]
    exact (Std.ExtTreeSet.mem_union_iff.mp needed).resolve_right own
  · exact needed

/-- A task that adds a container which does not exist is refused in the name of the task. -/
theorem exists_of_missing_dependency {root : Container} {name : String}
    (runs : task.run = some run) (found : project.container? run.container = some root)
    (member : name ∈ task.dependencies) (missing : project.container? name = none) :
    ∃ other, ofTask project task = .error (.unknownContainer other (.task task.name)) := by
  have absent : (task.dependencies.toList.find? fun name =>
      (project.container? name).isNone).isSome := by
    rw [List.find?_isSome]
    exact ⟨name, Std.ExtTreeSet.mem_toList.mpr member, by rw [missing, Option.isNone_none]⟩
  obtain ⟨other, search⟩ := Option.isSome_iff_exists.mp absent
  exact ⟨other, by simp only [ofTask, runs, found, search]⟩

/-- A fault among the containers that can be reached justifies the error about it, if the task
itself adds no container that does not exist. -/
theorem justified_of_fault {error : Graph.Error} (runs : task.run = some run)
    (fault : Fault project run.container (declared project run.container ∪ task.dependencies) error)
    (added : ∀ name ∈ task.dependencies, project.container? name ≠ none) :
    Justified project task error := by
  cases fault with
  | @cycle first rest chain nodup reached =>
      have onWay := reaches_of_isChain chain
      refine ⟨by simp, ?_, ?_, run, runs, chain, ?_⟩
      · rw [List.getLast?_concat]
        rfl
      · rwa [List.dropLast_concat]
      · exact fun name member => reached.trans (onWay name member)
  | @unknown name referrer missing leads reached =>
      have declares := mem_declared_of_leads leads fun member => added name member missing
      exact ⟨missing, run, runs, reached, mem_declared_iff.mp declares⟩

/-- **Errors about containers.** If the containers of a task cannot be worked out, the error is
a justified one; it is that there is no main container just if the task runs none. -/
theorem ofTask_justified (project : Project) (keyed : project.Keyed) (task : Task) :
    (∀ error, ofTask project task = .error error → Justified project task error) ∧
      ((∃ name, ofTask project task = .error (.noMainContainer name)) ↔ task.run = none) := by
  cases runs : task.run with
  | none =>
      have outcome : ofTask project task = .error (.noMainContainer task.name) := by
        simp only [ofTask, runs]
      refine ⟨fun error failed => ?_, fun _ => rfl, fun _ => ⟨_, outcome⟩⟩
      obtain rfl := Except.error.inj (outcome.symm.trans failed)
      exact ⟨rfl, runs⟩
  | some run =>
      have justified : ∀ error, ofTask project task = .error error →
          Justified project task error := by
        intro error failed
        have settles := ofTask_settles project runs
        rw [failed] at settles
        cases settles with
        | main missing => exact ⟨missing, rfl, run, runs, Or.inl rfl⟩
        | dependency missing member => exact ⟨missing, rfl, run, runs, Or.inr member⟩
        | walk found fault =>
            obtain ⟨named, declares⟩ := eq_declared_of_keyed keyed found
            rw [named, declares] at fault
            refine justified_of_fault runs fault fun name member missing => ?_
            obtain ⟨other, refused⟩ := exists_of_missing_dependency runs found member missing
            cases failed.symm.trans refused
            cases fault
      refine ⟨justified, fun refused => ?_, fun same => by cases same⟩
      obtain ⟨name, failed⟩ := refused
      have absent := (justified _ failed).2
      rw [runs] at absent
      cases absent

/-- A project in which two containers that `web` needs depend on each other, and one of them
on a third that does not exist. -/
def tangle : Project where
  name := "shop"
  containers := .ofList [box "web" ["api"], box "api" ["queue"], box "queue" ["worker"],
    box "worker" ["queue", "store"], box "mail" []]

theorem ofTask_justified_tangle :
    tangle.Keyed ∧
      ∃ error, ofTask tangle serve = .error error ∧ Justified tangle serve error ∧
        error = .dependencyCycle ["queue", "worker", "queue"] := by
  have keyed : tangle.Keyed := by decide +kernel
  have cycle : (ofTask tangle serve).map (·.root) =
      .error (.dependencyCycle ["queue", "worker", "queue"]) := by decide +kernel
  cases failed : ofTask tangle serve with
  | ok graph =>
      rw [failed] at cycle
      cases cycle
  | error error =>
      rw [failed] at cycle
      have justified := (ofTask_justified tangle keyed serve).1 error failed
      exact ⟨keyed, error, rfl, justified, Except.error.inj cycle⟩

end ContainerTasks.ContainerGraph

namespace ContainerTasks.Graph

variable {project : Project} {task : String}

/-- What makes an error about the order of tasks a justified one. The edge that is refused
leads from a prerequisite to a task that this prerequisite needs, directly or not. -/
def JustifiedOrder (project : Project) (task : String) : Error → Prop
  | .taskNotFound name => name = task ∧ project.task? task = none
  | .unknownTask name referrer =>
    project.task? name = none ∧ Reaches (prerequisites project) task referrer ∧
      ∃ found, project.task? referrer = some found ∧ name ∈ found.prerequisites
  | .taskCycle source target =>
    Reaches (prerequisites project) task target ∧
      (∃ found, project.task? target = some found ∧ source ∈ found.prerequisites) ∧
      Reaches (prerequisites project) source target
  | .unknownContainer _ _ | .dependencyCycle _ | .noMainContainer _ | .dag _ => False

theorem mem_prerequisites_iff {name referrer : String} :
    name ∈ prerequisites project referrer ↔
      ∃ found, project.task? referrer = some found ∧ name ∈ found.prerequisites := by
  unfold prerequisites
  cases project.task? referrer with
  | none => simp
  | some found => simp

/-- **Errors about the order of tasks.** If the order of a task cannot be worked out, the error
is a justified one; it is that the task is not there just if this is so. What the graph of the
tasks keeps in order for itself never goes wrong. -/
theorem taskOrder_justified (project : Project) (task : String) :
    (∀ error, taskOrder project task = .error error → JustifiedOrder project task error) ∧
      ((∃ name, taskOrder project task = .error (.taskNotFound name)) ↔
        project.task? task = none) ∧
      ∀ error, taskOrder project task ≠ .error (.dag error) := by
  have justified : ∀ error, taskOrder project task = .error error →
      JustifiedOrder project task error := by
    intro error failed
    cases found : project.task? task with
    | none =>
        have refused : taskOrder project task = .error (.taskNotFound task) := by
          simp [taskOrder, found]
        obtain rfl := Except.error.inj (refused.symm.trans failed)
        exact ⟨rfl, found⟩
    | some _ =>
        have settles := taskOrder_settles (by rw [found, Option.isSome_some])
        rw [failed] at settles
        cases settles with
        | unknown missing needed reached =>
            exact ⟨missing, reached, mem_prerequisites_iff.mp needed⟩
        | cycle needed back reached =>
            exact ⟨reached, mem_prerequisites_iff.mp needed, back⟩
  refine ⟨justified, ⟨fun refused => ?_, fun absent => ⟨task, ?_⟩⟩,
    fun error failed => justified _ failed⟩
  · obtain ⟨name, failed⟩ := refused
    exact (justified _ failed).2
  · simp [taskOrder, absent]

/-- A project in which the tasks that `release` needs come round to it again, while one of them
needs another that does not exist. -/
def roundabout : Project where
  name := "shop"
  tasks := .ofList [stage "release" ["test"], stage "test" ["compile", "lint"],
    stage "compile" ["release"]]

theorem taskOrder_justified_roundabout :
    ∃ error, taskOrder roundabout "release" = .error error ∧
      JustifiedOrder roundabout "release" error := by
  have leads : ∀ edge ∈ [("release", "test"), ("test", "compile"), ("compile", "release")],
      edge.2 ∈ prerequisites roundabout edge.1 := by decide +kernel
  have cycle : Relation.TransGen (Leads (prerequisites roundabout)) "release" "release" :=
    .head (leads ("release", "test") (by decide))
      (.head (leads ("test", "compile") (by decide)) (.single (leads (_, _) (by decide))))
  cases made : taskOrder roundabout "release" with
  | ok order => exact ((of_taskOrder made).2.2 "release" .refl cycle).elim
  | error error => exact ⟨error, rfl, (taskOrder_justified roundabout "release").1 error made⟩

end ContainerTasks.Graph
