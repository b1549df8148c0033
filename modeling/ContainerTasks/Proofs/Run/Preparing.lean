import Mathlib.Data.List.Perm.Subperm
import ContainerTasks.Proofs.Run.Turns

/-! # What preparing images leaves in the trace

However the turns of a pool fall, each image in line is begun once at most, and what is under
way ends in some order. If all images are prepared, every container had one call of its own,
which succeeded (`Turns.all`), and has the image that this call prepared. Otherwise the error is
that of one of them, unless a failure was to be reported from the start (`Turns.exists_failed`).
-/

namespace ContainerTasks.Run

/-- An item in two lists, one after the other, stands in the second of them or in the first. -/
theorem exists_of_append_eq {α : Type} {first second earlier later : List α} {item : α}
    (split : first ++ second = earlier ++ item :: later) :
    (∃ middle, earlier = first ++ middle ∧ second = middle ++ item :: later) ∨
      ∃ middle, first = earlier ++ item :: middle ∧ later = middle ++ second := by
  rcases List.append_eq_append_iff.mp split with ⟨middle, rfl, same⟩ | ⟨middle, rfl, same⟩
  · exact Or.inl ⟨middle, rfl, same⟩
  · cases middle with
    | nil => exact Or.inl ⟨[], by simp, same.symm⟩
    | cons other middle =>
        obtain ⟨rfl, rfl⟩ := List.cons.inj same
        exact Or.inr ⟨middle, rfl, rfl⟩

theorem Method.call_prepares (method : Method) : method.call.Prepares := by
  cases method <;> trivial

namespace Turns

variable {limit : Nat} {waiting working : List Need} {results : Results}
  {result : Except Error (List (String × String))} {named : List (String × String)}
  {error : Error} {marks : List Mark}

theorem prepares (turns : Turns limit waiting working results result marks) :
    ∀ mark ∈ marks, mark.call.Prepares := by
  induction turns with
  | due _ | done _ => exact List.forall_mem_nil _
  | begun _ _ _ ih => exact List.forall_mem_cons.mpr ⟨Method.call_prepares _, ih⟩
  | ended _ _ _ ih => exact List.forall_mem_cons.mpr ⟨Method.call_prepares _, ih⟩
  | broken _ => exact List.forall_mem_singleton.mpr (Method.call_prepares _)

theorem eq_of_due (turns : Turns limit waiting working results result marks)
    (due : results.due? = some error) : result = .error error ∧ marks = [] := by
  cases turns with
  | due other =>
      cases due.symm.trans other
      exact ⟨rfl, rfl⟩
  | done going | begun going | ended going | broken going => cases going.symm.trans due

theorem waiting_eq_nil (turns : Turns limit waiting working results result [])
    (going : results.due? = none) : waiting = [] := by
  cases turns with
  | due due => cases going.symm.trans due
  | done _ => rfl

/-- Images are begun in line. -/
theorem made_isPrefix (turns : Turns limit waiting working results result marks) :
    made marks <+: waiting.map Need.call := by
  induction turns with
  | due _ | done _ | broken _ => exact List.nil_prefix
  | begun _ _ _ ih => exact (List.prefix_cons_inj _).mpr ih
  | ended _ _ _ ih => exact ih

/-- Images are the result only if nothing has failed. -/
theorem failure_eq_none (turns : Turns limit waiting working results (.ok named) marks) :
    results.failure = none := by
  generalize same : Except.ok named = result at turns
  induction turns with
  | due _ | broken _ => cases same
  | done _ => exact (Results.total_eq_ok_iff.mp same.symm).1
  | begun _ _ _ ih => exact ih same
  | ended _ _ _ ih => exact (Results.failure_add_eq_none (ih same)).1

/-- If all goes well each image in line is begun once, and in the order in which they end
all of them succeed. -/
theorem all (turns : Turns limit waiting working results (.ok named) marks) :
    made marks = waiting.map Need.call ∧
      ∃ order : List Need, order.Perm (working ++ waiting) ∧
        named = results.images ++ order.map Need.entry ∧
        succeeded marks = order.map Need.call ∧ answered marks = order.map Need.call := by
  generalize same : Except.ok named = result at turns
  induction turns with
  | due _ | broken _ => cases same
  | done _ =>
      obtain ⟨-, rfl⟩ := Results.total_eq_ok_iff.mp same.symm
      exact ⟨rfl, [], .refl _, (List.append_nil _).symm, rfl, rfl⟩
  | begun _ _ _ ih =>
      obtain ⟨begun, order, all, names, success, answers⟩ := ih same
      rw [List.append_assoc, List.singleton_append] at all
      exact ⟨congrArg _ begun, order, all, names, success, answers⟩
  | @ended need waiting before after results _ _ _ marks _ comes later ih =>
      obtain ⟨-, image, rfl⟩ := Results.failure_add_eq_none (failure_eq_none (same ▸ later))
      cases comes with
      | prepared =>
          obtain ⟨begun, order, all, rfl, success, answers⟩ := ih same
          refine ⟨begun, need :: order, ?_, ?_, ?_, ?_⟩
          · rw [List.append_assoc, List.cons_append]
            rw [List.append_assoc] at all
            exact (all.cons need).trans List.perm_middle.symm
          · exact List.append_assoc _ _ _
          · exact congrArg (need.call :: ·) success
          · exact congrArg (need.call :: ·) answers

/-- The error is that of an image which could not be prepared, unless there was a failure from
the start. -/
theorem exists_failed (turns : Turns limit waiting working results (.error error) marks)
    (sound : ∀ earlier, results.failure ≠ some (earlier, error)) :
    ∃ need ∈ working ++ waiting, ∃ fault, .ended need.call fault ∈ marks ∧
      need.Fails fault error := by
  generalize same : Except.error error = result at turns
  induction turns with
  | due due =>
      cases same
      exact absurd (Results.failure_of_due due) (sound 0)
  | done _ =>
      obtain ⟨earlier, failure⟩ := Results.exists_failure_of_total same.symm
      exact absurd failure (sound earlier)
  | begun _ _ _ ih =>
      obtain ⟨need, member, fault, ended, fails⟩ := ih sound same
      rw [List.append_assoc, List.singleton_append] at member
      exact ⟨need, member, fault, List.mem_cons_of_mem _ ended, fails⟩
  | @ended need waiting before after results fault outcome _ marks _ comes later ih =>
      by_cases failed : ∃ earlier,
        (results.add before.length need.container outcome).failure = some (earlier, error)
      · obtain ⟨earlier, failed⟩ := failed
        rcases Results.failure_add_eq_some failed with rfl | ⟨earlier, failure⟩
        · cases comes with
          | failed fails =>
              refine ⟨need, ?_, fault, List.mem_cons_self, fails⟩
              exact List.mem_append_left _ (List.mem_append_right _ List.mem_cons_self)
        · exact absurd failure (sound earlier)
      · obtain ⟨other, member, cause, ended, fails⟩ := ih (not_exists.mp failed) same
        refine ⟨other, ?_, cause, List.mem_cons_of_mem _ ended, fails⟩
        rw [List.append_assoc, List.cons_append]
        rw [List.append_assoc] at member
        exact List.perm_middle.mem_iff.mpr (List.mem_cons_of_mem _ member)
  | @broken need _ before after _ cause _ =>
      cases same
      refine ⟨need, ?_, _, List.mem_singleton_self _, .brokenDown⟩
      exact List.mem_append_left _ (List.mem_append_right _ List.mem_cons_self)

section Named

variable {project : String} {containers : List Project.Container} {inLine : Bool}

/-- If all goes well the containers are those that have an image. -/
theorem perm_names
    (turns : Turns limit (containers.map (.ofContainer project)) [] { inLine } (.ok named) marks) :
    (named.map Prod.fst).Perm (containers.map (·.name)) := by
  obtain ⟨-, order, all, rfl, -, -⟩ := turns.all
  have names := (all.map Need.entry).map Prod.fst
  have same : ((containers.map (.ofContainer project)).map Need.entry).map Prod.fst =
      containers.map (·.name) := by
    rw [List.map_map, List.map_map]
    rfl
  rwa [List.nil_append, same] at names

theorem mem_ofList
    (turns : Turns limit (containers.map (.ofContainer project)) [] { inLine } (.ok named) marks)
    (name : String) :
    name ∈ (Std.ExtTreeMap.ofList named : TextMap) ↔ name ∈ containers.map (·.name) := by
  rw [Std.ExtTreeMap.mem_ofList, List.contains_iff_mem]
  exact turns.perm_names.mem_iff

/-- Where containers have different names, each is found with the image it needs. -/
theorem getElem?_ofList
    (turns : Turns limit (containers.map (.ofContainer project)) [] { inLine } (.ok named) marks)
    (distinct : (containers.map (·.name)).Nodup) {container : Project.Container}
    (member : container ∈ containers) :
    (Std.ExtTreeMap.ofList named : TextMap)[container.name]? =
      some (Method.ofContainer project container).image := by
  have keys : named.Pairwise fun first second => ¬ compare first.1 second.1 = .eq := by
    have names := turns.perm_names.nodup_iff.mpr distinct
    refine (List.pairwise_map.mp names).imp fun different same => different ?_
    exact Std.LawfulEqCmp.compare_eq_iff_eq.mp same
  obtain ⟨-, order, all, rfl, -, -⟩ := turns.all
  refine Std.ExtTreeMap.getElem?_ofList_of_mem Std.ReflCmp.compare_self keys ?_
  refine List.mem_map.mpr ⟨.ofContainer project container, ?_, rfl⟩
  exact all.mem_iff.mpr (List.mem_map_of_mem member)

end Named

end Turns

end ContainerTasks.Run
