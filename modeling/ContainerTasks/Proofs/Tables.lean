import ContainerTasks.Project.Basic

/-! # Tables and their entries

A table is what its entries make it, and a table with entries added has each of these where
the other one had nothing or something else.
-/

namespace ContainerTasks

variable {α : Type}

theorem getElem?_insertMany_toList (left right : Std.ExtTreeMap String α) (key : String) :
    (left.insertMany right.toList)[key]? = right[key]?.or left[key]? := by
  cases found : right[key]? with
  | some value =>
      exact Std.ExtTreeMap.getElem?_insertMany_list_of_mem Std.ReflCmp.compare_self
        right.distinct_keys_toList (Std.ExtTreeMap.mem_toList_iff_getElem?_eq_some.mpr found)
  | none =>
      refine Std.ExtTreeMap.getElem?_insertMany_list_of_contains_eq_false ?_
      rw [← Bool.not_eq_true, List.contains_iff_mem, List.mem_map]
      rintro ⟨entry, member, rfl⟩
      rw [Std.ExtTreeMap.mem_toList_iff_getElem?_eq_some.mp member] at found
      cases found

theorem ofList_toList (table : Std.ExtTreeMap String α) :
    Std.ExtTreeMap.ofList table.toList = table := by
  refine Std.ExtTreeMap.ext_getElem? fun key => ?_
  rw [Std.ExtTreeMap.ofList_eq_insertMany_empty, getElem?_insertMany_toList,
    Std.ExtTreeMap.getElem?_empty, Option.or_none]

end ContainerTasks
