import ContainerTasks.Project.ImageTag

/-! # Lowercase around hyphens

A sigma is mapped by the letters around it, but case rules do not look past a hyphen. So the
lowercase of texts that are joined by one is their lowercase, joined by one
(`lowercase_hyphen`), and images of containers of one project have the same tag just if the
names of the containers are the same in lowercase (`imageTag_eq_iff`).
-/

namespace ContainerTasks.Text

/-- No cased character is met past a hyphen. -/
theorem meetsCased_hyphen (chars rest : List Char) :
    meetsCased (chars ++ '-' :: rest) = meetsCased chars := by
  have passed : isCaseIgnorable '-' = false := by decide +kernel
  have uncased : isCased '-' = false := by decide +kernel
  unfold meetsCased
  rw [List.dropWhile_append, List.dropWhile_cons_of_neg (by rw [passed]; exact Bool.false_ne_true)]
  cases chars.dropWhile isCaseIgnorable with
  | nil => exact uncased
  | cons next others => rfl

/-- What stands before a hyphen is mapped as if nothing came after. -/
theorem lowerFrom_hyphen (before chars rest : List Char) :
    lowerFrom before (chars ++ '-' :: rest) =
      lowerFrom before chars ++ '-' :: lowerFrom ('-' :: (chars.reverse ++ before)) rest := by
  induction chars generalizing before with
  | nil => rfl
  | cons next chars ih =>
      rw [List.cons_append, lowerFrom, lowerFrom, meetsCased_hyphen, ih, List.append_assoc,
        List.reverse_cons, List.append_assoc]
      rfl

/-- What stands after a hyphen is mapped as if nothing came before. -/
theorem lowerFrom_after (front before chars : List Char) :
    lowerFrom (front ++ '-' :: before) chars = lowerFrom front chars := by
  induction chars generalizing front with
  | nil => rfl
  | cons next chars ih =>
      rw [lowerFrom, lowerFrom, meetsCased_hyphen, ← List.cons_append, ih]

theorem lowercase_hyphen (first second : String) :
    lowercase (first ++ "-" ++ second) = lowercase first ++ "-" ++ lowercase second := by
  have apart := lowerFrom_after [] (first.toList.reverse ++ []) second.toList
  rw [List.nil_append] at apart
  apply String.toList_inj.mp
  have joined : (first ++ "-" ++ second).toList = first.toList ++ '-' :: second.toList := by simp
  rw [lowercase, joined, lowerFrom_hyphen, apart]
  simp [lowercase]

end ContainerTasks.Text

namespace ContainerTasks.Project

theorem imageTag_eq_iff (project first second : String) :
    imageTag project first = imageTag project second ↔
      Text.lowercase first = Text.lowercase second := by
  unfold imageTag
  rw [Text.lowercase_hyphen, Text.lowercase_hyphen, String.append_right_inj]

end ContainerTasks.Project
