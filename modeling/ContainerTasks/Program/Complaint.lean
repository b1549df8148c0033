import ContainerTasks.Text.Margin

/-! # Complaints

What the program says when it cannot do what it was asked for: a message and the
causes behind it, the nearest first.
-/

namespace ContainerTasks.Program

/-- A message and its causes. -/
structure Complaint where
  message : String
  causes : List String := []
deriving DecidableEq, Repr

namespace Complaint

/-- Causes with numbers, each on a line of its own. -/
def numbered : (number : Nat) → List String → String
  | _, [] => ""
  | number, cause :: rest =>
    let digits := toString number
    "\n" ++ Text.spaces (5 - digits.length) ++ digits ++ ": " ++ Text.indented 7 cause ++
      numbered (number + 1) rest

/-- The causes of a complaint. One cause alone has no number. -/
def causesText : List String → String
  | [] => ""
  | [cause] => "\n\nCaused by:\n    " ++ Text.indented 4 cause
  | causes => "\n\nCaused by:" ++ numbered 0 causes

/-- A complaint as it is printed. -/
def text (complaint : Complaint) : String :=
  "x " ++ complaint.message ++ causesText complaint.causes ++ "\n"

end Complaint

end ContainerTasks.Program
