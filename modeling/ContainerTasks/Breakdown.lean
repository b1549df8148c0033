/-! # Breakdowns

Some steps end the program at once, wherever it stands: nothing answers for what was
asked, and nothing that was begun is undone. A breakdown says which step it was.
-/

namespace ContainerTasks

/-- What ends the program at once. -/
inductive Breakdown
  /-- The sum of two numbers does not fit their 64 bits. -/
  | overflow
  /-- More permits are asked for than there may be. -/
  | permits
deriving DecidableEq, Repr

namespace Breakdown

/-- How many permits there may be. -/
def maxPermits : Nat := Nat.pow 2 61 - 1

/-- The wording of a breakdown. -/
def message : Breakdown → String
  | overflow => "attempt to add with overflow"
  | permits =>
    "a semaphore may not have more than MAX_PERMITS permits (" ++ toString maxPermits ++ ")"

/-- The sum of two numbers, which has to fit their 64 bits. -/
def add (first second : UInt64) : Except Breakdown UInt64 :=
  if first.toNat + second.toNat < UInt64.size then .ok (first + second) else .error .overflow

end Breakdown

end ContainerTasks
