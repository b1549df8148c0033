/-! # Ranges of characters

Sets of characters given as ranges of their numbers.
-/

namespace ContainerTasks.Text

/-- First and last number of each range. -/
abbrev Ranges := List (Nat × Nat)

/-- Whether a character lies in one of the ranges. -/
def Ranges.contains (ranges : Ranges) (c : Char) : Bool :=
  ranges.any fun (first, last) => first ≤ c.toNat && c.toNat ≤ last

end ContainerTasks.Text
