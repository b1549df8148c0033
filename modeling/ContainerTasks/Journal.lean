/-! # Journal

Entries a component leaves about what it did, for whoever looks into a run
afterwards. An entry has a level, a message, and named fields whose values are
texts.
-/

namespace ContainerTasks.Journal

/-- How important an entry is. -/
inductive Level
  | trace
  | debug
  | info
  | error
deriving DecidableEq, Repr

/-- What was done, with named details. -/
structure Entry where
  level : Level
  message : String
  fields : List (String × String)
deriving DecidableEq, Repr

end ContainerTasks.Journal
