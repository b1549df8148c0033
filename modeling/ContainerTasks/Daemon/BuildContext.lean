import ContainerTasks.Engine.Fault
import ContainerTasks.Files.FileStore

/-! # Build contexts

An image is built from everything that lies below a directory.
-/

namespace ContainerTasks.Daemon

/-- The files and directories to build from, by paths relative to the directory. -/
def buildContext (store : Files.FileStore) (directory : String) :
    Except Engine.Fault (List (String × Files.Entry)) :=
  if store.isDirectory directory then .ok (store.below directory)
  else .error (.buildContext (directory ++ " is not a directory"))

end ContainerTasks.Daemon
