import ContainerTasks.Files.FileStore
import ContainerTasks.Project.Reader

/-! # Loading project files

A project file lies in the directory of its project: paths in it are seen from
there, and the directory names a project that has no name of its own.
-/

namespace ContainerTasks.Project

/-- Loads the project file that a path leads to, as seen from a directory. -/
def load (store : Files.FileStore) (directory path : String) : Except Error Project :=
  match store.read? (Files.Path.join directory path) with
  | none => .error (.fileNotFound path)
  | some content =>
    match Text.Utf8.toString? content with
    | none => .error .unreadable
    | some text => ofYaml text (Files.Path.parent (Files.Path.absolute directory path))

end ContainerTasks.Project
