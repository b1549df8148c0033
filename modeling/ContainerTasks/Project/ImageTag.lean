import ContainerTasks.Text.Lowercase

/-! # Tags of built images -/

namespace ContainerTasks.Project

/-- The tag of the image that is built for a container. References to images have
no capital letters. -/
def imageTag (project container : String) : String :=
  Text.lowercase (project ++ "-" ++ container)

end ContainerTasks.Project
