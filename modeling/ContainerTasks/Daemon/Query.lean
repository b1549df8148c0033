import ContainerTasks.Codec.Percent

/-! # Parameters of requests to a daemon -/

namespace ContainerTasks.Daemon

/-- Parameters as they stand in the address of a request. Values are percent
encoded; names are the program's own and need no encoding. -/
def encodeQuery (parameters : List (String × String)) : String :=
  String.intercalate "&"
    (parameters.map fun (name, value) => name ++ "=" ++ Codec.Percent.encode value)

/-- A variable of the environment of a container. -/
def environmentEntry (name value : String) : String :=
  name ++ "=" ++ value

end ContainerTasks.Daemon
