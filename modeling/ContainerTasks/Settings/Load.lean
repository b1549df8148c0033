import ContainerTasks.Files.FileStore
import ContainerTasks.Settings.Basic
import ContainerTasks.Settings.Environment
import ContainerTasks.Toml.Document

/-! # Loading settings

Settings come in layers: the defaults, configuration files in their order, and
environment variables. Layers are laid over each other setting by setting, and only
the outcome is checked.
-/

namespace ContainerTasks.Settings

/-- Why settings cannot be loaded. -/
inductive Error
  | fileNotFound (path : String)
  | unreadable
deriving DecidableEq, Repr

/-- The wording of an error. -/
def Error.message : Error → String
  | fileNotFound path => "configuration file '" ++ path ++ "' does not exist"
  | unreadable => "Could not parse configuration"

/-- The tree that the text of a configuration file stands for; none if it is not
well formed. -/
def fileLayer? (content : Bytes) : Option Tree :=
  ((Text.Utf8.toString? content).bind Toml.parse?).map .table

/-- The contents of the files that are there, in order. A relative path is looked for
in the directory and then in those around it. -/
def contents (store : Files.FileStore) (directory : String) (paths : List String) : List Bytes :=
  paths.filterMap (store.search? directory)

/-- The settings that the defaults, the contents of files and the environment make
together. -/
def ofLayers (files : List Bytes) (environment : List (String × String)) :
    Except Error Settings :=
  match files.mapM fileLayer? with
  | none => .error .unreadable
  | some layers =>
    let tree := (layers ++ [Environment.layer environment]).foldl Tree.overlay
      (toTree {})
    match ofTree? tree with
    | some settings => .ok settings
    | none => .error .unreadable

/-- Where configuration files are looked for if none is named. -/
def defaultPaths (home : Option String) : List String :=
  "/etc/gantry/gantry.toml" ::
    home.toList.map fun home => Files.Path.join (Files.Path.join home ".config") "gantry.toml"

/-- Loads the settings from files seen from a directory; `path` names the only file to
use. -/
def load (store : Files.FileStore) (directory : String) (home : Option String)
    (environment : List (String × String)) (path : Option String) : Except Error Settings :=
  match path with
  | none => ofLayers (contents store directory (defaultPaths home)) environment
  | some path =>
    if store.isFile (Files.Path.join directory path) then
      ofLayers (contents store directory [path]) environment
    else .error (.fileNotFound path)

end ContainerTasks.Settings
