import ContainerTasks.Files.Path
import ContainerTasks.Text.Utf8

/-! # Stored files

Files and directories as they are found under absolute paths. A path is followed
part by part: what it passes through must be a directory, and so must what it
leads to if it ends in a slash.
-/

namespace ContainerTasks.Files

/-- What lies under a path. -/
inductive Entry
  | directory
  | file (content : Bytes)
deriving DecidableEq, Repr

/-- Entries by the parts of their paths. The root is always there. -/
structure FileStore where
  entries : List (List String × Entry) := []

namespace FileStore

/-- What lies under the parts of a path. -/
def at? (store : FileStore) (parts : List String) : Option Entry :=
  if parts.isEmpty then some .directory else store.entries.lookup parts

/-- Whether a directory lies under the parts of a path. -/
def isDirectoryAt (store : FileStore) (parts : List String) : Bool :=
  store.at? parts = some .directory

/-- Adds a directory and those around it. -/
def addDirectory (store : FileStore) (parts : List String) : FileStore :=
  ((List.range (parts.length + 1)).map parts.take).foldl
    (fun store parts =>
      if (store.at? parts).isSome then store
      else { entries := store.entries ++ [(parts, .directory)] })
    store

/-- Adds a file in place of what lay there, and the directories around it. -/
def addFile (store : FileStore) (parts : List String) (content : Bytes) : FileStore :=
  let store := store.addDirectory parts.dropLast
  { entries := (parts, .file content) :: store.entries.filter (·.1 != parts) }

/-- Follows the parts of a path from a directory. -/
def follow (store : FileStore) : (place : List String) → (parts : List String) →
    Option (List String)
  | place, [] => some place
  | place, part :: rest =>
    if !store.isDirectoryAt place then none
    else if part = "" || part = "." then follow store place rest
    else if part = ".." then follow store place.dropLast rest
    else if (store.at? (place ++ [part])).isSome then follow store (place ++ [part]) rest
    else none

/-- The parts of the place that an absolute path leads to. -/
def resolve (store : FileStore) (path : String) : Option (List String) :=
  store.follow [] (Text.cut '/' path)

/-- What an absolute path leads to. -/
def find? (store : FileStore) (path : String) : Option Entry :=
  (store.resolve path).bind store.at?

/-- Whether an absolute path leads to a file. -/
def isFile (store : FileStore) (path : String) : Bool :=
  match store.find? path with
  | some (.file _) => true
  | _ => false

/-- Whether an absolute path leads to a directory. -/
def isDirectory (store : FileStore) (path : String) : Bool :=
  store.find? path = some .directory

/-- The content of the file that an absolute path leads to. -/
def read? (store : FileStore) (path : String) : Option Bytes :=
  match store.find? path with
  | some (.file content) => some content
  | _ => none

/-- The files and directories after a file was opened to be written to: one that is not
there comes to be in its directory, which must be there. -/
def opened? (store : FileStore) (path : String) : Option FileStore :=
  match store.find? path with
  | some (.file _) => some store
  | some .directory => none
  | none =>
    let parts := Text.cut '/' path
    match parts.getLast?, store.follow [] parts.dropLast with
    | some name, some place =>
      if name = "" || name = "." || name = ".." || !store.isDirectoryAt place then none
      else some (store.addFile (place ++ [name]) [])
    | _, _ => none

/-- The directories around a directory, from the inside out and beginning with
itself. -/
def ancestors (place : List String) : List (List String) :=
  (List.range (place.length + 1)).reverse.map place.take

/-- The content of the file that a path leads to: a relative one from a directory, or
else from the first of those around it where it leads to a file. -/
def search? (store : FileStore) (directory path : String) : Option Bytes :=
  if Path.isAbsolute path then store.read? path
  else
    (ancestors (Path.parts directory)).findSome? fun place =>
      store.read? (Path.join ("/" ++ String.intercalate "/" place) path)

/-- Everything below the directory that an absolute path leads to, by paths relative
to it and in their order. -/
def below (store : FileStore) (path : String) : List (String × Entry) :=
  match store.resolve path with
  | none => []
  | some place =>
    let inside := store.entries.filterMap fun (parts, entry) =>
      if place.isPrefixOf parts && place.length < parts.length then
        some (String.intercalate "/" (parts.drop place.length), entry)
      else none
    inside.mergeSort fun (first, _) (second, _) => !(second < first)

end FileStore

end ContainerTasks.Files
