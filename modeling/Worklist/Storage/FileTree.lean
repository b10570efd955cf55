import Worklist.Storage.Path

/-!
# Trees of files

The files and directories that a program finds, with what it can do to them: reading and writing a
file, making directories, moving a file. Each of these either succeeds or leaves the tree as it is
and tells why. Making a directory together with those above it is the one operation of several
steps.

An operation fails where the tree stands against it, and also where the device refuses it: a full
disk, a file system that may only be read, a missing permission. Which operations the device refuses
is part of the tree, and nothing more is assumed of it. A file is never written by half, though:
whatever is refused is refused before it begins.

A place is the list of names from the root. There is always a directory at the root.
-/

namespace Worklist

/-- What stands at a place. -/
inductive Entry where
  /-- A file with its content. -/
  | file (content : String)
  | directory
  deriving DecidableEq

/-- Why an operation on files fails. -/
inductive FileFault where
  /-- There is nothing. -/
  | notFound
  /-- There is something already. -/
  | taken
  /-- A file stands where a directory is needed. -/
  | notDirectory
  /-- A directory stands where a file is needed. -/
  | isDirectory
  /-- A name has more bytes than a directory can keep, or a path more than can be asked for. -/
  | nameTooLong
  /-- The null character, which no name has. -/
  | nullInName
  /-- What the device has to say. -/
  | device (text : String)
  deriving DecidableEq

namespace FileFault

/-- The text of a fault. -/
def message : FileFault → String
  | .notFound => "No such file or directory (os error 2)"
  | .taken => "File exists (os error 17)"
  | .notDirectory => "Not a directory (os error 20)"
  | .isDirectory => "Is a directory (os error 21)"
  | .nameTooLong => "File name too long (os error 36)"
  | .nullInName => "file name contained an unexpected NUL byte"
  | .device text => text

end FileFault

/-- An operation that changes files or directories. -/
inductive FileOperation where
  | write (p : Path)
  | makeDirectory (p : Path)
  /-- Making a directory with those above it. -/
  | makeDirectories (p : Path)
  | move (source target : Path)
  deriving DecidableEq

/-- Files and directories. -/
structure FileTree where
  /-- What stands at the places below the root. -/
  entries : List String → Option Entry
  /-- Why the device refuses an operation, where it does. -/
  refusal : FileOperation → Option FileFault
  /-- The place that paths start at which do not start at the root. -/
  workingDirectory : List String

namespace FileTree

/-- What stands at a place. -/
def entry (t : FileTree) (place : List String) : Option Entry :=
  if place = [] then some .directory else t.entries place

/-- The most bytes of a name. -/
def maxNameSize : Nat := 255

/-- The most bytes of a path. -/
def maxPathSize : Nat := 4095

/-- The place that names lead to from another place. What they lead through must be directories. -/
def walk (t : FileTree) (place : List String) : List String → Except FileFault (List String)
  | [] => .ok place
  | name :: rest =>
    match t.entry place with
    | none => .error .notFound
    | some (.file _) => .error .notDirectory
    | some .directory =>
      if name = ".." then t.walk place.dropLast rest
      else if maxNameSize < name.utf8ByteSize then .error .nameTooLong
      else t.walk (place ++ [name]) rest

/-- The place that a path leads to, whether something stands there or not. -/
def locate (t : FileTree) (p : Path) : Except FileFault (List String) :=
  if '\x00' ∈ p.text.toList then .error .nullInName
  else if p.text = "" then .error .notFound
  else if maxPathSize < p.text.utf8ByteSize then .error .nameTooLong
  else t.walk (if p.isAbsolute then [] else t.workingDirectory) p.names

/-- Whether a path leads to something. -/
def contains (t : FileTree) (p : Path) : Bool :=
  match t.locate p with
  | .error _ => false
  | .ok place =>
    match t.entry place with
    | none => false
    | some .directory => true
    | some (.file _) => !p.endsOpen

/-- Whether a path leads to a directory. -/
def isDirectory (t : FileTree) (p : Path) : Bool :=
  match t.locate p with
  | .error _ => false
  | .ok place => t.entry place = some .directory

/-- The content of a file. -/
def read (t : FileTree) (p : Path) : Except FileFault String := do
  let place ← t.locate p
  match t.entry place with
  | none => throw .notFound
  | some .directory => throw .isDirectory
  | some (.file content) => if p.endsOpen then throw .notDirectory else return content

/-- Puts something, or nothing, at a place. -/
def put (t : FileTree) (place : List String) (e : Option Entry) : FileTree :=
  { t with entries := fun q => if q = place then e else t.entries q }

/-- The tree after an operation that nothing in it stands against, unless the device refuses. -/
def grant (t : FileTree) (o : FileOperation) (after : FileTree) : Except FileFault FileTree :=
  match t.refusal o with
  | some fault => .error fault
  | none => .ok after

/-- Writes a file, instead of one that is there. -/
def write (t : FileTree) (p : Path) (content : String) : Except FileFault FileTree := do
  let place ← t.locate p
  if p.endsOpen then throw .isDirectory
  match t.entry place with
  | some .directory => throw .isDirectory
  | _ => t.grant (.write p) (t.put place (some (.file content)))

/-- Makes a directory in one that is there. -/
def makeDirectory (t : FileTree) (p : Path) : Except FileFault FileTree := do
  let place ← t.locate p
  match t.entry place with
  | some _ => throw .taken
  | none => t.grant (.makeDirectory p) (t.put place (some .directory))

/-- Makes the directory of the first path in one of the second, that in one of the third and so on,
as far as they are missing. A directory that is there is left alone. -/
def makeDirectoriesUp (t : FileTree) : List Path → Except FileFault Unit × FileTree
  | [] => (.ok (), t)
  | p :: above =>
    let settle := fun (e : FileFault) (t : FileTree) =>
      if t.isDirectory p then (Except.ok (), t) else (.error e, t)
    match t.makeDirectory p with
    | .ok made => (.ok (), made)
    | .error .notFound =>
      match t.makeDirectoriesUp above with
      | (.error e, t) => (.error e, t)
      | (.ok (), t) =>
        match t.makeDirectory p with
        | .ok made => (.ok (), made)
        | .error e => settle e t
    | .error e => settle e t

/-- Makes a directory and those above it that are missing. -/
def makeDirectories (t : FileTree) (p : Path) : Except FileFault Unit × FileTree :=
  match t.refusal (.makeDirectories p) with
  | some fault => (.error fault, t)
  | none => t.makeDirectoriesUp p.ancestors

/-- Moves a file, over one that is there. -/
def move (t : FileTree) (source target : Path) : Except FileFault FileTree := do
  let start ← t.locate source
  let goal ← t.locate target
  match t.entry start, t.entry goal with
  | none, _ => throw .notFound
  | some .directory, _ => throw .isDirectory
  | some (.file _), some .directory => throw .isDirectory
  | some (.file content), _ =>
    if source.endsOpen ∨ target.endsOpen then throw .notDirectory
    t.grant (.move source target)
      (if start = goal then t else (t.put goal (some (.file content))).put start none)

/-- The places that names lead through from another place, whether something stands there or not. -/
def placesFrom (place : List String) : List String → List (List String)
  | [] => [place]
  | name :: rest =>
    place :: placesFrom (if name = ".." then place.dropLast else place ++ [name]) rest

/-- The places that a path leads through. -/
def placesAlong (t : FileTree) (p : Path) : List (List String) :=
  placesFrom (if p.isAbsolute then [] else t.workingDirectory) p.names

/-- A tree in which only the directories down to the working directory are there, on a device that
refuses nothing. -/
def empty (workingDirectory : List String) : FileTree where
  entries place := if place.isPrefixOf workingDirectory then some .directory else none
  refusal _ := none
  workingDirectory

end FileTree

end Worklist
