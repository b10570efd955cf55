import Worklist.Storage.FileTask
import Worklist.Json.Writer
import Worklist.Tracker.Stored

/-!
# The file of a dataset

A dataset is kept in one file. It is saved beside its place first and then moved there, so whatever
goes wrong the file that was there before is still whole, unless it is a file that the draft itself
is written to.
-/

namespace Worklist

open Tracker (Dataset)

/-- Why a dataset cannot be loaded or saved. -/
inductive StoreError where
  /-- There is no place to keep a dataset at. -/
  | noDataDirectory
  /-- The file cannot be read. -/
  | read (path : Path) (fault : FileFault)
  /-- The file cannot be written. -/
  | write (path : Path) (fault : FileFault)
  /-- The directory of the file cannot be made. -/
  | makeDirectory (path : Path) (fault : FileFault)
  /-- The file does not hold a dataset. -/
  | parse (path : Path) (fault : Json.DecodeError)

namespace StoreError

/-- The text of an error. -/
def message : StoreError → String
  | .noDataDirectory => "failed to determine data directory: no valid home directory found"
  | .read path fault => "failed to read dataset file '" ++ path.text ++ "': " ++ fault.message
  | .write path fault => "failed to write dataset file '" ++ path.text ++ "': " ++ fault.message
  | .makeDirectory path fault =>
    "failed to create data directory '" ++ path.text ++ "': " ++ fault.message
  | .parse path fault => "invalid dataset file '" ++ path.text ++ "': " ++ fault.message

/-- Whether an error means that there is no file. -/
def isNotFound : StoreError → Bool
  | .read _ .notFound => true
  | _ => false

end StoreError

/-- A place to keep a dataset at. -/
structure DatasetStore where
  /-- The path of the file. -/
  path : Path

namespace DatasetStore

/-- Loads the dataset. -/
def load (s : DatasetStore) (t : FileTree) : Except StoreError Dataset := do
  let content ← (t.read s.path).mapError (.read s.path)
  (Json.decodeText Dataset.decode content).mapError (.parse s.path)

/-- Loads the dataset, which is empty if there is no file. -/
def loadOrEmpty (s : DatasetStore) (t : FileTree) : Except StoreError Dataset :=
  match s.load t with
  | .ok d => .ok d
  | .error e => if e.isNotFound then .ok .empty else .error e

/-- The path that a dataset is written to before it is moved to its place. -/
def draftPath (s : DatasetStore) : Path :=
  s.path.withExtension "tmp"

/-- Makes the directory of the file. -/
def prepare (s : DatasetStore) (t : FileTree) : Except StoreError Unit × FileTree :=
  match s.path.parent? with
  | none => (.ok (), t)
  | some parent =>
    match t.makeDirectories parent with
    | (.ok (), t) => (.ok (), t)
    | (.error fault, t) => (.error (.makeDirectory parent fault), t)

/-- Writes the draft and moves it into place. -/
def replace (s : DatasetStore) (content : String) (t : FileTree) :
    Except StoreError Unit × FileTree :=
  match t.write s.draftPath content with
  | .error fault => (.error (.write s.draftPath fault), t)
  | .ok t =>
    match t.move s.draftPath s.path with
    | .error fault => (.error (.write s.path fault), t)
    | .ok t => (.ok (), t)

/-- Saves a dataset. -/
def save (s : DatasetStore) (d : Dataset) (t : FileTree) : Except StoreError Unit × FileTree :=
  match s.prepare t with
  | (.error e, t) => (.error e, t)
  | (.ok (), t) => s.replace (Json.prettyText d.toJson) t

/-! ### Without waiting -/

/-- Loads the dataset, without waiting for the files. -/
def loadTask (s : DatasetStore) : FileTask (Except StoreError Dataset) := do
  let content ← .ask (·.read s.path)
  return do
    let content ← content.mapError (.read s.path)
    (Json.decodeText Dataset.decode content).mapError (.parse s.path)

/-- Loads the dataset, which is empty if there is no file, without waiting for the files. -/
def loadOrEmptyTask (s : DatasetStore) : FileTask (Except StoreError Dataset) := do
  match ← s.loadTask with
  | .ok d => return .ok d
  | .error e => return if e.isNotFound then .ok .empty else .error e

/-- Writes the draft and moves it into place, without waiting for the files. -/
def replaceTask (s : DatasetStore) (content : String) : FileTask (Except StoreError Unit) := do
  match ← .attempt (·.write s.draftPath content) with
  | .error fault => return .error (.write s.draftPath fault)
  | .ok () =>
    match ← .attempt (·.move s.draftPath s.path) with
    | .error fault => return .error (.write s.path fault)
    | .ok () => return .ok ()

/-- Saves a dataset, without waiting for the files. -/
def saveTask (s : DatasetStore) (d : Dataset) : FileTask (Except StoreError Unit) := do
  match s.path.parent? with
  | none => s.replaceTask (Json.prettyText d.toJson)
  | some parent =>
    match ← .perform (·.makeDirectories parent) with
    | .error fault => return .error (.makeDirectory parent fault)
    | .ok () => s.replaceTask (Json.prettyText d.toJson)

end DatasetStore

end Worklist
