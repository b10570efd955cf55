import Worklist.Config.Environment
import Worklist.Config.Setting
import Worklist.Config.Stored

/-!
# The file of the configuration

Loading and saving the configuration. Without a file nothing is settled.
-/

namespace Worklist.Config

/-- The path of the configuration. -/
def path (env : Environment) : Except ConfigError Path :=
  match env.configPath? with
  | some p => .ok p
  | none => .error .noDirectory

/-- Loads the configuration. -/
def load (env : Environment) (t : FileTree) : Except ConfigError Config := do
  let p ← path env
  if t.contains p then
    let content ← (t.read p).mapError .read
    parse content
  else return .empty

/-- Writes a document over the file of the configuration. -/
def overwrite (p : Path) (c : Config) (t : FileTree) : Except ConfigError FileTree :=
  match c.write? with
  | none => .error .unwritable
  | some document => (t.write p document).mapError .write

/-- Makes the directory of a file. -/
def prepare (p : Path) (t : FileTree) : Except FileFault Unit × FileTree :=
  match p.parent? with
  | none => (.ok (), t)
  | some parent => t.makeDirectories parent

/-- Saves a configuration, in a directory that is made if it is missing. The file is written over
without a draft, so that it is still whole after a failure rests on `FileTree.write` alone, which
writes all of a file or nothing. -/
def save (p : Path) (c : Config) (t : FileTree) : Except ConfigError Unit × FileTree :=
  match prepare p t with
  | (.error fault, t) => (.error (.makeDirectory fault), t)
  | (.ok (), t) =>
    match overwrite p c t with
    | .error e => (.error e, t)
    | .ok t => (.ok (), t)

end Worklist.Config
