import Worklist.Paging.Request
import Worklist.Registry.Basic
import Worklist.Storage.FileTree

/-!
# The configuration

What a user may settle once for all commands: where the dataset is, which hosts are known, how large
pages are and whether output has colors. What is not settled has a default.
-/

namespace Worklist

/-- A configuration. -/
structure Config where
  /-- The file of the dataset. -/
  data : Option Path
  /-- The hosts whose links are recognized. -/
  knownHosts : List String
  /-- The size of a page for which none is given. -/
  defaultLimit : Option Nat
  /-- The largest size of a page. -/
  maxLimit : Option Nat
  /-- Whether output has colors. -/
  color : Option Bool
  deriving DecidableEq

/-- Why a configuration cannot be loaded, changed or saved. -/
inductive ConfigError where
  /-- There is no place to look for it. -/
  | noDirectory
  /-- The file cannot be read. -/
  | read (fault : FileFault)
  /-- The file does not hold a configuration. The reason is left out: only a message would show
  it. -/
  | parse
  /-- The file has the form of a later version. -/
  | newer (version : Nat)
  /-- The directory of the file cannot be made. -/
  | makeDirectory (fault : FileFault)
  /-- A number is too large to be written. -/
  | unwritable
  /-- The file cannot be written. -/
  | write (fault : FileFault)
  /-- There is no setting under the key. -/
  | unknownKey (key : String)
  /-- A text is not the size of a page. -/
  | invalidLimit (text : String)
  /-- A text is not a boolean. -/
  | invalidBoolean (text : String)
  deriving DecidableEq

namespace Config

/-- The configuration in which nothing is settled. -/
def empty : Config :=
  ⟨none, [], none, none, none⟩

/-- The version of the form in which configurations are written. -/
def version : Nat := 1

/-- The page sizes that hold. -/
def pageSizes (c : Config) : PageSizes :=
  PageSizes.normalized
    ⟨c.defaultLimit.getD PageSizes.standard.defaultLimit,
      c.maxLimit.getD PageSizes.standard.maxLimit⟩

/-- Registers hosts, in order. -/
def registerHosts (r : HostRegistry) : List String → Except RegistryError HostRegistry
  | [] => .ok r
  | host :: hosts =>
    match r.registerHost host with
    | (.ok _, r) => registerHosts r hosts
    | (.error e, _) => .error e

/-- The registry of the known hosts. -/
def registry (c : Config) : Except RegistryError HostRegistry :=
  registerHosts .empty c.knownHosts

end Config

end Worklist
