import Worklist.Config.Basic
import Worklist.Json.Basic
import Worklist.Toml.Reader

/-!
# The stored form of a configuration

A configuration is kept as a TOML document with a version and a table for each group of settings.
What is not settled is left out. A value of the wrong type makes the whole document invalid, while
keys that are not known are passed over.
-/

namespace Worklist.Config

open Toml (Members Value)

/-! ### Reading -/

/-- A natural number up to a limit. -/
def natural? (most : Nat) : Value → Option Nat
  | .integer n => if 0 ≤ n.toInt ∧ n.toInt ≤ most then some n.toInt.toNat else none
  | _ => none

/-- A text. -/
def text? : Value → Option String
  | .text s => some s
  | _ => none

/-- A list of texts. -/
def texts? : Value → Option (List String)
  | .list items => items.mapM text?
  | _ => none

/-- A boolean. -/
def boolean? : Value → Option Bool
  | .boolean b => some b
  | _ => none

/-- The value under a key that may be missing. -/
def member? {α : Type} (m : Members) (key : String) (read : Value → Option α) :
    Option (Option α) :=
  match m.lookup key with
  | none => some none
  | some v => (read v).map some

/-- The settings of pages: a table, or its values in order. A moment counts as a table of its own.
-/
def paging? : Value → Option (Option Nat × Option Nat)
  | .table _ m => do
    let defaultLimit ← member? m "default_limit" (natural? Text.maxUInt64)
    let maxLimit ← member? m "max_limit" (natural? Text.maxUInt64)
    return (defaultLimit, maxLimit)
  | .list (first :: second :: _) => do
    let defaultLimit ← natural? Text.maxUInt64 first
    let maxLimit ← natural? Text.maxUInt64 second
    return (some defaultLimit, some maxLimit)
  | .moment _ => some (none, none)
  | _ => none

/-- The settings of output: a table, or its value in a list. A moment counts as a table of its own.
-/
def output? : Value → Option (Option Bool)
  | .table _ m => member? m "color" boolean?
  | .list (first :: _) => (boolean? first).map some
  | .moment _ => some none
  | _ => none

/-- The largest number of a version. -/
def maxVersion : Nat := 0xffffffff

/-- Reads the table of a document. -/
def ofMembers (m : Members) : Except ConfigError Config :=
  let read : Option (Nat × Config) := do
    let version ← member? m "version" (natural? maxVersion)
    let data ← member? m "data" text?
    let knownHosts ← member? m "known_hosts" texts?
    let paging ← member? m "paging" paging?
    let color ← member? m "output" output?
    return (version.getD Config.version,
      { data := data.map Path.mk
        knownHosts := knownHosts.getD []
        defaultLimit := paging.bind (·.1)
        maxLimit := paging.bind (·.2)
        color := color.getD none })
  match read with
  | none => .error .parse
  | some (version, c) => if Config.version < version then .error (.newer version) else .ok c

/-- Reads a document. -/
def parse (text : String) : Except ConfigError Config :=
  match Toml.parse text.toList with
  | none => .error .parse
  | some m => ofMembers m

/-! ### Writing -/

/-- A line that settles a value. -/
def line (key : String) (value : List Char) : List Char :=
  key.toList ++ [' ', '=', ' '] ++ value ++ ['\n']

/-- A line for a value that may be missing. -/
def optionalLine {α : Type} (key : String) (write : α → List Char) (value : Option α) : List Char :=
  match value with
  | some x => line key (write x)
  | none => []

/-- A line that opens a table. -/
def header (name : String) : List Char :=
  ['\n', '['] ++ name.toList ++ [']', '\n']

/-- A text on a line of its own in a list. -/
def writeItem (s : String) : List Char :=
  ['\n', ' ', ' ', ' ', ' '] ++ Toml.writeQuoted s.toList ++ [',']

/-- A list of texts. Two and more stand on lines of their own. -/
def writeTexts : List String → List Char
  | [] => ['[', ']']
  | [s] => ['['] ++ Toml.writeQuoted s.toList ++ [']']
  | items => ['['] ++ items.flatMap writeItem ++ ['\n', ']']

/-- A boolean. -/
def writeBoolean (b : Bool) : List Char :=
  if b then ['t', 'r', 'u', 'e'] else ['f', 'a', 'l', 's', 'e']

/-- The known hosts, which are left out if there are none. -/
def knownHosts? (c : Config) : Option (List String) :=
  if c.knownHosts = [] then none else some c.knownHosts

/-- The document of a configuration. -/
def document (c : Config) : List Char :=
  line "version" (Text.decimal Config.version) ++
    optionalLine "data" (fun p : Path => Toml.writeQuoted p.text.toList) c.data ++
    optionalLine "known_hosts" writeTexts c.knownHosts? ++
    header "paging" ++
    optionalLine "default_limit" Text.decimal c.defaultLimit ++
    optionalLine "max_limit" Text.decimal c.maxLimit ++
    header "output" ++
    optionalLine "color" writeBoolean c.color

/-- Writes a configuration, if its numbers fit the integers of a document. -/
def write? (c : Config) : Option String :=
  let fits := fun (limit : Option Nat) => limit.all (· ≤ Text.maxInt64)
  if fits c.defaultLimit ∧ fits c.maxLimit then some (String.ofList c.document) else none

/-! ### As a value -/

/-- A configuration as a value. -/
def toJson (c : Config) : Json :=
  .object ([("version", .int Config.version)] ++
    Json.optionalMember "data" (fun p : Path => .string p.text) c.data ++
    Json.optionalMember "known_hosts" Json.strings c.knownHosts? ++
    [("paging", .object (
      Json.optionalMember "default_limit" (fun n : Nat => .int n) c.defaultLimit ++
      Json.optionalMember "max_limit" (fun n : Nat => .int n) c.maxLimit)),
    ("output", .object (Json.optionalMember "color" Json.bool c.color))])

end Worklist.Config
