import Worklist.Config.Basic
import Worklist.Text.Lowercase
import Worklist.Text.Split

/-!
# Changing a setting

A setting is changed by its key and the text of its new value.
-/

namespace Worklist

/-- A setting that can be changed. -/
inductive Setting where
  /-- The file of the dataset. -/
  | data
  | knownHosts
  /-- The default size of a page. -/
  | defaultLimit
  /-- The largest size of a page. -/
  | maxLimit
  /-- Whether output has colors. -/
  | color
  deriving DecidableEq

namespace Setting

/-- The settings, in the order in which they are listed. -/
def all : List Setting :=
  [.data, .knownHosts, .defaultLimit, .maxLimit, .color]

/-- The key of a setting. -/
def key : Setting → String
  | .data => "data"
  | .knownHosts => "known_hosts"
  | .defaultLimit => "paging.default_limit"
  | .maxLimit => "paging.max_limit"
  | .color => "output.color"

/-- The setting under a key. -/
def ofKey? (key : String) : Option Setting :=
  all.find? fun s => s.key = key

/-- The hosts in a text, between commas. -/
def hosts (text : String) : List String :=
  ((Text.split ',' text.toList).map Text.trim |>.filter (· ≠ [])).map String.ofList

/-- The size of a page: at least one. -/
def limit? (text : String) : Option Nat :=
  (Text.uint64? (Text.trim text.toList)).filter (0 < ·)

/-- A boolean, in one of several words. -/
def boolean? (text : String) : Option Bool :=
  let word := Text.lowercased text
  if word ∈ ["true", "yes", "1", "on"] then some true
  else if word ∈ ["false", "no", "0", "off"] then some false
  else none

end Setting

/-- Why a setting cannot be changed. -/
inductive SettingError where
  /-- The key or the value is not one. -/
  | config (e : ConfigError)
  /-- A host cannot be registered. -/
  | registry (e : RegistryError)
  deriving DecidableEq

namespace Config

/-- The configuration with a setting changed. Hosts must be such that all can be registered. -/
def change (c : Config) (s : Setting) (text : String) : Except SettingError Config :=
  match s with
  | .data => .ok { c with data := some ⟨text⟩ }
  | .knownHosts =>
    let c := { c with knownHosts := Setting.hosts text }
    match c.registry with
    | .ok _ => .ok c
    | .error e => .error (.registry e)
  | .defaultLimit =>
    match Setting.limit? text with
    | some n => .ok { c with defaultLimit := some n }
    | none => .error (.config (.invalidLimit text))
  | .maxLimit =>
    match Setting.limit? text with
    | some n => .ok { c with maxLimit := some n }
    | none => .error (.config (.invalidLimit text))
  | .color =>
    match Setting.boolean? text with
    | some b => .ok { c with color := some b }
    | none => .error (.config (.invalidBoolean text))

/-- The configuration with the setting under a key changed. -/
def set (c : Config) (key text : String) : Except SettingError Config :=
  match Setting.ofKey? key with
  | some s => c.change s text
  | none => .error (.config (.unknownKey key))

end Config

/-- The text of an error. For a file that does not hold a configuration a fixed phrase stands where
the reason would, which `Config.parse` does not give. -/
def ConfigError.message : ConfigError → String
  | .noDirectory => "Could not determine config directory"
  | .read fault => "Failed to read config: " ++ fault.message
  | .parse => "Failed to parse config: not a configuration"
  | .newer version =>
    "config version " ++ String.ofList (Text.decimal version) ++
      " is newer than supported version " ++ String.ofList (Text.decimal Config.version)
  | .makeDirectory fault => "Failed to create config directory: " ++ fault.message
  | .unwritable => "Failed to serialize config: out-of-range value for u64 type"
  | .write fault => "Failed to write config: " ++ fault.message
  | .unknownKey key =>
    "Unknown config key '" ++ key ++ "'. Valid keys: " ++
      String.intercalate ", " (Setting.all.map Setting.key)
  | .invalidLimit text => "Invalid page size '" ++ text ++ "'. Use a positive integer"
  | .invalidBoolean text =>
    "Invalid boolean value '" ++ text ++ "'. Use true/false, yes/no, 1/0, or on/off"

end Worklist
