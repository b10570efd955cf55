import Worklist.Storage.Path

/-!
# What surrounds the program

Variables of the environment name the files of the program, or the directories they are looked for
in. Without them the files stand in hidden directories of the user's home. What the program does not
work out itself comes from its surroundings as well: which warnings are wanted, and the scripts that
complete command lines.
-/

namespace Worklist

/-- The name of the program, and of its directories. -/
def programName : String := "wit"

/-- What the environment tells. -/
structure Environment where
  /-- The home of the user. -/
  home : Option String
  /-- The home that the list of users gives the user. -/
  accountHome : Option String
  /-- The file of the configuration. -/
  configFile : Option String
  /-- The directory of configurations. -/
  configHome : Option String
  /-- The file of the dataset. -/
  dataFile : Option String
  /-- The directory of data. -/
  dataHome : Option String
  /-- The wish for output without colors. -/
  noColor : Option String
  /-- Whether warnings are wanted, if that is settled. -/
  wantsWarnings : Option Bool
  /-- The script that completes command lines in a shell, or why it cannot be given out. -/
  script : String → Except String String

namespace Environment

/-- The names of the variables that tell of files and colors. -/
def names : List String :=
  ["HOME", "WIT_CONFIG", "XDG_CONFIG_HOME", "WIT_DATA", "XDG_DATA_HOME", "NO_COLOR"]

/-- The environment that variables make up, with empty scripts. -/
def ofVariables (value? : String → Option String) : Environment where
  home := value? "HOME"
  accountHome := none
  configFile := value? "WIT_CONFIG"
  configHome := value? "XDG_CONFIG_HOME"
  dataFile := value? "WIT_DATA"
  dataHome := value? "XDG_DATA_HOME"
  noColor := value? "NO_COLOR"
  wantsWarnings := none
  script := fun _ => .ok ""

/-- The home of the user, if there is one: the one that is named, or else that in the list of users.
A home without a name is none. -/
def homePath? (env : Environment) : Option Path :=
  ((env.home.filter (· ≠ "")).or (env.accountHome.filter (· ≠ ""))).map Path.mk

/-- The path of the configuration. -/
def configPath? (env : Environment) : Option Path :=
  let inHome := fun (home : Path) => (home.join ⟨programName⟩).join ⟨"config.toml"⟩
  match env.configFile, env.configHome with
  | some file, _ => some ⟨file⟩
  | none, some home => some (inHome ⟨home⟩)
  | none, none => env.homePath?.map fun home => inHome (home.join ⟨".config"⟩)

/-- The path of the dataset, if none is named. Data are only kept in a directory whose path starts
at the root, or in the home of the user. -/
def dataPath? (env : Environment) : Option Path := do
  let home ← env.homePath?
  let base := match env.dataHome.map Path.mk with
    | some given => if given.isAbsolute then given else home.join ⟨".local/share"⟩
    | none => home.join ⟨".local/share"⟩
  return (base.join ⟨programName⟩).join ⟨"dataset.json"⟩

/-- Whether output without colors is wished for. -/
def refusesColor (env : Environment) : Bool :=
  env.noColor.any (· ≠ "")

end Environment

end Worklist
