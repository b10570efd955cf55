import Worklist.Config.Environment
import Worklist.Text.Numeral

/-!
# The grammar of command lines

A command line names a command, with switches and operands. Some switches hold for every command and
may stand before or after its name. A command may have commands below it.
-/

namespace Worklist.CommandLine

/-- A command, or the place before the name of one. -/
inductive Verb where
  /-- The program itself. -/
  | program
  /-- Shows what a filter means. -/
  | filter
  /-- Shows the links of a page. -/
  | links
  /-- Lists work items. -/
  | list
  /-- Searches work items. -/
  | search
  /-- Shows or changes the configuration. -/
  | config
  /-- Shows the configuration. -/
  | configShow
  /-- Changes the configuration. -/
  | configSet
  /-- Shows where the configuration is. -/
  | configPath
  /-- Gives the completions for a shell. -/
  | completions
  deriving DecidableEq

/-- A switch. -/
inductive Switch where
  /-- More messages. -/
  | verbose
  /-- Errors only. -/
  | quiet
  /-- Values instead of tables. -/
  | json
  /-- Output without colors. -/
  | noColor
  /-- The file of the dataset. -/
  | data
  /-- The path of the links. -/
  | path
  /-- The number of rows before the page. -/
  | offset
  /-- The number of rows of the page. -/
  | limit
  /-- The number of rows of all pages. -/
  | count
  /-- The number of rows that were found for the page. -/
  | found
  /-- A fragment of the query that every link repeats. -/
  | query
  | filter
  | space
  /-- Only the backlog of the space. -/
  | backlog
  /-- The host whose links are recognized. -/
  | host
  deriving DecidableEq

namespace Switch

/-- The name of a switch after two hyphens. -/
def long : Switch → String
  | .verbose => "verbose"
  | .quiet => "quiet"
  | .json => "json"
  | .noColor => "no-color"
  | .data => "data"
  | .path => "path"
  | .offset => "offset"
  | .limit => "limit"
  | .count => "count"
  | .found => "result-len"
  | .query => "query"
  | .filter => "filter"
  | .space => "space"
  | .backlog => "backlog"
  | .host => "host"

/-- The letter of a switch after one hyphen. -/
def short? : Switch → Option Char
  | .verbose => some 'v'
  | .quiet => some 'q'
  | .filter => some 'f'
  | .space => some 's'
  | _ => none

/-- Whether a switch takes a value. -/
def takesValue : Switch → Bool
  | .verbose | .quiet | .json | .noColor | .backlog => false
  | _ => true

/-- Whether the value of a switch may start with a hyphen. -/
def takesHyphen : Switch → Bool
  | .offset | .limit => true
  | _ => false

/-- Whether a switch may be given several times at one place. -/
def repeats : Switch → Bool
  | .query => true
  | _ => false

/-- Whether a text is a value of a switch. -/
def accepts (s : Switch) (value : String) : Bool :=
  match s with
  | .limit => (Text.int64? value.toList).isSome
  | .count | .found => (Text.uint64? value.toList).isSome
  | .data => value ≠ ""
  | _ => true

/-- The switches that hold for every command. -/
def everywhere : List Switch :=
  [.verbose, .quiet, .json, .noColor, .data]

end Switch

namespace Verb

/-- The names of a command. -/
def names : Verb → List String
  | .program => []
  | .filter => ["filter", "f"]
  | .links => ["links"]
  | .list => ["list", "l"]
  | .search => ["search", "s"]
  | .config => ["config"]
  | .configShow => ["show"]
  | .configSet => ["set"]
  | .configPath => ["path"]
  | .completions => ["completions"]

/-- The commands below a command. -/
def children : Verb → List Verb
  | .program => [.filter, .links, .list, .search, .config, .completions]
  | .config => [.configShow, .configSet, .configPath]
  | _ => []

/-- The names that lead to a command, with hyphens between them. -/
def title : Verb → String
  | .program => programName
  | .filter => programName ++ "-filter"
  | .links => programName ++ "-links"
  | .list => programName ++ "-list"
  | .search => programName ++ "-search"
  | .config => programName ++ "-config"
  | .configShow => programName ++ "-config-show"
  | .configSet => programName ++ "-config-set"
  | .configPath => programName ++ "-config-path"
  | .completions => programName ++ "-completions"

/-- The switches of a command of its own. -/
def ownSwitches : Verb → List Switch
  | .links => [.path, .offset, .limit, .count, .found, .query]
  | .list => [.filter, .offset, .limit, .space, .backlog]
  | .search => [.host, .filter, .offset, .limit]
  | _ => []

/-- The switches that a command knows. -/
def switches (v : Verb) : List Switch :=
  Switch.everywhere ++ v.ownSwitches

/-- The switches that a command cannot do without. -/
def neededSwitches : Verb → List Switch
  | .links => [.count, .found]
  | _ => []

/-- The names of the operands of a command. It needs all of them. -/
def operands : Verb → List String
  | .filter => ["EXPRESSION"]
  | .search => ["TEXT"]
  | .configSet => ["KEY", "VALUE"]
  | .completions => ["SHELL"]
  | _ => []

/-- The shells that there are completions for. -/
def shells : List String :=
  ["bash", "zsh", "fish", "powershell"]

/-- Whether a text is an operand of a command. -/
def accepts (v : Verb) (operand : String) : Bool :=
  match v with
  | .completions => operand ∈ shells
  | _ => true

/-- The command below a command that has a name. -/
def child? (v : Verb) (name : String) : Option Verb :=
  v.children.find? fun c => name ∈ c.names

end Verb

end Worklist.CommandLine
