import Worklist.CommandLine.Reader
import Worklist.Storage.Path

/-!
# Commands

What a command line asks for: a command with its arguments, and how its results are to be shown.
-/

namespace Worklist.CommandLine

/-- A command with its arguments. -/
inductive Command where
  /-- Says what the program is. -/
  | overview
  /-- Shows what a filter means. -/
  | filter (text : String)
  /-- Shows the links of a page. -/
  | links (path : String) (offset : Option String) (limit : Option Int64) (count found : Nat)
    (query : List String)
  /-- Lists work items, of all spaces or of one, there perhaps only the backlog. -/
  | list (filter offset : Option String) (limit : Option Int64) (space : Option String)
    (backlog : Bool)
  /-- Searches work items. -/
  | search (text : String) (host filter offset : Option String) (limit : Option Int64)
  /-- Shows the configuration. -/
  | configShow
  /-- Changes a setting. -/
  | configSet (key value : String)
  /-- Shows where the configuration is. -/
  | configPath
  /-- Gives the completions for a shell. -/
  | completions (shell : String)
  deriving DecidableEq

/-- A command and how its results are shown. -/
structure Invocation where
  /-- Values instead of tables. -/
  json : Bool
  /-- Errors only. -/
  quiet : Bool
  /-- Output without colors. -/
  noColor : Bool
  /-- The file of the dataset. -/
  data : Option Path
  command : Command
  deriving DecidableEq

namespace Level

/-- The value of a switch as a signed word. -/
def int64? (l : Level) (s : Switch) : Option Int64 :=
  (l.value? s).bind fun value => Text.int64? value.toList

/-- The value of a switch as an unsigned word. -/
def word (l : Level) (s : Switch) : Nat :=
  ((l.value? s).bind fun value => Text.uint64? value.toList).getD 0

/-- An operand. -/
def operand (l : Level) (index : Nat) : String :=
  l.operands[index]?.getD ""

/-- The command of a level. -/
def command (l : Level) : Command :=
  match l.verb with
  | .program => .overview
  | .filter => .filter (l.operand 0)
  | .links =>
    .links ((l.value? .path).getD "/") (l.value? .offset) (l.int64? .limit) (l.word .count)
      (l.word .found) (l.values .query)
  | .list =>
    .list (l.value? .filter) (l.value? .offset) (l.int64? .limit) (l.value? .space)
      (l.has .backlog)
  | .search =>
    .search (l.operand 0) (l.value? .host) (l.value? .filter) (l.value? .offset) (l.int64? .limit)
  | .config => .configShow
  | .configShow => .configShow
  | .configSet => .configSet (l.operand 0) (l.operand 1)
  | .configPath => .configPath
  | .completions => .completions (l.operand 0)

end Level

/-- What levels ask for. A switch that holds everywhere may be given at any level; of several files
the one at the last level counts. -/
def Invocation.ofLevels (env : Environment) (levels : List Level) : Invocation where
  json := levels.any (·.has .json)
  quiet := levels.any (·.has .quiet)
  noColor := levels.any (·.has .noColor)
  data := ((levels.reverse.findSome? (·.value? .data)).or env.dataFile).map Path.mk
  command := (levels.getLast?.map Level.command).getD .overview

end Worklist.CommandLine
