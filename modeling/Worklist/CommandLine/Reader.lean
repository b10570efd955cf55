import Worklist.CommandLine.Grammar

/-!
# Reading command lines

The arguments are read one after the other. A switch that waits for its value takes the next
argument, unless that looks like a switch; the name of a command starts a level of its own; after
two hyphens all arguments are operands. A level is checked when the levels below it are read.
-/

namespace Worklist.CommandLine

/-- What is given at the name of a command. -/
structure Level where
  /-- The command. -/
  verb : Verb
  /-- The switches with their values. A switch without a value has an empty one. -/
  given : List (Switch × String)
  operands : List String

namespace Level

/-- Whether a switch is given. -/
def has (l : Level) (s : Switch) : Bool :=
  l.given.any (·.1 = s)

/-- The value of a switch. -/
def value? (l : Level) (s : Switch) : Option String :=
  l.given.lookup s

/-- The values of a switch, in order. -/
def values (l : Level) (s : Switch) : List String :=
  (l.given.filter (·.1 = s)).map (·.2)

end Level

/-- Why a command line is not carried out. -/
inductive Refusal where
  /-- It does not fit the grammar. -/
  | usage
  /-- It asks for the version of the program. -/
  | version (v : Verb)
  /-- It asks how a command is used. -/
  | help (v : Verb)
  /-- It asks how the word for help below a command is used. -/
  | helpOnHelp (v : Verb)
  deriving DecidableEq

/-- What a name after hyphens stands for. -/
inductive Name where
  | switch (s : Switch)
  /-- The question for the version. -/
  | version
  /-- The question for help. -/
  | help

/-- What a name after two hyphens stands for. -/
def Verb.long? (v : Verb) (name : String) : Option Name :=
  if name = "version" then some .version
  else if name = "help" then some .help
  else (v.switches.find? (·.long = name)).map .switch

/-- What a letter after one hyphen stands for. -/
def Verb.short? (v : Verb) (letter : Char) : Option Name :=
  if letter = 'V' then some .version
  else if letter = 'h' then some .help
  else (v.switches.find? (·.short? = some letter)).map .switch

/-- A level as far as it has been read. -/
structure Reading where
  /-- What has been settled. -/
  level : Level
  /-- A switch that waits for its value, or has got it and is not settled yet. -/
  pending : Option (Switch × Option String)
  /-- Whether only operands follow. -/
  trailing : Bool

/-- What an argument leads to. -/
inductive Step where
  /-- The level goes on. -/
  | stay (r : Reading)
  /-- A level starts. -/
  | enter (v : Verb)

namespace Reading

/-- The start of a level. -/
def start (v : Verb) : Reading :=
  ⟨⟨v, [], []⟩, none, false⟩

/-- Adds a switch with its value. -/
def give (r : Reading) (s : Switch) (value : String) : Except Refusal Reading :=
  if !s.repeats && r.level.has s then .error .usage
  else if s.accepts value then
    .ok { r with level := { r.level with given := r.level.given ++ [(s, value)] } }
  else .error .usage

/-- Adds the switch that is pending. -/
def settle (r : Reading) : Except Refusal Reading :=
  match r.pending with
  | none => .ok r
  | some (_, none) => .error .usage
  | some (s, some value) => { r with pending := none }.give s value

/-- The switch that waits for its value. -/
def waiting? (r : Reading) : Option Switch :=
  match r.pending with
  | some (s, none) => some s
  | _ => none

/-- Takes a name, with a value that is attached to it. -/
def takeName (r : Reading) (name : Name) (attached : Option String) : Except Refusal Reading := do
  match name with
  | .version =>
    if attached.isSome then throw .usage
    let r ← r.settle
    throw (.version r.level.verb)
  | .help =>
    if attached.isSome then throw .usage
    let r ← r.settle
    throw (.help r.level.verb)
  | .switch s =>
    if s.takesValue then
      let r ← r.settle
      match attached with
      | some value => r.give s value
      | none => return { r with pending := some (s, none) }
    else
      if attached.isSome then throw .usage
      let r ← r.settle
      r.give s ""

/-- Takes an argument after two hyphens: a name, and a value after an equals sign. -/
def takeLong (r : Reading) (arg : List Char) : Except Refusal Reading :=
  let (name, rest) := arg.span (· ≠ '=')
  let attached := match rest with
    | [] => none
    | _ :: value => some (String.ofList value)
  match r.level.verb.long? (String.ofList name) with
  | some name => r.takeName name attached
  | none => .error .usage

/-- A value that is attached to a letter, if there is one. An equals sign may stand in front. -/
def attachedValue : List Char → Option String
  | [] => none
  | '=' :: value => some (String.ofList value)
  | value => some (String.ofList value)

/-- Takes the letters after one hyphen. What follows the letter of a switch that takes a value is
the value. -/
def takeLetters (r : Reading) : List Char → Except Refusal Reading
  | [] => .ok r
  | c :: rest =>
    match r.level.verb.short? c with
    | none => .error .usage
    | some (.switch s) =>
      if s.takesValue then r.takeName (.switch s) (attachedValue rest)
      else do
        let r ← r.takeName (.switch s) none
        r.takeLetters rest
    | some name => r.takeName name none

/-- Takes an operand. -/
def takeOperand (r : Reading) (arg : String) : Except Refusal Reading := do
  let r ← r.settle
  if r.level.operands.length < r.level.verb.operands.length ∧ r.level.verb.accepts arg then
    return { r with level := { r.level with operands := r.level.operands ++ [arg] } }
  else throw .usage

/-- Takes an argument that may be a switch, or else an operand or the value of the switch that waits
for one. -/
def takeArgument (r : Reading) (arg : String) : Except Refusal Reading :=
  let plain := fun (_ : Unit) => match r.waiting? with
    | some s => .ok { r with pending := some (s, some arg) }
    | none => r.takeOperand arg
  if r.waiting?.any Switch.takesHyphen then plain ()
  else match arg.toList with
    | ['-', '-'] => .ok { r with trailing := true }
    | '-' :: '-' :: name => r.takeLong name
    | ['-'] => plain ()
    | '-' :: letters => r.takeLetters letters
    | _ => plain ()

/-- What arguments after the word for help ask. Where there are commands below, that word may stand
for itself once more. -/
def helpFor (v : Verb) : List String → Refusal
  | [] => .help v
  | name :: rest =>
    match v.child? name with
    | some c => helpFor c rest
    | none =>
      if name = "help" ∧ v.children ≠ [] ∧ rest = [] then .helpOnHelp v else .usage

/-- Takes an argument before others. -/
def step (r : Reading) (arg : String) (rest : List String) : Except Refusal Step := do
  if r.trailing then return .stay (← r.takeOperand arg)
  if r.waiting?.isNone then
    if let some v := r.level.verb.child? arg then return .enter v
    if arg = "help" ∧ r.level.verb.children ≠ [] then throw (helpFor r.level.verb rest)
  return .stay (← r.takeArgument arg)

/-- Checks a level that has been read. The environment stands in for the file of the dataset. -/
def finish (r : Reading) (env : Environment) : Except Refusal Level := do
  let l := (← r.settle).level
  if !l.has .data && env.dataFile.any (!Switch.data.accepts ·) then throw .usage
  if l.has .verbose && l.has .quiet then throw .usage
  if l.has .backlog && !l.has .space then throw .usage
  if l.verb.neededSwitches.any (!l.has ·) then throw .usage
  if l.operands.length < l.verb.operands.length then throw .usage
  return l

end Reading

/-- Reads the arguments of a level and of those below it. -/
def readLevels (env : Environment) (r : Reading) : List String → Except Refusal (List Level)
  | [] => do return [← r.finish env]
  | arg :: rest => do
    match ← r.step arg rest with
    | .stay r => readLevels env r rest
    | .enter v =>
      let below ← readLevels env (.start v) rest
      return (← r.finish env) :: below

/-- Reads a command line: the levels from the program on. -/
def read (env : Environment) (args : List String) : Except Refusal (List Level) :=
  readLevels env (.start .program) args

end Worklist.CommandLine
