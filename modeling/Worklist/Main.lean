import Worklist.CommandLine.Run

/-!
# The program

What a run needs of the environment and of the files is gathered, the run is worked out, and then
what it prints and writes is printed and written. The scripts that complete command lines are not
kept with the program: they are empty.
-/

namespace Worklist

/-- The home that the list of users gives the user. -/
def readAccountHome : IO (Option String) := do
  try
    let status ← IO.FS.lines "/proc/self/status"
    let number? := status.toList.findSome? fun line =>
      match line.splitOn "\t" with
      | "Uid:" :: number :: _ => some number
      | _ => none
    let users ← IO.FS.lines "/etc/passwd"
    return users.toList.findSome? fun line =>
      match line.splitOn ":" with
      | [_, _, number, _, _, home, _] => if number? = some number then some home else none
      | _ => none
  catch _ => return none

/-- What the environment tells. -/
def readEnvironment : IO Environment := do
  let values ← Environment.names.mapM fun name => do return (name, ← IO.getEnv name)
  let env := Environment.ofVariables fun name => (values.lookup name).join
  return { env with accountHome := ← readAccountHome }

/-- Takes what stands at a place into a tree. -/
def takePlace (t : FileTree) (place : List String) : IO FileTree := do
  let file := (← IO.currentDir) / ("/" ++ String.intercalate "/" place)
  if ← file.isDir then return t.put place (some .directory)
  else if ← file.pathExists then return t.put place (some (.file (← IO.FS.readFile file)))
  else return t

/-- Takes what a path leads through into a tree. -/
def takePath (t : FileTree) (p : Path) : IO FileTree :=
  (t.placesAlong p).foldlM takePlace t

/-- Takes the files that a run needs into a tree. -/
def takeFiles (env : Environment) (args : List String) : IO FileTree := do
  let names := Path.names ⟨(← IO.currentDir).toString⟩
  let t ← env.configPath?.toList.foldlM takePath (FileTree.empty names)
  (CommandLine.datasetPath? env t args).toList.foldlM takePath t

/-- Writes the file at a path if it has changed, in a directory that is made if it is new. -/
def writeChange (before after : FileTree) (p : Path) : IO Unit := do
  let content := (after.read p).toOption
  if let some parent := p.parent? then
    if after.isDirectory parent && !before.isDirectory parent then
      IO.FS.createDirAll parent.text
  if let some text := content then
    if (before.read p).toOption ≠ content then IO.FS.writeFile p.text text

/-- Runs the program. -/
def runProgram (args : List String) : IO UInt32 := do
  let env ← readEnvironment
  let files ← takeFiles env args
  let outcome := CommandLine.run env files args
  env.configPath?.toList.forM (writeChange files outcome.files)
  outcome.warnings.forM fun w => IO.eprintln (" WARN " ++ w.message)
  IO.print outcome.output
  IO.eprint outcome.errors
  return outcome.status

end Worklist

/-- Runs the program with the arguments of its command line. -/
def main (args : List String) : IO UInt32 := do
  try Worklist.runProgram args
  catch e =>
    IO.eprintln ("Error: I/O error: " ++ e.toString)
    return 3
