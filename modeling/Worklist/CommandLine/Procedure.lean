import Worklist.Storage.FileTask

/-!
# What commands do

A command asks the files for something, changes them, prints, warns and perhaps fails. What it has
printed and changed until then stays, so the order of the steps matters. A text is printed as a
whole.
-/

namespace Worklist.CommandLine

/-- What a user is warned of. -/
inductive Warning where
  /-- There is no file at the path of the dataset. -/
  | noDataset (path : Path)
  deriving DecidableEq

/-- The text of a warning. -/
def Warning.message : Warning → String
  | .noDataset path => "dataset file not found, using an empty dataset path=" ++ path.text

/-- How things stand while a command is carried out. -/
structure Session where
  /-- What has been printed. -/
  output : String
  /-- What the user has been warned of. -/
  warnings : List Warning
  /-- The files as they are. -/
  files : FileTree

/-- How things stand before a command is carried out. -/
def Session.start (t : FileTree) : Session :=
  ⟨"", [], t⟩

/-- Steps that may fail with an error. -/
def Procedure (ε α : Type) : Type :=
  ExceptT ε (StateM Session) α

namespace Procedure

variable {ε α : Type}

instance : Monad (Procedure ε) :=
  inferInstanceAs (Monad (ExceptT ε (StateM Session)))

/-- Carries steps out. -/
def run (a : Procedure ε α) (s : Session) : Except ε α × Session :=
  StateT.run (ExceptT.run a) s

/-- A step that works on the files. -/
def operate (change : FileTree → Except ε α × FileTree) : Procedure ε α :=
  ExceptT.mk fun s => ((change s.files).1, { s with files := (change s.files).2 })

/-- Asks the files for something. -/
def ask (question : FileTree → Except ε α) : Procedure ε α :=
  operate fun t => (question t, t)

/-- Waits for work on the files. -/
def await (task : FileTask α) : Procedure ε α :=
  operate fun t => (.ok (task.run t).1, (task.run t).2)

/-- Goes on with a result, if there is one. -/
def ofExcept (result : Except ε α) : Procedure ε α :=
  ask fun _ => result

/-- Warns the user unless something holds. -/
def warnUnless (holds : Bool) (w : Warning) : Procedure ε Unit :=
  ExceptT.mk fun s => (.ok (), if holds then s else { s with warnings := s.warnings ++ [w] })

/-- Prints a text. -/
def print (text : String) : Procedure ε Unit :=
  ExceptT.mk fun s => (.ok (), { s with output := s.output ++ text })

end Procedure

end Worklist.CommandLine
