import Worklist.Text.Split

/-!
# Paths

A path keeps the text that it was given as, because messages show it unchanged. What it leads
through are the names between its slashes.
-/

namespace Worklist

/-- The path of a file or a directory, as it was given. -/
structure Path where
  text : String
  deriving Repr, DecidableEq

namespace Path

/-- The texts between the slashes. -/
def pieces (p : Path) : List (List Char) :=
  Text.split '/' p.text.toList

/-- Whether a text between slashes leads anywhere: a single dot does not, nor does an empty one. -/
def leadsOn (piece : List Char) : Bool :=
  piece ≠ [] && piece ≠ ['.']

/-- The names that a path leads through. -/
def names (p : Path) : List String :=
  (p.pieces.filter leadsOn).map String.ofList

/-- Whether a path starts at the root. -/
def isAbsolute (p : Path) : Bool :=
  p.text.toList.head? = some '/'

/-- Whether a path ends like that of a directory, in a slash or a single dot. -/
def endsOpen (p : Path) : Bool :=
  match p.pieces.getLast? with
  | some piece => !leadsOn piece
  | none => true

/-- The path with the given texts between its slashes. -/
def ofPieces (pieces : List (List Char)) : Path :=
  ⟨String.ofList (List.intercalate ['/'] pieces)⟩

/-- The texts between the slashes up to the last name, the last one first. -/
def backwards (p : Path) : List (List Char) :=
  p.pieces.reverse.dropWhile (!leadsOn ·)

/-- What a path starts with that is not a name: the root, or the dot of the working directory. -/
def origin (p : Path) : Path :=
  if p.isAbsolute then ⟨"/"⟩ else if p.pieces.head? = some ['.'] then ⟨"."⟩ else ⟨""⟩

/-- The path of the directory that a path stands in. Neither the root nor an empty path has one. -/
def parent? (p : Path) : Option Path :=
  match p.backwards with
  | [] => if p.isAbsolute ∨ p.text = "" then none else some ⟨""⟩
  | _ :: above =>
    match above.dropWhile (!leadsOn ·) with
    | [] => some p.origin
    | above => some (ofPieces above.reverse)

/-- The path of which the given texts stand between the slashes, the last one first, and those of
the directories that it stands in, as long as they have a name. -/
def ancestorsOf : List (List Char) → List Path
  | [] => []
  | piece :: above =>
    if leadsOn piece then ofPieces (piece :: above).reverse :: ancestorsOf above
    else ancestorsOf above

/-- A path and those of the directories that it stands in, as long as they have a name. -/
def ancestors (p : Path) : List Path :=
  ancestorsOf p.pieces.reverse

/-- A path that leads on from another one. A path from the root stands for itself. -/
def join (p q : Path) : Path :=
  if q.isAbsolute then q
  else if p.text = "" ∨ p.text.toList.getLast? = some '/' then ⟨p.text ++ q.text⟩
  else ⟨p.text ++ "/" ++ q.text⟩

/-- A name without its last dot and what follows it. A dot at the front stays. -/
def stem (name : List Char) : List Char :=
  match (name.reverse.dropWhile (· ≠ '.')).drop 1 with
  | [] => name
  | rest => rest.reverse

/-- The path beside a path whose name has the extension `extension`. A path whose last name leads
up, or that has no name, has none beside it and stands for itself. -/
def withExtension (p : Path) (extension : String) : Path :=
  match p.backwards with
  | [] => p
  | name :: above =>
    if name = ['.', '.'] then p
    else ofPieces ((stem name ++ '.' :: extension.toList) :: above).reverse

end Path

end Worklist
