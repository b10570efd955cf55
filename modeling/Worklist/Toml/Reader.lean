import Worklist.Toml.Quoted
import Worklist.Toml.Scalar

/-!
# Reading TOML documents

A document is read line by line: a header that opens a table, or a value under a key in the table
that was opened last. `parse` gives the table of the document.
-/

namespace Worklist.Toml

/-- How many lists and tables may stand within each other, and the most steps of a dotted key. -/
def maxDepth : Nat := 79

/-- A blank within a line. -/
def isSpace (c : Char) : Bool :=
  c = ' ' || c = '\t'

/-- The characters from the first one that is not a blank. -/
def skipSpaces (cs : List Char) : List Char :=
  cs.dropWhile isSpace

/-- A character of a key without marks. -/
def isKeyChar (c : Char) : Bool :=
  c.isAlphanum || c = '_' || c = '-'

/-- Reads one step of a key. -/
def readStep : List Char → Option (String × List Char)
  | '"' :: cs => (readBasic .plain cs).map fun (key, rest) => (String.ofList key, rest)
  | '\'' :: cs => (readLiteral cs).map fun (key, rest) => (String.ofList key, rest)
  | cs =>
    let (key, rest) := cs.span isKeyChar
    if key.isEmpty then none else some (String.ofList key, rest)

/-- Reads a key, which has at most so many steps. -/
def readSteps : Nat → List Char → Option (List String × List Char)
  | 0, _ => none
  | steps + 1, cs => do
    let (key, rest) ← readStep (skipSpaces cs)
    match skipSpaces rest with
    | '.' :: rest =>
      let (keys, rest) ← readSteps steps rest
      return (key :: keys, rest)
    | rest => return ([key], rest)

/-- Reads a key: the steps that lead to its table, and its last step. -/
def readKey (cs : List Char) : Option ((List String × String) × List Char) := do
  let (keys, rest) ← readSteps maxDepth cs
  let key ← keys.getLast?
  return ((keys.dropLast, key), rest)

/-- What follows a line that has nothing more but a comment. -/
def readComment : List Char → Option (List Char)
  | [] => some []
  | '\n' :: cs => some cs
  | '\r' :: '\n' :: cs => some cs
  | c :: cs => if isPlain c then readComment cs else none

/-- What follows a line that has nothing more. -/
def readLineEnd (cs : List Char) : Option (List Char) :=
  match skipSpaces cs with
  | [] => some []
  | '\n' :: cs => some cs
  | '\r' :: '\n' :: cs => some cs
  | '#' :: cs => readComment cs
  | _ => none

/-- The characters from the first one that is neither blank, nor an end of a line, nor in a comment.
-/
def skipLines : (comment : Bool) → List Char → Option (List Char)
  | _, [] => some []
  | _, '\n' :: cs => skipLines false cs
  | _, '\r' :: '\n' :: cs => skipLines false cs
  | true, c :: cs => if isPlain c then skipLines true cs else none
  | false, '#' :: cs => skipLines true cs
  | false, c :: cs => if isSpace c then skipLines false cs else some (c :: cs)

mutual

/-- Reads a value. The first number bounds the steps, the second one the depth. -/
def readValue : Nat → Nat → List Char → Option (Value × List Char)
  | 0, _, _ => none
  | steps + 1, depth, cs =>
    match cs with
    | '[' :: rest =>
      if depth = 0 then none
      else do
        let (items, rest) ← readItems steps (depth - 1) rest
        return (.list items, rest)
    | '{' :: rest =>
      if depth = 0 then none
      else
        match skipSpaces rest with
        | '\x7d' :: rest => some (.table .inline [], rest)
        | rest => do
          let (members, rest) ← readPairs steps (depth - 1) [] rest
          return (.table .inline members, rest)
    | '"' :: _ => (readQuoted cs).map fun (s, rest) => (.text (String.ofList s), rest)
    | '\'' :: _ => (readQuoted cs).map fun (s, rest) => (.text (String.ofList s), rest)
    | _ => readScalar cs

/-- Reads the values of a list, up to its end. -/
def readItems : Nat → Nat → List Char → Option (List Value × List Char)
  | 0, _, _ => none
  | steps + 1, depth, cs => do
    match ← skipLines false cs with
    | ']' :: rest => return ([], rest)
    | rest =>
      let (item, rest) ← readValue steps depth rest
      match ← skipLines false rest with
      | ',' :: rest =>
        let (items, rest) ← readItems steps depth rest
        return (item :: items, rest)
      | ']' :: rest => return ([item], rest)
      | _ => none

/-- Reads the members of a table between braces that has some already, up to its end. -/
def readPairs : Nat → Nat → Members → List Char → Option (Members × List Char)
  | 0, _, _, _ => none
  | steps + 1, depth, members, cs => do
    let ((path, key), rest) ← readKey cs
    let rest ← expect? '=' rest
    let (v, rest) ← readValue steps depth (skipSpaces rest)
    let members ← addDotted path key v .inline members
    match skipSpaces rest with
    | ',' :: rest => readPairs steps depth members rest
    | '\x7d' :: rest => return (members, rest)
    | _ => none

end

/-- A document as far as it has been read. -/
structure Document where
  /-- Its table. -/
  root : Members
  /-- The path of the table that was opened last. -/
  current : List String

namespace Document

/-- The document without lines. -/
def empty : Document :=
  ⟨[], []⟩

/-- Adds a value to the table that was opened last. -/
def add (d : Document) (path : List String) (key : String) (v : Value) : Option Document := do
  let root ← descend false (addDotted path key v) d.current .header d.root
  return { d with root }

end Document

/-- Reads a line that is neither empty nor a comment. -/
def readLine (d : Document) (cs : List Char) : Option (Document × List Char) := do
  match cs with
  | '[' :: '[' :: cs =>
    let ((path, key), rest) ← readKey cs
    let rest ← readLineEnd (← expect? ']' (← expect? ']' rest))
    return (⟨← openRow path key d.root, path ++ [key]⟩, rest)
  | '[' :: cs =>
    let ((path, key), rest) ← readKey cs
    let rest ← readLineEnd (← expect? ']' rest)
    return (⟨← openTable path key d.root, path ++ [key]⟩, rest)
  | cs =>
    let ((path, key), rest) ← readKey cs
    let rest ← expect? '=' rest
    let (v, rest) ← readValue (4 * rest.length + 4) maxDepth (skipSpaces rest)
    return (← d.add path key v, ← readLineEnd rest)

/-- Reads lines, at most so many. -/
def readLines : Nat → Document → List Char → Option Document
  | 0, _, _ => none
  | lines + 1, d, cs =>
    match skipSpaces cs with
    | [] => some d
    | '\n' :: cs => readLines lines d cs
    | '\r' :: '\n' :: cs => readLines lines d cs
    | '#' :: cs => (readComment cs).bind fun cs => readLines lines d cs
    | cs => (readLine d cs).bind fun (d, cs) => readLines lines d cs

/-- A text without the mark of its encoding in front. -/
def dropMark : List Char → List Char
  | '\ufeff' :: cs => cs
  | cs => cs

/-- The table of a document. -/
def parse (cs : List Char) : Option Members :=
  (readLines (cs.length + 1) .empty (dropMark cs)).map (·.root)

end Worklist.Toml
