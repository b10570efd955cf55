import Worklist.Text.Hexadecimal

/-!
# Texts in TOML

A text stands in one of four ways: between double quotes, with escapes, or between single quotes,
without; and each of these on one line, between single marks, or over several, between triple ones.
A text is written in the first way that needs no escape, or else with escapes.
-/

namespace Worklist.Toml

/-- A character that stands for itself, unless it is a mark of the text. -/
def isPlain (c : Char) : Bool :=
  c = '\t' || (0x20 ≤ c.toNat && c.toNat ≠ 0x7F)

/-- The characters that a backslash makes of others. -/
def escapes : List (Char × Char) :=
  [('b', '\x08'), ('t', '\t'), ('n', '\n'), ('f', '\x0c'), ('r', '\r'), ('"', '"'), ('\\', '\\')]

/-- The character with a code. -/
def charOfCode? (n : Nat) : Option Char :=
  if h : n.isValidChar then some (Char.ofNatAux n h) else none

/-- How far an escape has been read. -/
inductive Progress where
  /-- There is none. -/
  | plain
  /-- After the backslash. -/
  | begun
  /-- Before the last `left` digits of a code that starts with `value`. -/
  | code (left value : Nat)
  /-- After a backslash and blanks, before the end of the line. -/
  | ending
  /-- Among blanks and ends of lines that do not count. -/
  | folded

/-- A text and what follows it. -/
abbrev TextReading := Option (List Char × List Char)

/-- A text with one more character in front. -/
def TextReading.cons (c : Char) (r : TextReading) : TextReading :=
  r.map fun (cs, rest) => (c :: cs, rest)

/-- Reads a text up to a double quote. -/
def readBasic : Progress → List Char → TextReading
  | _, [] => none
  | .begun, c :: cs =>
    if c = 'u' then readBasic (.code 4 0) cs
    else if c = 'U' then readBasic (.code 8 0) cs
    else match escapes.lookup c with
      | some d => (readBasic .plain cs).cons d
      | none => none
  | .code left value, c :: cs =>
    match Text.hexValue? c with
    | none => none
    | some d =>
      if 1 < left then readBasic (.code (left - 1) (value * 16 + d)) cs
      else match charOfCode? (value * 16 + d) with
        | some e => (readBasic .plain cs).cons e
        | none => none
  | _, c :: cs =>
    if c = '"' then some ([], cs)
    else if c = '\\' then readBasic .begun cs
    else if isPlain c then (readBasic .plain cs).cons c
    else none

/-- Reads a text of several lines up to three double quotes. Up to two more of them belong to it. -/
def readBasicLines : Progress → List Char → TextReading
  | .begun, '\r' :: '\n' :: cs => readBasicLines .folded cs
  | .begun, c :: cs =>
    if c = 'u' then readBasicLines (.code 4 0) cs
    else if c = 'U' then readBasicLines (.code 8 0) cs
    else if c = ' ' ∨ c = '\t' then readBasicLines .ending cs
    else if c = '\n' then readBasicLines .folded cs
    else match escapes.lookup c with
      | some d => (readBasicLines .plain cs).cons d
      | none => none
  | .code left value, c :: cs =>
    match Text.hexValue? c with
    | none => none
    | some d =>
      if 1 < left then readBasicLines (.code (left - 1) (value * 16 + d)) cs
      else match charOfCode? (value * 16 + d) with
        | some e => (readBasicLines .plain cs).cons e
        | none => none
  | .ending, '\r' :: '\n' :: cs => readBasicLines .folded cs
  | .ending, c :: cs =>
    if c = ' ' ∨ c = '\t' then readBasicLines .ending cs
    else if c = '\n' then readBasicLines .folded cs
    else none
  | .folded, ' ' :: cs => readBasicLines .folded cs
  | .folded, '\t' :: cs => readBasicLines .folded cs
  | .folded, '\n' :: cs => readBasicLines .folded cs
  | .folded, '\r' :: '\n' :: cs => readBasicLines .folded cs
  | _, '"' :: '"' :: '"' :: '"' :: '"' :: cs => some (['"', '"'], cs)
  | _, '"' :: '"' :: '"' :: '"' :: cs => some (['"'], cs)
  | _, '"' :: '"' :: '"' :: cs => some ([], cs)
  | _, '\r' :: '\n' :: cs => (readBasicLines .plain cs).cons '\n'
  | _, c :: cs =>
    if c = '\\' then readBasicLines .begun cs
    else if isPlain c ∨ c = '\n' then (readBasicLines .plain cs).cons c
    else none
  | _, [] => none

/-- Reads a text up to a single quote. -/
def readLiteral : List Char → TextReading
  | [] => none
  | c :: cs =>
    if c = '\'' then some ([], cs)
    else if isPlain c then (readLiteral cs).cons c
    else none

/-- Reads a text of several lines up to three single quotes. Up to two more of them belong to it. -/
def readLiteralLines : List Char → TextReading
  | '\'' :: '\'' :: '\'' :: '\'' :: '\'' :: cs => some (['\'', '\''], cs)
  | '\'' :: '\'' :: '\'' :: '\'' :: cs => some (['\''], cs)
  | '\'' :: '\'' :: '\'' :: cs => some ([], cs)
  | '\r' :: '\n' :: cs => (readLiteralLines cs).cons '\n'
  | c :: cs => if isPlain c ∨ c = '\n' then (readLiteralLines cs).cons c else none
  | [] => none

/-- What follows the end of a line, if there is one. -/
def dropLineEnd : List Char → List Char
  | '\n' :: cs => cs
  | '\r' :: '\n' :: cs => cs
  | cs => cs

/-- Reads a text in whatever way it stands. -/
def readQuoted : List Char → TextReading
  | '"' :: '"' :: '"' :: cs => readBasicLines .plain (dropLineEnd cs)
  | '\'' :: '\'' :: '\'' :: cs => readLiteralLines (dropLineEnd cs)
  | '"' :: cs => readBasic .plain cs
  | '\'' :: cs => readLiteral cs
  | _ => none

/-! ### Writing -/

/-- The way in which a text is written. -/
inductive Style where
  /-- With escapes, on one line. -/
  | basic
  /-- Without escapes, on one line. -/
  | literal
  /-- With escapes, over several lines. -/
  | basicLines
  /-- Without escapes, over several lines. -/
  | literalLines
  deriving DecidableEq

/-- The length of the longest run of a character in a text that follows `current` of them. -/
def longestRun (q : Char) (current : Nat) : List Char → Nat
  | [] => current
  | c :: cs => if c = q then longestRun q (current + 1) cs else max current (longestRun q 0 cs)

/-- A character that is always escaped. -/
def needsEscape (c : Char) : Bool :=
  c ≠ '\t' && c ≠ '\n' && (c.toNat < 0x20 || c.toNat = 0x7F)

/-- The way in which a text is written. -/
def Style.choose (cs : List Char) : Style :=
  let codes := cs.any needsEscape
  let backslash := cs.contains '\\'
  let lines := cs.contains '\n'
  let doubles := longestRun '"' 0 cs
  let singles := longestRun '\'' 0 cs
  if !codes && !backslash && doubles = 0 && !lines then .basic
  else if !codes && singles = 0 && !lines then .literal
  else if !codes && !backslash && doubles ≤ 2 then .basicLines
  else if !codes && singles ≤ 2 then .literalLines
  else if lines then .basicLines
  else .basic

/-- A character as it stands between double quotes. -/
def escape (c : Char) : List Char :=
  match escapes.find? (·.2 = c) with
  | some (letter, _) => ['\\', letter]
  | none =>
    if needsEscape c then
      ['\\', 'u', '0', '0', Text.upperHexDigit (c.toNat / 16), Text.upperHexDigit (c.toNat % 16)]
    else [c]

/-- A text as it stands between double quotes, after `quotes` of them. In a text of several lines
two quotes in a row may stand for themselves. -/
def basicBody (lines : Bool) (quotes : Nat) : List Char → List Char
  | [] => []
  | c :: cs =>
    if c = '"' then
      if lines ∧ quotes < 2 then c :: basicBody lines (quotes + 1) cs
      else escape c ++ basicBody lines 0 cs
    else if lines ∧ c = '\n' then c :: basicBody lines 0 cs
    else escape c ++ basicBody lines 0 cs

/-- The end of the line that a text of several lines starts with, if it has several. -/
def leadingLine (cs : List Char) : List Char :=
  if cs.contains '\n' then ['\n'] else []

/-- Writes a text in a way. -/
def Style.write (cs : List Char) : Style → List Char
  | .basic => ['"'] ++ basicBody false 0 cs ++ ['"']
  | .literal => ['\''] ++ cs ++ ['\'']
  | .basicLines => ['"', '"', '"'] ++ leadingLine cs ++ basicBody true 0 cs ++ ['"', '"', '"']
  | .literalLines => ['\'', '\'', '\''] ++ leadingLine cs ++ cs ++ ['\'', '\'', '\'']

/-- Writes a text. -/
def writeQuoted (cs : List Char) : List Char :=
  (Style.choose cs).write cs

end Worklist.Toml
