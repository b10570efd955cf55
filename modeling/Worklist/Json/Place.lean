import Worklist.Text.Numeral

/-!
# Places in a JSON text and what can be wrong there

A place is a line, counted from one, and a column, the number of bytes that stand before it on its
line. A fault names what a reader met and the place it reports for it.

Whoever skips a value does not look into it as closely as whoever wants it: numbers may be too
large, and the faults of commas and of unfinished numbers are told less precisely.
`Fault.whenSkipped` says how.
-/

namespace Worklist.Json

/-- A place in a text. -/
structure Place where
  /-- Line, from one. -/
  line : Nat
  /-- Bytes before the place on its line. -/
  column : Nat
  deriving Repr, DecidableEq, Inhabited

namespace Place

/-- The start of a text. -/
def start : Place :=
  ⟨1, 0⟩

/-- The place after a character. -/
def after (p : Place) (c : Char) : Place :=
  if c = '\n' then ⟨p.line + 1, 0⟩ else ⟨p.line, p.column + c.utf8Size⟩

/-- The place after the first byte of a character. -/
def afterByte (p : Place) (c : Char) : Place :=
  if c = '\n' then ⟨p.line + 1, 0⟩ else ⟨p.line, p.column + 1⟩

/-- The place after a number of single-byte characters of one line. -/
def plus (p : Place) (n : Nat) : Place :=
  ⟨p.line, p.column + n⟩

/-- The place after a text. -/
def afterAll (p : Place) (cs : List Char) : Place :=
  cs.foldl after p

/-- The place after a number of bytes, if the text has so many. -/
def afterBytes? (p : Place) : Nat → List Char → Option Place
  | 0, _ => some p
  | _ + 1, [] => none
  | n + 1, c :: cs =>
    if c.utf8Size ≤ n + 1 then (p.after c).afterBytes? (n + 1 - c.utf8Size) cs
    else some (p.plus (n + 1))

end Place

/-- What can be wrong with a JSON text. -/
inductive FaultCause where
  /-- The text ends inside a list. -/
  | endInList
  /-- The text ends inside an object. -/
  | endInObject
  /-- The text ends after the comma of an object. -/
  | endAfterMember
  /-- The text ends inside a text. -/
  | endInString
  /-- The text ends where a value is needed. -/
  | endBeforeValue
  /-- The text ends inside a number. -/
  | endInNumber
  /-- No colon follows a key. -/
  | colonMissing
  /-- Neither comma nor closing bracket follows an item. -/
  | listNotContinued
  /-- Neither comma nor closing brace follows a member. -/
  | objectNotContinued
  /-- A word other than the three that JSON knows. -/
  | unknownWord
  /-- A character that no value starts with. -/
  | valueMissing
  /-- A backslash before a character that cannot be escaped. -/
  | invalidEscape
  /-- A number that is not written as one. -/
  | invalidNumber
  /-- A number beyond the largest floating point number. -/
  | numberOutOfRange
  /-- Half of a pair of escapes that does not fit what stands on its other side. -/
  | loneSurrogate
  /-- The first half of a pair of escapes without a second escape. -/
  | pairNotContinued
  /-- A control character inside a text, and the place before it. -/
  | controlCharacter (before : Place)
  | keyNotText
  /-- A comma before the closing bracket of a list. -/
  | commaBeforeListEnd
  /-- A comma before the closing brace of an object. -/
  | commaBeforeObjectEnd
  /-- Something follows a complete value. -/
  | trailing
  /-- Lists and objects within each other beyond the limit. -/
  | tooDeep
  deriving Repr, DecidableEq

/-- The text of a cause. -/
def FaultCause.message : FaultCause → String
  | .endInList => "EOF while parsing a list"
  | .endInObject => "EOF while parsing an object"
  | .endInString => "EOF while parsing a string"
  | .endAfterMember | .endBeforeValue | .endInNumber => "EOF while parsing a value"
  | .colonMissing => "expected `:`"
  | .listNotContinued => "expected `,` or `]`"
  | .objectNotContinued => "expected `,` or `\x7d`"
  | .unknownWord => "expected ident"
  | .valueMissing => "expected value"
  | .invalidEscape => "invalid escape"
  | .invalidNumber => "invalid number"
  | .numberOutOfRange => "number out of range"
  | .loneSurrogate => "lone leading surrogate in hex escape"
  | .pairNotContinued => "unexpected end of hex escape"
  | .controlCharacter _ => "control character (\\u0000-\\u001F) found while parsing a string"
  | .keyNotText => "key must be a string"
  | .commaBeforeListEnd | .commaBeforeObjectEnd => "trailing comma"
  | .trailing => "trailing characters"
  | .tooDeep => "recursion limit exceeded"

/-- A text with the place it is about. -/
def placed (message : String) (p : Place) : String :=
  message ++ " at line " ++ String.ofList (Text.decimal p.line) ++
    " column " ++ String.ofList (Text.decimal p.column)

/-- Something wrong at a place of a text. -/
structure Fault where
  /-- What is wrong. -/
  cause : FaultCause
  /-- The place that is reported. -/
  place : Place
  deriving Repr, DecidableEq

namespace Fault

/-- The text of a fault. -/
def message (f : Fault) : String :=
  placed f.cause.message f.place

/-- The fault that is told of a broken text inside a value that is skipped. -/
def whenSkipped (f : Fault) : Fault :=
  match f.cause with
  | .endInNumber => ⟨.invalidNumber, f.place⟩
  | .endAfterMember => ⟨.endInObject, f.place⟩
  | .commaBeforeListEnd => ⟨.valueMissing, f.place⟩
  | .commaBeforeObjectEnd => ⟨.keyNotText, f.place⟩
  | .controlCharacter before => ⟨f.cause, before⟩
  | _ => f

/-- The fault that is told of a list that goes on although all its items have been taken. -/
def whenComplete (f : Fault) : Fault :=
  match f.cause with
  | .listNotContinued | .endBeforeValue => ⟨.trailing, f.place⟩
  | _ => f

end Fault

end Worklist.Json
