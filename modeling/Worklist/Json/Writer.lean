import Worklist.Json.Basic
import Worklist.Text.Hexadecimal

/-!
# JSON texts

Two ways to write a value: without any blank, as values are quoted in error texts and filters are
handed on, and over several lines with two blanks for each level, as datasets are stored and
reports are printed.
-/

namespace Worklist.Json

/-- One character of a text as it stands between the quotes. Only quote, backslash and the control
characters below the blank are escaped. -/
def escape (c : Char) : List Char :=
  if c = '"' then ['\\', '"']
  else if c = '\\' then ['\\', '\\']
  else if c.toNat = 0x08 then ['\\', 'b']
  else if c.toNat = 0x09 then ['\\', 't']
  else if c.toNat = 0x0A then ['\\', 'n']
  else if c.toNat = 0x0C then ['\\', 'f']
  else if c.toNat = 0x0D then ['\\', 'r']
  else if c.toNat < 0x20 then
    ['\\', 'u', '0', '0', Text.hexDigit (c.toNat / 16), Text.hexDigit (c.toNat % 16)]
  else [c]

/-- A text between quotes. -/
def stringText (s : String) : List Char :=
  '"' :: (s.toList.flatMap escape ++ ['"'])

/-- The text of a value that has no parts. -/
def boolText (b : Bool) : List Char :=
  if b then ['t', 'r', 'u', 'e'] else ['f', 'a', 'l', 's', 'e']

/-- The text of null. -/
def nullText : List Char :=
  ['n', 'u', 'l', 'l']

mutual

/-- A value without any blank. -/
def compact : Json → List Char
  | .null => nullText
  | .bool b => boolText b
  | .number n => n.text
  | .string s => stringText s
  | .array items => '[' :: (compactItems true items ++ [']'])
  | .object members => '\x7b' :: (compactMembers true members ++ ['\x7d'])

/-- Items with commas between them; the first has none in front. -/
def compactItems (first : Bool) : List Json → List Char
  | [] => []
  | v :: rest => (if first then [] else [',']) ++ compact v ++ compactItems false rest

/-- Members with commas between them; the first has none in front. -/
def compactMembers (first : Bool) : List (String × Json) → List Char
  | [] => []
  | (k, v) :: rest =>
    (if first then [] else [',']) ++ stringText k ++ ':' :: (compact v ++ compactMembers false rest)

end

/-- A line feed and the indentation of a level. -/
def newline (level : Nat) : List Char :=
  '\n' :: List.replicate (2 * level) ' '

mutual

/-- A value over several lines, whose own line is indented to `level`. Empty lists and objects stay
on their line. -/
def pretty (level : Nat) : Json → List Char
  | .null => nullText
  | .bool b => boolText b
  | .number n => n.text
  | .string s => stringText s
  | .array [] => ['[', ']']
  | .array (v :: rest) =>
    '[' :: (newline (level + 1) ++ pretty (level + 1) v ++ prettyItems (level + 1) rest ++
      newline level ++ [']'])
  | .object [] => ['\x7b', '\x7d']
  | .object ((k, v) :: rest) =>
    '\x7b' :: (newline (level + 1) ++ stringText k ++ ':' :: ' ' :: (pretty (level + 1) v ++
      prettyMembers (level + 1) rest ++ newline level ++ ['\x7d']))

/-- The items after the first. -/
def prettyItems (level : Nat) : List Json → List Char
  | [] => []
  | v :: rest => ',' :: (newline level ++ pretty level v ++ prettyItems level rest)

/-- The members after the first. -/
def prettyMembers (level : Nat) : List (String × Json) → List Char
  | [] => []
  | (k, v) :: rest =>
    ',' :: (newline level ++ stringText k ++ ':' :: ' ' :: (pretty level v ++
      prettyMembers level rest))

end

/-- The text of a value on one line. -/
def compactText (v : Json) : String :=
  String.ofList (compact v)

/-- The text of a value over several lines. -/
def prettyText (v : Json) : String :=
  String.ofList (pretty 0 v)

end Worklist.Json
