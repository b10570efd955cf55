import Worklist.Pattern.Compose
import Worklist.Pattern.Size
import Worklist.Text.Numeral

/-!
# Reading patterns

A pattern is written with `*`, `+`, `?` and counts in braces for repetition, `|` for choice,
parentheses for parts, brackets for sets of characters and a backslash for everything that has no
sign of its own. Flags in a part, such as `(?i)`, hold to the end of that part.

Without the flag `u` a pattern knows basic characters only: it may name other characters, but no
set may hold one. A pattern must not be nested too deeply and must not be too large.

A text that is not a pattern gives nothing; callers do not tell the reasons apart. References back
to a part and conditions on the text around a place are not part of the language.
-/
namespace Worklist.Pattern

/-- What a part is read with. -/
structure Flags where
  /-- Case does not matter. -/
  ignoreCase : Bool
  /-- Lines have a start and an end of their own. -/
  multiLine : Bool
  /-- The dot stands for the end of a line too. -/
  dotAll : Bool
  /-- Repetition is as rare as possible unless marked. -/
  swapGreed : Bool
  /-- Classes hold characters of every script. -/
  wide : Bool
  /-- A carriage return ends a line too. -/
  returns : Bool
  /-- Blanks and comments do not count. -/
  spaced : Bool
  deriving DecidableEq

/-- What a pattern starts with. -/
def Flags.initial : Flags :=
  ⟨false, false, false, false, true, false, false⟩

/-- The state of reading. -/
structure Scan where
  /-- What is left of the text. -/
  rest : List Char
  /-- The flags that hold. -/
  flags : Flags
  /-- The number of parts in parentheses so far. -/
  groups : Nat
  /-- The names of the parts so far. -/
  names : List String

/-- A step of reading; it may fail. -/
abbrev Step := StateT Scan Option

namespace Step

/-- What is left of the text. -/
def rest : Step (List Char) := do
  return (← get).rest

/-- Goes on at a later place. -/
def goTo (cs : List Char) : Step Unit :=
  modify fun s => { s with rest := cs }

/-- The flags that hold. -/
def flags : Step Flags := do
  return (← get).flags

/-- The text after a comment. -/
def afterComment (cs : List Char) : List Char :=
  (cs.dropWhile (· != '\n')).drop 1

/-- The text after blanks and comments. -/
def afterSpace : Nat → List Char → List Char
  | 0, cs => cs
  | fuel + 1, cs =>
    match Text.trimStart cs with
    | '#' :: rest => afterSpace fuel (afterComment rest)
    | cs => cs

/-- Passes over blanks and comments, if they do not count. -/
def space : Step Unit := do
  if (← flags).spaced then
    let cs ← rest
    goTo (afterSpace cs.length cs)

/-- Takes the next character. -/
def next : Step Char := do
  match ← rest with
  | [] => failure
  | c :: cs =>
    goTo cs
    return c

/-- Takes the next character and passes over what does not count. -/
def nextSpaced : Step Char := do
  let c ← next
  space
  return c

/-- Takes up to `n` characters that meet a condition, and passes over what does not count. -/
def takeUpTo (p : Char → Bool) : Nat → Step (List Char)
  | 0 => return []
  | n + 1 => do
    if (← rest).head?.any p then return (← nextSpaced) :: (← takeUpTo p n)
    else return []

/-- Takes the characters that meet a condition, and passes over what does not count. -/
def takeWhile (p : Char → Bool) : Step (List Char) := do
  takeUpTo p (← rest).length

/-- Takes a text if it is next. -/
def take? (word : List Char) : Step Bool := do
  let cs ← rest
  if word.isPrefixOf cs then
    goTo (cs.drop word.length)
    return true
  else return false

/-- Takes a text, which must be next. -/
def need (word : List Char) : Step Unit := do
  if !(← take? word) then failure

end Step

open Step (space next nextSpaced take? need)

/-! ### Nesting -/

/-- Something read, with the number of parts that it has inside each other. -/
structure Nested (α : Type) where
  /-- What was read. -/
  value : α
  /-- How deeply it is nested. -/
  depth : Nat

/-- The greatest depth of a pattern. -/
def maxDepth : Nat := 250

/-- The depth of things that stand beside each other, from their depths; two or more of them make
one more level. -/
def depthOf (depths : List Nat) : Nat :=
  let deepest := depths.foldl max 0
  if depths.length < 2 then deepest else deepest + 1

/-! ### Escapes -/

/-- Whether a character that is neither letter nor digit may stand after a backslash for itself. -/
def isEscapable (c : Char) : Bool :=
  c.toNat < 0x80 && !c.isAlphanum && c != '<' && c != '>'

/-- The value of a digit of base sixteen. -/
def hexDigitValue? (c : Char) : Option Nat :=
  if c.isDigit then some (c.toNat - '0'.toNat)
  else if 'a' ≤ c ∧ c ≤ 'f' then some (c.toNat - 'a'.toNat + 10)
  else if 'A' ≤ c ∧ c ≤ 'F' then some (c.toNat - 'A'.toNat + 10)
  else none

/-- The character with the code that digits of base sixteen write. -/
def charOfHex? (cs : List Char) : Option Char := do
  if cs.isEmpty then failure
  let ds ← cs.mapM hexDigitValue?
  let n := ds.foldl (fun n d => n * 16 + d) 0
  if n.isValidChar then return Char.ofNat n else failure

/-- Reads the code of a character: `width` digits, or any number of them in braces. Two digits may
not name a character that is not basic if only basic ones are known. -/
def readCode (width : Nat) : Step Char := do
  space
  if ← take? ['\x7b'] then
    space
    let digits ← Step.takeWhile (· != '\x7d')
    need ['\x7d']
    charOfHex? digits
  else
    let digits ← (List.range width).mapM fun _ => nextSpaced
    let c ← (charOfHex? digits : Option Char)
    if width = 2 ∧ 0x80 ≤ c.toNat ∧ !(← Step.flags).wide then failure
    return c

/-- What an escape stands for. -/
inductive EscapeItem where
  /-- A character. -/
  | char (c : Char)
  /-- A set of characters. -/
  | set (s : CharSet)
  | condition (c : Condition)

/-- The set as the flags want it. -/
def withCase (flags : Flags) (s : CharSet) : CharSet :=
  if !flags.ignoreCase then s
  else if flags.wide then .folded s
  else .basicFolded s

/-- What is not in a set, if `negated`. There must not be more than basic characters in it if only
these are known. -/
def negate? (flags : Flags) (negated : Bool) (s : CharSet) : Option CharSet :=
  if !negated then some s
  else if flags.wide then some (.compl s)
  else none

/-- The class of a small letter. -/
def classOf? (c : Char) : Option CharSet :=
  if c = 'd' then some .digit
  else if c = 's' then some .blank
  else if c = 'w' then some .word
  else none

/-- Reads the class that a letter names; a capital stands for what is not in the class. -/
def readClass (flags : Flags) (c : Char) : Option CharSet := do
  let s ← classOf? c.toLower
  negate? flags c.isUpper (if flags.wide then s else .inter .ascii s)

/-- What stands before a mark and what stands behind it, if a text has the mark in it. -/
def splitAt? (mark : List Char) : List Char → Option (List Char × List Char)
  | [] => none
  | c :: cs =>
    if mark.isPrefixOf (c :: cs) then some ([], (c :: cs).drop mark.length)
    else (splitAt? mark cs).map fun (before, after) => (c :: before, after)

/-- The set that is named in braces: by one name, or by a name and a value. -/
def namedSet? (name : List Char) : Option CharSet :=
  match splitAt? ['!', '='] name, splitAt? [':'] name, splitAt? ['='] name with
  | some (name, value), _, _ => propertyValue? name value
  | none, some (name, value), _ => propertyValue? name value
  | none, none, some (name, value) => propertyValue? name value
  | none, none, none => property? name

/-- Reads the name of a property: a letter, or anything in braces. -/
def readPropertyName : Step (List Char) := do
  space
  if ← take? ['\x7b'] then
    space
    let name ← Step.takeWhile (· != '\x7d')
    need ['\x7d']
    return name
  else
    let c ← next
    if c = '\\' then failure
    return [c]

/-- Reads the characters that have a property, or those that have not. Properties are of all
characters. -/
def readProperty (negated : Bool) : Step CharSet := do
  let name ← readPropertyName
  let flags ← Step.flags
  if !flags.wide then failure
  let s ← (namedSet? name : Option CharSet)
  negate? flags negated (withCase flags s)

/-- The names of conditions on words. -/
def wordEdges : List (List Char × WordEdge) :=
  [("start".toList, .start), ("end".toList, .finish), ("start-half".toList, .noneBefore),
    ("end-half".toList, .noneAfter)]

/-- Reads what may follow the letter of an edge of a word: the name of a special edge in braces. A
brace before anything else belongs to a count. -/
def readWordEdge : Step WordEdge := do
  let start ← Step.rest
  if ← take? ['\x7b'] then
    space
    let name ← Step.takeWhile fun c => c.isAlpha || c == '-'
    if name.isEmpty then
      if (← Step.rest).isEmpty then failure
      Step.goTo start
      return .edge
    need ['\x7d']
    (wordEdges.lookup name : Option WordEdge)
  else return .edge

/-- Characters written by a letter. -/
def letterEscapes : List (Char × Char) :=
  [('a', '\x07'), ('f', '\x0c'), ('t', '\t'), ('n', '\n'), ('r', '\r'), ('v', '\x0b')]

/-- Reads what stands after a backslash. -/
def readEscape : Step EscapeItem := do
  let c ← next
  let flags ← Step.flags
  if c = 'x' then return .char (← readCode 2)
  else if c = 'u' then return .char (← readCode 4)
  else if c = 'U' then return .char (← readCode 8)
  else if c = 'p' ∨ c = 'P' then return .set (← readProperty (c = 'P'))
  else if isEscapable c then return .char c
  else if (classOf? c.toLower).isSome then return .set (← (readClass flags c : Option CharSet))
  else
    match letterEscapes.lookup c with
    | some e => return .char e
    | none =>
      if c = 'A' then return .condition .textStart
      else if c = 'z' then return .condition .textEnd
      else if c = 'b' then return .condition (.word (← readWordEdge) flags.wide)
      else if c = 'B' then return .condition (.word .noEdge flags.wide)
      else if c = '<' then return .condition (.word .start flags.wide)
      else if c = '>' then return .condition (.word .finish flags.wide)
      else failure

/-! ### Sets in brackets -/

/-- The sets with names. -/
def namedSets : List (List Char × CharSet) :=
  [("alnum".toList, .ranges [('0', '9'), ('A', 'Z'), ('a', 'z')]),
    ("alpha".toList, .ranges [('A', 'Z'), ('a', 'z')]),
    ("ascii".toList, .ranges [('\x00', '\x7f')]),
    ("blank".toList, .ranges [('\t', '\t'), (' ', ' ')]),
    ("cntrl".toList, .ranges [('\x00', '\x1f'), ('\x7f', '\x7f')]),
    ("digit".toList, .ranges [('0', '9')]),
    ("graph".toList, .ranges [('!', '~')]),
    ("lower".toList, .ranges [('a', 'z')]),
    ("print".toList, .ranges [(' ', '~')]),
    ("punct".toList, .ranges [('!', '/'), (':', '@'), ('[', '\x60'), ('\x7b', '~')]),
    ("space".toList, .ranges [('\t', '\r'), (' ', ' ')]),
    ("upper".toList, .ranges [('A', 'Z')]),
    ("word".toList, .ranges [('0', '9'), ('A', 'Z'), ('_', '_'), ('a', 'z')]),
    ("xdigit".toList, .ranges [('0', '9'), ('A', 'F'), ('a', 'f')])]

/-- Reads a set by its name, after the opening bracket. -/
def readNamedSet? : Step (Option CharSet) := do
  let start ← Step.rest
  match start with
  | ':' :: cs =>
    let (negated, cs) := match cs with
      | '^' :: cs => (true, cs)
      | cs => (false, cs)
    let name := cs.takeWhile (· != ':')
    match cs.drop name.length, namedSets.lookup name with
    | ':' :: ']' :: after, some s =>
      Step.goTo after
      let flags ← Step.flags
      return some (← (negate? flags negated (withCase flags s) : Option CharSet))
    | _, _ => return none
  | _ => return none

/-- Reads an item of a set: a character, or a class. A character must be basic if only these are
known. -/
def readSetItem : Step (Char ⊕ CharSet) := do
  let c ← next
  let basic := fun (c : Char) => do
    if 0x80 ≤ c.toNat ∧ !(← Step.flags).wide then failure
    return Sum.inl c
  if c = '\\' then
    match ← readEscape with
    | .char c => basic c
    | .set s => return .inr s
    | .condition _ => failure
  else basic c

/-- The next character after blanks that do not count, behind the one that is next. -/
def peekBehind : Step (Option Char) := do
  let cs ← Step.rest
  let after := cs.drop 1
  let after := if (← Step.flags).spaced then Step.afterSpace after.length after else after
  return after.head?

/-- Reads a character, a class or a range of characters. -/
def readSetRange : Step CharSet := do
  let item ← readSetItem
  space
  let cs ← Step.rest
  if cs.isEmpty then failure
  let behind ← peekBehind
  if cs.head? != some '-' || behind == some ']' || behind == some '-' then
    match item with
    | .inl c => return .single c
    | .inr s => return s
  else
    let _ ← next
    space
    match item, ← readSetItem with
    | .inl low, .inl high => if low ≤ high then return .range low high else failure
    | _, _ => failure

/-- An operation on sets. -/
inductive SetOp where
  /-- The characters of both. -/
  | inter
  /-- The characters of the first that are not in the second. -/
  | diff
  /-- The characters of just one. -/
  | symDiff

/-- The outcome of an operation. -/
def SetOp.apply : SetOp → CharSet → CharSet → CharSet
  | .inter, s, t => .inter s t
  | .diff, s, t => .inter s (.compl t)
  | .symDiff, s, t => .union (.inter s (.compl t)) (.inter t (.compl s))

/-- The items of a set that were read so far. -/
structure SetItems where
  /-- Their characters. -/
  set : CharSet
  /-- Their depths, the last one first. -/
  depths : List Nat

namespace SetItems

/-- No items. -/
def none : SetItems :=
  ⟨.none, []⟩

/-- One more item. -/
def add (items : SetItems) (s : CharSet) (depth : Nat) : SetItems :=
  ⟨items.set.add s, depth :: items.depths⟩

/-- The items as one set. -/
def toSet (items : SetItems) : Nested CharSet :=
  ⟨items.set, depthOf items.depths⟩

end SetItems

/-- An operation whose first set has been read. -/
abbrev Pending := Option (SetOp × Nested CharSet)

/-- What stands before an operation, if there was one, joined with what stands after it. -/
def closeOp (flags : Flags) (pending : Pending) (s : Nested CharSet) : Nested CharSet :=
  match pending with
  | some (op, left) =>
    ⟨op.apply (withCase flags left.value) (withCase flags s.value), max left.depth s.depth + 1⟩
  | none => s

/-- Reads hyphens that stand for themselves at the start of a set. -/
def readHyphens : Nat → SetItems → Step SetItems
  | 0, items => return items
  | fuel + 1, items => do
    if ← take? ['-'] then
      space
      readHyphens fuel (items.add (.single '-') 0)
    else return items

/-- Reads what may stand first in a set: hyphens, or a closing bracket. -/
def readSetStart : Step SetItems := do
  let cs ← Step.rest
  let items ← readHyphens cs.length .none
  if items.depths.isEmpty then
    if ← take? [']'] then
      space
      return items.add (.single ']') 0
  return items

mutual

/-- Reads a set after its opening bracket. -/
def readSet : Nat → Step (Nested CharSet)
  | 0 => failure
  | fuel + 1 => do
    space
    let negated ← take? ['^']
    space
    let s ← readSetItems fuel none (← readSetStart)
    let flags ← Step.flags
    let value ← (negate? flags negated (withCase flags s.value) : Option CharSet)
    return ⟨value, s.depth + 1⟩

/-- Reads the items of a set up to the closing bracket. `pending` holds an operation and what stands
before it. -/
def readSetItems : Nat → Pending → SetItems → Step (Nested CharSet)
  | 0, _, _ => failure
  | fuel + 1, pending, items => do
    space
    let flags ← Step.flags
    let operation := fun op => do
      readSetItems fuel (some (op, closeOp flags pending items.toSet)) .none
    if ← take? [']'] then return closeOp flags pending items.toSet
    else if ← take? ['['] then
      match ← readNamedSet? with
      | some s => readSetItems fuel pending (items.add s 0)
      | none =>
        let s ← readSet fuel
        readSetItems fuel pending (items.add s.value s.depth)
    else if ← take? ['&', '&'] then operation .inter
    else if ← take? ['-', '-'] then operation .diff
    else if ← take? ['~', '~'] then operation .symDiff
    else
      let s ← readSetRange
      readSetItems fuel pending (items.add s 0)

end

/-! ### Parts -/

/-- Sets or unsets a flag. -/
def Flags.set (c : Char) (on : Bool) (f : Flags) : Option Flags :=
  if c = 'i' then some { f with ignoreCase := on }
  else if c = 'm' then some { f with multiLine := on }
  else if c = 's' then some { f with dotAll := on }
  else if c = 'U' then some { f with swapGreed := on }
  else if c = 'u' then some { f with wide := on }
  else if c = 'R' then some { f with returns := on }
  else if c = 'x' then some { f with spaced := on }
  else none

/-- The flags that letters set, and unset after a hyphen. No letter and no hyphen comes twice, and
the hyphen is not the last. -/
def Flags.change (on : Bool) (met : List Char) (f : Flags) : List Char → Option Flags
  | [] => if met.head? = some '-' then none else some f
  | c :: cs =>
    if c ∈ met then none
    else if c = '-' then Flags.change false ('-' :: met) f cs
    else (f.set c on).bind fun f => Flags.change on (c :: met) f cs

/-- Whether a name of a part may start with a character. -/
def isNameStart (c : Char) : Bool :=
  c == '_' || CharSet.alphabetic.contains c || Text.Property.recentAlphabetic.contains c

/-- Whether a name of a part may go on with a character. -/
def isNameChar (c : Char) : Bool :=
  isNameStart c || CharSet.number.contains c || Text.Property.recentNumeric.contains c ||
    c == '.' || c == '[' || c == ']'

/-- Reads the name of a part up to the closing angle bracket. No two parts have the same name. -/
def readName : Step String := do
  let cs ← Step.rest
  let name := cs.takeWhile (· != '>')
  Step.goTo (cs.drop name.length)
  need ['>']
  match name with
  | [] => failure
  | c :: rest =>
    let s := String.ofList name
    if !isNameStart c || !rest.all isNameChar || (← get).names.contains s then failure
    modify fun scan => { scan with names := s :: scan.names }
    return s

/-- One character, as the flags want it. -/
def charNode (flags : Flags) (c : Char) : Node :=
  if !flags.ignoreCase then .literal [c]
  else if flags.wide then .ofSet (.ofChars (Text.caseVariants c))
  else .ofSet (.ofChars (c :: (otherCase? c).toList))

/-- What the dot stands for. It may stand for any character, so all must be known. -/
def dotNode (flags : Flags) : Option Node :=
  if !flags.wide then none
  else if flags.dotAll then some (.one .every)
  else if flags.returns then some (.one (.compl (.union (.single '\n') (.single '\r'))))
  else some (.one (.compl (.single '\n')))

/-- What is read of a sequence. -/
inductive Item where
  /-- A part that may be repeated. -/
  | part (n : Nested Node)
  /-- A change of flags, which may not. -/
  | change

/-- The largest count of repetitions that can be written. -/
def maxCount : Nat := 0xffffffff

/-- Reads a number of repetitions. -/
def readCount : Step Nat := do
  Step.goTo (Text.trimStart (← Step.rest))
  let digits ← Step.takeWhile Char.isDigit
  Step.goTo (Text.trimStart (← Step.rest))
  space
  let n ← (Text.natural? digits : Option Nat)
  if n ≤ maxCount then return n else failure

/-- Reads how often a part is repeated, after the opening brace. -/
def readCounts : Step (Nat × Option Nat) := do
  space
  let least ← readCount
  if ← take? [','] then
    space
    if ← take? ['\x7d'] then return (least, none)
    let most ← readCount
    need ['\x7d']
    if least ≤ most then return (least, some most) else failure
  else
    need ['\x7d']
    return (least, some least)

/-- Reads the sign that says how often a part is repeated, if there is one. -/
def readRepeat? : Step (Option (Nat × Option Nat)) := do
  if ← take? ['*'] then return some (0, none)
  else if ← take? ['+'] then return some (1, none)
  else if ← take? ['?'] then return some (0, some 1)
  else if ← take? ['\x7b'] then
    let counts ← readCounts
    space
    return some counts
  else return none

/-- Reads the signs of repetition behind a part. -/
def readRepeats : Nat → Nested Node → Step (Nested Node)
  | 0, _ => failure
  | fuel + 1, n => do
    space
    match ← readRepeat? with
    | none => return n
    | some (least, most) =>
      let marked ← take? ['?']
      let greedy := marked == (← Step.flags).swapGreed
      readRepeats fuel ⟨.repetition n.value least most greedy, n.depth + 1⟩

/-- Makes a part of an escape. -/
def escapeNode (flags : Flags) : EscapeItem → Node
  | .char c => charNode flags c
  | .set s => .ofSet s
  | .condition c => .at c

/-- The condition of a circumflex. -/
def startCondition (flags : Flags) : Condition :=
  if flags.multiLine then .lineStart flags.returns else .textStart

/-- The condition of a dollar sign. -/
def endCondition (flags : Flags) : Condition :=
  if flags.multiLine then .lineEnd flags.returns else .textEnd

/-- Whether a part is a condition on the text around a place, which is not part of the language. -/
def looksAround : Step Bool := do
  let cs ← Step.rest
  return ["?=", "?!", "?<=", "?<!"].any (·.toList.isPrefixOf cs)

mutual

/-- Reads the choices of a part up to its end. -/
def readChoices : Nat → Step (List (Nested Node))
  | 0 => failure
  | fuel + 1 => do
    let items ← readSequence fuel
    let first := ⟨.sequence (items.map (·.value)), depthOf (items.map (·.depth))⟩
    if ← take? ['|'] then return first :: (← readChoices fuel)
    else return [first]

/-- Reads a sequence up to the end of the choice. A change of flags is an item of it. -/
def readSequence : Nat → Step (List (Nested Node))
  | 0 => failure
  | fuel + 1 => do
    space
    match (← Step.rest).head? with
    | none | some '|' | some ')' => return []
    | some c =>
      match ← readItem fuel c with
      | .change => return ⟨.empty, 0⟩ :: (← readSequence fuel)
      | .part n =>
        let n ← readRepeats fuel n
        return n :: (← readSequence fuel)

/-- Reads an item that starts with the character `c`. -/
def readItem : Nat → Char → Step Item
  | 0, _ => failure
  | fuel + 1, c => do
    let _ ← next
    let flags ← Step.flags
    let leaf := fun n => Item.part ⟨n, 0⟩
    if c = '(' then readGroup fuel
    else if c = '[' then
      let s ← readSet fuel
      return .part ⟨.ofSet s.value, s.depth⟩
    else if c = '\\' then return leaf (escapeNode flags (← readEscape))
    else if c = '.' then return leaf (← (dotNode flags : Option Node))
    else if c = '^' then return leaf (.at (startCondition flags))
    else if c = '$' then return leaf (.at (endCondition flags))
    else if c = '*' ∨ c = '+' ∨ c = '?' ∨ c = '\x7b' then failure
    else return leaf (charNode flags c)

/-- Reads a part in parentheses, or a change of flags, after the opening parenthesis. -/
def readGroup : Nat → Step Item
  | 0 => failure
  | fuel + 1 => do
    space
    let outer ← Step.flags
    let finish := fun (make : Node → Node) (flags : Flags) => do
      modify fun s => { s with flags }
      let choices ← readChoices fuel
      need [')']
      modify fun s => { s with flags := outer }
      return Item.part ⟨make (.choice (choices.map (·.value))),
        depthOf (choices.map (·.depth)) + 1⟩
    let capture := fun (name : Option String) => do
      let index := (← get).groups + 1
      modify fun s => { s with groups := index }
      finish (.capture index name) outer
    if ← looksAround then failure
    else if ← take? ['?', 'P', '<'] then capture (some (← readName))
    else if ← take? ['?', '<'] then capture (some (← readName))
    else if ← take? ['?'] then
      let cs ← Step.rest
      let letters := cs.takeWhile fun c => c != ':' && c != ')'
      let flags ← (outer.change true [] letters : Option Flags)
      Step.goTo (cs.drop letters.length)
      if ← take? [':'] then finish id flags
      else
        need [')']
        if letters.isEmpty then failure
        modify fun s => { s with flags }
        return .change
    else capture none

end

/-- Reads a pattern. -/
def parse? (s : String) : Option Pattern := do
  let cs := s.toList
  let (choices, scan) ← (readChoices (4 * cs.length + 4)).run ⟨cs, .initial, 0, []⟩
  let body := Node.choice (choices.map (·.value))
  let depth := depthOf (choices.map (·.depth))
  if scan.rest.isEmpty ∧ depth ≤ maxDepth ∧ body.fits then return ⟨s, body⟩ else failure

end Worklist.Pattern
