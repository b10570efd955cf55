import Worklist.Text.Hexadecimal
import Worklist.Json.Located

/-!
# Reading JSON texts

The grammar is that of the standard. Lists and objects may stand within each other up to a limit.
A number without fraction and exponent that fits a 64-bit word is kept exactly; of any other number
up to nineteen or twenty digits are collected as one natural number and scaled by a power of ten.

`read` gives the value with its places, `parse` the plain value or the first fault.
-/

namespace Worklist.Json

/-- How many lists and objects may stand within each other. -/
def maxDepth : Nat := 127

/-- A place in a text and the characters from there on. -/
structure Cursor where
  /-- Where the cursor stands. -/
  place : Place
  /-- The characters that follow. -/
  rest : List Char

/-- The blanks that may stand between tokens. -/
def isTokenBlank (c : Char) : Bool :=
  c == ' ' || c == '\n' || c == '\t' || c == '\r'

/-- The cursor at the next character that is not a blank. -/
def skipBlanks (place : Place) : List Char → Cursor
  | [] => ⟨place, []⟩
  | c :: rest => if isTokenBlank c then skipBlanks (place.after c) rest else ⟨place, c :: rest⟩

/-- What has been read, and where reading goes on or why it cannot. -/
abbrev Reading (α : Type) := α × Except Fault Cursor

/-- A value whose text breaks off. -/
def broken (start : Place) (fault : Fault) : Reading Located :=
  (.unreadable start fault (some fault), .error fault)

/-! ### Texts -/

/-- What a backslash begins. The length counts the characters after the backslash. -/
inductive Escape where
  /-- An escaped character. -/
  | char (c : Char) (length : Nat)
  /-- An escape that stands for no character. -/
  | refused (fault : Fault) (length : Nat)
  /-- An escape that breaks off. -/
  | broken (fault : Fault)

/-- The number that the next four bytes write in base sixteen. -/
def fourDigits (place : Place) (cs : List Char) : Except Fault Nat :=
  match place.afterBytes? 4 cs with
  | none => .error ⟨.endInString, place.afterAll cs⟩
  | some stop =>
    match cs.take 4 |>.mapM Text.hexValue? with
    | some ds => .ok (ds.foldl (fun n d => n * 16 + d) 0)
    | none => .error ⟨.invalidEscape, stop⟩

/-- The escape of a character by its code, after the letter that announces it. A code of the upper
plane is written as a pair of escapes. -/
def codeEscape (place : Place) (cs : List Char) : Escape :=
  match fourDigits place cs with
  | .error fault => .broken fault
  | .ok n =>
    let stop := place.plus 4
    if 0xDC00 ≤ n ∧ n ≤ 0xDFFF then .refused ⟨.loneSurrogate, stop⟩ 5
    else if n < 0xD800 ∨ 0xDBFF < n then .char (Char.ofNat n) 5
    else match cs.drop 4 with
      | [] => .broken ⟨.endInString, stop⟩
      | ['\\'] => .broken ⟨.endInString, stop.plus 1⟩
      | '\\' :: 'u' :: more =>
        match fourDigits (stop.plus 2) more with
        | .error fault => .broken fault
        | .ok m =>
          if 0xDC00 ≤ m ∧ m ≤ 0xDFFF then
            .char (Char.ofNat ((n - 0xD800) * 0x400 + (m - 0xDC00) + 0x10000)) 11
          else .refused ⟨.loneSurrogate, stop.plus 6⟩ 5
      | '\\' :: c :: _ => .refused ⟨.pairNotContinued, (stop.plus 1).afterByte c⟩ 5
      | c :: _ => .refused ⟨.pairNotContinued, stop.afterByte c⟩ 5

/-- The escape after a backslash. -/
def escapeAt (place : Place) : List Char → Escape
  | [] => .broken ⟨.endInString, place⟩
  | c :: rest =>
    if c = '"' ∨ c = '\\' ∨ c = '/' then .char c 1
    else if c = 'b' then .char '\x08' 1
    else if c = 'f' then .char '\x0c' 1
    else if c = 'n' then .char '\n' 1
    else if c = 'r' then .char '\r' 1
    else if c = 't' then .char '\t' 1
    else if c = 'u' then codeEscape (place.plus 1) rest
    else .broken ⟨.invalidEscape, place.afterByte c⟩

/-- The characters of a text up to its closing quote. -/
structure Characters where
  /-- The characters. -/
  chars : List Char
  /-- The first escape among them that stands for no character. -/
  refused : Option Fault

/-- Puts a character in front. -/
def Characters.cons (c : Char) (cs : Characters) : Characters :=
  { cs with chars := c :: cs.chars }

/-- Reads a text after its opening quote. The first `done` characters belong to an escape that has
been read already. -/
def readString (place : Place) (done : Nat) : List Char → Reading Characters
  | [] => (⟨[], none⟩, .error ⟨.endInString, place⟩)
  | c :: rest =>
    match done with
    | n + 1 => readString (place.after c) n rest
    | 0 =>
      if c = '"' then (⟨[], none⟩, .ok ⟨place.plus 1, rest⟩)
      else if c = '\\' then
        match escapeAt (place.plus 1) rest with
        | .char e n =>
          let (cs, next) := readString (place.plus 1) n rest
          (cs.cons e, next)
        | .refused fault n =>
          let (cs, next) := readString (place.plus 1) n rest
          ({ cs with refused := some fault }, next)
        | .broken fault => (⟨[], none⟩, .error fault)
      else if c.toNat < 0x20 then
        (⟨[], none⟩, .error ⟨.controlCharacter place, place.afterByte c⟩)
      else
        let (cs, next) := readString (place.after c) 0 rest
        (cs.cons c, next)

/-- Reads a text as a value. -/
def readText (start : Place) (rest : List Char) : Reading Located :=
  match readString (start.plus 1) 0 rest with
  | (⟨cs, none⟩, .ok next) => (.string (some ⟨start, next.place⟩) (String.ofList cs), .ok next)
  | (⟨_, some fault⟩, .ok next) => (.unreadable start fault none, .ok next)
  | (⟨_, none⟩, .error fault) => broken start fault
  | (⟨_, some first⟩, .error fault) => (.unreadable start first (some fault), .error fault)

/-! ### Numbers -/

/-- Whether a character is a decimal digit. -/
def isDigit (c : Char) : Bool :=
  '0' ≤ c && c ≤ '9'

/-- The value of a decimal digit. -/
def digitValue (c : Char) : Nat :=
  c.toNat - '0'.toNat

/-- Collects digits while their number fits an unsigned 64-bit word: the number and the digits that
are left over. -/
def collectDigits (limit : Nat) : Nat → List Char → Nat × List Char
  | n, [] => (n, [])
  | n, c :: cs =>
    if n * 10 + digitValue c ≤ limit then collectDigits limit (n * 10 + digitValue c) cs
    else (n, c :: cs)

/-- A power of ten. -/
def powerOfTen (n : Nat) : Float :=
  Float.ofScientific 1 false n

/-- Divides by the largest power of ten there is, as long as more than one of it is wanted. -/
def shrink : Nat → Float → Nat → Float
  | 0, x, _ => x
  | rounds + 1, x, n =>
    if n ≤ 308 then x / powerOfTen n
    else if x == 0 then x
    else shrink rounds (x / powerOfTen 308) (n - 308)

/-- `significand * 10 ^ exponent`, unless it is too large. -/
def scale? (significand : Nat) (exponent : Int) : Option Float :=
  let x := Float.ofNat significand
  if exponent < 0 then some (shrink 4 x exponent.natAbs)
  else if exponent ≤ 308 then
    let y := x * powerOfTen exponent.toNat
    if y.isInf then none else some y
  else if significand = 0 then some x
  else none

/-- A number of either sign. -/
def signed (positive : Bool) (x : Float) : Number :=
  .real (if positive then x else -x)

/-- The number `significand * 10 ^ exponent` that ends at `cur`. -/
def finishReal (positive : Bool) (significand : Nat) (exponent : Int) (cur : Cursor) :
    Reading (Except Fault Number) :=
  match scale? significand exponent with
  | some x => (.ok (signed positive x), .ok cur)
  | none => (.error ⟨.numberOutOfRange, cur.place⟩, .ok cur)

/-- A number that breaks off. -/
def brokenNumber (fault : Fault) : Reading (Except Fault Number) :=
  (.error fault, .error fault)

/-- The largest exponent that is counted. -/
def maxExponent : Nat := 0x7fffffff

/-- Reads the digits of an exponent after its sign. -/
def readExponentDigits (up positive : Bool) (significand : Nat) (exponent : Int) (cur : Cursor) :
    Reading (Except Fault Number) :=
  let digits := cur.rest.takeWhile isDigit
  let next : Cursor := ⟨cur.place.plus digits.length, cur.rest.dropWhile isDigit⟩
  match digits, cur.rest with
  | [], [] => brokenNumber ⟨.endInNumber, cur.place⟩
  | [], c :: _ => brokenNumber ⟨.invalidNumber, cur.place.afterByte c⟩
  | _ :: _, _ =>
    match collectDigits maxExponent 0 digits with
    | (e, []) =>
      finishReal positive significand (if up then exponent + e else exponent - e) next
    | (_, left) =>
      if significand ≠ 0 ∧ up then
        (.error ⟨.numberOutOfRange, cur.place.plus (digits.length - left.length + 1)⟩, .ok next)
      else (.ok (signed positive 0), .ok next)

/-- Reads an exponent after its letter. -/
def readExponent (positive : Bool) (significand : Nat) (exponent : Int) (cur : Cursor) :
    Reading (Except Fault Number) :=
  match cur.rest with
  | '+' :: rest =>
    readExponentDigits true positive significand exponent ⟨cur.place.plus 1, rest⟩
  | '-' :: rest =>
    readExponentDigits false positive significand exponent ⟨cur.place.plus 1, rest⟩
  | _ => readExponentDigits true positive significand exponent cur

/-- Reads what may follow the last digit of the fraction or of the whole part. -/
def readScale (positive : Bool) (significand : Nat) (exponent : Int) (cur : Cursor) :
    Reading (Except Fault Number) :=
  match cur.rest with
  | 'e' :: rest | 'E' :: rest =>
    readExponent positive significand exponent ⟨cur.place.plus 1, rest⟩
  | _ => finishReal positive significand exponent cur

/-- Reads a fraction after its point. -/
def readFraction (positive : Bool) (significand : Nat) (exponent : Int) (cur : Cursor) :
    Reading (Except Fault Number) :=
  let digits := cur.rest.takeWhile isDigit
  match digits, cur.rest with
  | [], [] => brokenNumber ⟨.endInNumber, cur.place⟩
  | [], c :: _ => brokenNumber ⟨.invalidNumber, cur.place.afterByte c⟩
  | _ :: _, _ =>
    let (n, left) := collectDigits Text.maxUInt64 significand digits
    readScale positive n (exponent - (digits.length - left.length : Nat))
      ⟨cur.place.plus digits.length, cur.rest.dropWhile isDigit⟩

/-- A whole number, if it fits a 64-bit word. Minus zero does not. -/
def wholeNumber (positive : Bool) (n : Nat) : Number :=
  if positive then .whole n
  else if n = 0 ∨ Text.maxInt64 + 1 < n then .real (-(Float.ofNat n))
  else .whole (-(n : Int))

/-- Reads what follows the digits of the whole part. -/
def readBehindWhole (positive : Bool) (digits : List Char) (next : Cursor) :
    Reading (Except Fault Number) :=
  let (n, left) := collectDigits Text.maxUInt64 0 digits
  match next.rest with
  | '.' :: rest => readFraction positive n left.length ⟨next.place.plus 1, rest⟩
  | 'e' :: _ | 'E' :: _ => readScale positive n left.length next
  | _ =>
    match left with
    | [] => (.ok (wholeNumber positive n), .ok next)
    | _ :: _ => finishReal positive n left.length next

/-- Reads a number after its sign. -/
def readNumber (positive : Bool) (cur : Cursor) : Reading (Except Fault Number) :=
  let digits := cur.rest.takeWhile isDigit
  let next : Cursor := ⟨cur.place.plus digits.length, cur.rest.dropWhile isDigit⟩
  match digits, cur.rest with
  | [], [] => brokenNumber ⟨.endInNumber, cur.place⟩
  | [], c :: _ => brokenNumber ⟨.invalidNumber, cur.place.afterByte c⟩
  | '0' :: _ :: _, _ => brokenNumber ⟨.invalidNumber, cur.place.plus 2⟩
  | _ :: _, _ => readBehindWhole positive digits next

/-- Makes a value of a number that starts at `start`. -/
def numberValue (start : Place) : Reading (Except Fault Number) → Reading Located
  | (.ok n, .ok next) => (.number (some ⟨start, next.place⟩) n, .ok next)
  | (.error fault, .ok next) => (.unreadable start fault none, .ok next)
  | (_, .error fault) => broken start fault

/-! ### Words, lists and objects -/

/-- Reads the letters of a word one by one. -/
def readLetters (place : Place) : List Char → List Char → Except Fault Cursor
  | [], rest => .ok ⟨place, rest⟩
  | _ :: _, [] => .error ⟨.endBeforeValue, place⟩
  | w :: word, c :: rest =>
    if c = w then readLetters (place.plus 1) word rest
    else .error ⟨.unknownWord, place.afterByte c⟩

/-- Reads one of the three words. -/
def readWord (word : List Char) (value : Option Span → Located) (start : Place)
    (cs : List Char) : Reading Located :=
  match readLetters start word cs with
  | .ok next => (value (some ⟨start, next.place⟩), .ok next)
  | .error fault => broken start fault

/-- Ends a list or an object that is read at the remaining depth `depth`. -/
def closeContainer (depth : Nat) (start : Place)
    (value : Option Span → Option Fault → Located) (next : Except Fault Cursor) :
    Reading Located :=
  let tree := match next with
    | .ok cur => value (some ⟨start, cur.place⟩) none
    | .error fault => value (some ⟨start, fault.place⟩) (some fault)
  if depth = 0 then
    (.unreadable start ⟨.tooDeep, start.plus 1⟩ tree.skipFault?, next)
  else (tree, next)

/-- The place after a key and the blanks behind it, and after a closing brace that follows. -/
def keyStop (cur : Cursor) : Place :=
  match cur.rest with
  | '\x7d' :: _ => cur.place.plus 1
  | _ => cur.place

mutual

/-- Reads a value. `depth` is how many more lists and objects may stand within each other; `fuel`
bounds the number of steps. -/
def readValue : Nat → Nat → Cursor → Reading Located
  | 0, _, cur => broken cur.place ⟨.tooDeep, cur.place⟩
  | fuel + 1, depth, cur =>
    let cur := skipBlanks cur.place cur.rest
    match cur.rest with
    | [] => broken cur.place ⟨.endBeforeValue, cur.place⟩
    | c :: rest =>
      if c = '"' then readText cur.place rest
      else if c = '[' then
        let (items, next) := readItems fuel (depth - 1) true ⟨cur.place.plus 1, rest⟩
        closeContainer depth cur.place (.array · items ·) next
      else if c = '\x7b' then
        let (members, next) := readMembers fuel (depth - 1) true ⟨cur.place.plus 1, rest⟩
        closeContainer depth cur.place (.object · members ·) next
      else if c = '-' then
        numberValue cur.place (readNumber false ⟨cur.place.plus 1, rest⟩)
      else if isDigit c then numberValue cur.place (readNumber true cur)
      else if c = 'n' then readWord ['n', 'u', 'l', 'l'] .null cur.place cur.rest
      else if c = 't' then readWord ['t', 'r', 'u', 'e'] (.bool · true) cur.place cur.rest
      else if c = 'f' then readWord ['f', 'a', 'l', 's', 'e'] (.bool · false) cur.place cur.rest
      else broken cur.place ⟨.valueMissing, cur.place.afterByte c⟩

/-- Reads the items of a list up to its closing bracket. -/
def readItems : Nat → Nat → Bool → Cursor → Reading (List Located)
  | 0, _, _, cur => ([], .error ⟨.tooDeep, cur.place⟩)
  | fuel + 1, depth, first, cur =>
    let cur := skipBlanks cur.place cur.rest
    match cur.rest with
    | [] => ([], .error ⟨.endInList, cur.place⟩)
    | ']' :: rest => ([], .ok ⟨cur.place.plus 1, rest⟩)
    | c :: rest =>
      if first then readItem fuel depth cur
      else if c = ',' then
        let cur := skipBlanks (cur.place.plus 1) rest
        match cur.rest with
        | [] => ([], .error ⟨.endBeforeValue, cur.place⟩)
        | ']' :: _ => ([], .error ⟨.commaBeforeListEnd, cur.place.plus 1⟩)
        | _ :: _ => readItem fuel depth cur
      else ([], .error ⟨.listNotContinued, cur.place.afterByte c⟩)

/-- Reads an item and those that follow it. -/
def readItem : Nat → Nat → Cursor → Reading (List Located)
  | 0, _, cur => ([], .error ⟨.tooDeep, cur.place⟩)
  | fuel + 1, depth, cur =>
    match readValue fuel depth cur with
    | (item, .error fault) => ([item], .error fault)
    | (item, .ok next) =>
      let (items, ending) := readItems fuel depth false next
      (item :: items, ending)

/-- Reads the members of an object up to its closing brace. -/
def readMembers : Nat → Nat → Bool → Cursor → Reading (List (Key × Located))
  | 0, _, _, cur => ([], .error ⟨.tooDeep, cur.place⟩)
  | fuel + 1, depth, first, cur =>
    let cur := skipBlanks cur.place cur.rest
    match cur.rest with
    | [] => ([], .error ⟨.endInObject, cur.place⟩)
    | '\x7d' :: rest => ([], .ok ⟨cur.place.plus 1, rest⟩)
    | c :: rest =>
      if first then readMember fuel depth cur
      else if c = ',' then
        let cur := skipBlanks (cur.place.plus 1) rest
        match cur.rest with
        | [] => ([], .error ⟨.endAfterMember, cur.place⟩)
        | '\x7d' :: _ => ([], .error ⟨.commaBeforeObjectEnd, cur.place.plus 1⟩)
        | _ :: _ => readMember fuel depth cur
      else ([], .error ⟨.objectNotContinued, cur.place.afterByte c⟩)

/-- Reads a member and those that follow it. -/
def readMember : Nat → Nat → Cursor → Reading (List (Key × Located))
  | 0, _, cur => ([], .error ⟨.tooDeep, cur.place⟩)
  | fuel + 1, depth, cur =>
    match cur.rest with
    | '"' :: rest =>
      match readString (cur.place.plus 1) 0 rest with
      | (⟨_, none⟩, .error fault) => ([], .error fault)
      | (⟨_, some first⟩, .error fault) =>
        ([(⟨"", none, some first⟩, .unreadable fault.place fault (some fault))], .error fault)
      | (⟨cs, refused⟩, .ok next) =>
        let next := skipBlanks next.place next.rest
        let key : Key := ⟨String.ofList cs, some (keyStop next), refused⟩
        match next.rest with
        | ':' :: rest =>
          match readValue fuel depth ⟨next.place.plus 1, rest⟩ with
          | (value, .error fault) => ([(key, value)], .error fault)
          | (value, .ok next) =>
            let (members, ending) := readMembers fuel depth false next
            ((key, value) :: members, ending)
        | other =>
          let fault : Fault := match other with
            | [] => ⟨.endInObject, next.place⟩
            | c :: _ => ⟨.colonMissing, next.place.afterByte c⟩
          ([(key, .unreadable next.place fault (some fault))], .error fault)
    | [] => ([], .error ⟨.endInObject, cur.place⟩)
    | c :: _ => ([], .error ⟨.keyNotText, cur.place.afterByte c⟩)

end

/-- What is wrong after a complete value, if anything. -/
def endFault? (next : Cursor) : Option Fault :=
  let cur := skipBlanks next.place next.rest
  match cur.rest with
  | [] => none
  | c :: _ => some ⟨.trailing, cur.place.afterByte c⟩

/-- What a text says, with places, and what is wrong after its end. Up to `depth` lists and objects
may stand within each other. -/
def readWithin (depth : Nat) (cs : List Char) : Located × Option Fault :=
  match readValue (3 * cs.length + 4) depth ⟨.start, cs⟩ with
  | (tree, .error _) => (tree, none)
  | (tree, .ok next) => (tree, endFault? next)

/-- What a text says, with places, and what is wrong after its end. -/
def read (cs : List Char) : Located × Option Fault :=
  readWithin maxDepth cs

/-- The value of a text, or the first fault in it. -/
def parse (cs : List Char) : Except Fault Json :=
  let (tree, trailing) := read cs
  match tree.value, trailing with
  | .error fault, _ => .error fault
  | .ok _, some fault => .error fault
  | .ok v, none => .ok v

end Worklist.Json
