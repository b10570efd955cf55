import Worklist.Text.Numeral

/-!
# Universally unique identifiers

An identifier is thirty-two digits of base sixteen. It is written in five groups with hyphens
between them, in lower case. It is read in this form, without any hyphens, in braces, or after the
prefix of its name space; nothing else is an identifier.
-/

namespace Worklist

/-- An identifier. -/
structure Uuid where
  /-- The digits, the most significant first. -/
  digits : List (Fin 16)
  /-- There are thirty-two of them. -/
  size : digits.length = 32
  deriving DecidableEq

namespace Uuid

/-- The sizes of the groups between the hyphens. -/
def groups : List Nat :=
  [8, 4, 4, 4, 12]

/-- A digit of base sixteen in lower case. -/
def digitChar (d : Fin 16) : Char :=
  if d.val < 10 then Char.ofNat ('0'.toNat + d.val) else Char.ofNat ('a'.toNat + (d.val - 10))

/-- The value of a digit of base sixteen in either case. -/
def digitValue? (c : Char) : Option (Fin 16) :=
  let n := c.toNat
  if '0' ≤ c ∧ c ≤ '9' then some (Fin.ofNat 16 (n - '0'.toNat))
  else if 'a' ≤ c ∧ c ≤ 'f' then some (Fin.ofNat 16 (n - 'a'.toNat + 10))
  else if 'A' ≤ c ∧ c ≤ 'F' then some (Fin.ofNat 16 (n - 'A'.toNat + 10))
  else none

/-- Characters in groups of the given sizes, with hyphens between the groups. -/
def hyphenate : List Nat → List Char → List Char
  | [], _ => []
  | [n], cs => cs.take n
  | n :: sizes, cs => cs.take n ++ '-' :: hyphenate sizes (cs.drop n)

/-- The written form. -/
def chars (u : Uuid) : List Char :=
  hyphenate groups (u.digits.map digitChar)

/-- The written form as a text. -/
def text (u : Uuid) : String :=
  String.ofList u.chars

/-- The identifier with the given digits. -/
def ofDigits? (ds : List (Fin 16)) : Option Uuid :=
  if h : ds.length = 32 then some ⟨ds, h⟩ else none

/-- Reads thirty-two digits. -/
def ofSimple? (cs : List Char) : Option Uuid :=
  (cs.mapM digitValue?).bind ofDigits?

/-- Takes the hyphens out, if they stand exactly between the groups. -/
def unhyphenate? : List Nat → List Char → Option (List Char)
  | [], cs => if cs.isEmpty then some [] else none
  | [n], cs => if cs.length = n then some cs else none
  | n :: sizes, cs =>
    match cs.drop n with
    | '-' :: rest => (unhyphenate? sizes rest).map (cs.take n ++ ·)
    | _ => none

/-- Reads five groups with hyphens between them. -/
def ofHyphenated? (cs : List Char) : Option Uuid :=
  (unhyphenate? groups cs).bind ofSimple?

/-- The prefix of the name space. -/
def namePrefix : List Char :=
  "urn:uuid:".toList

/-- The rest of a text after the prefix of the name space, in either case. -/
def afterName? (cs : List Char) : Option (List Char) :=
  if (cs.take namePrefix.length).map Char.toLower = namePrefix then
    some (cs.drop namePrefix.length)
  else none

/-- The text between two braces. -/
def braced? : List Char → Option (List Char)
  | '\x7b' :: rest => if rest.getLast? = some '\x7d' then some rest.dropLast else none
  | _ => none

/-- Reads an identifier in any of its forms. -/
def ofChars? (cs : List Char) : Option Uuid :=
  match braced? cs, afterName? cs with
  | some inner, _ => ofHyphenated? inner
  | none, some inner => ofHyphenated? inner
  | none, none => (ofSimple? cs).or (ofHyphenated? cs)

/-- Reads an identifier in any of its forms. -/
def parse? (s : String) : Option Uuid :=
  ofChars? s.toList

/-- Why a text is not an identifier. -/
inductive Fault where
  /-- A character that is neither a digit nor a hyphen, and the number of bytes before it. -/
  | character (found : Char) (index : Nat)
  /-- Digits only, but not thirty-two, or more bytes than any form has. -/
  | length (found : Nat)
  /-- Not five groups. -/
  | groupCount (found : Nat)
  /-- A group of the wrong size; groups are counted from zero. -/
  | groupLength (group expected found : Nat)
  deriving Repr, DecidableEq

/-- A number in a message. -/
def number (n : Nat) : String :=
  String.ofList (Text.decimal n)

/-- The text of a fault. -/
def Fault.message : Fault → String
  | .character c i => "invalid character: found `" ++ String.ofList [c] ++ "` at " ++ number i
  | .length n => "invalid length: found " ++ number n
  | .groupCount n => "invalid group count: expected 5, found " ++ number n
  | .groupLength g e n =>
    "invalid group length in group " ++ number g ++ ": expected " ++ number e ++
      ", found " ++ number n

/-- The number of bytes of a text. -/
def byteCount (cs : List Char) : Nat :=
  cs.foldl (fun n c => n + c.utf8Size) 0

/-- The size in bytes of the longest form, which has the prefix of the name space. -/
def longest : Nat :=
  namePrefix.length + 36

/-- The first character that belongs to no identifier, with the number of bytes before it. -/
def strange? (index : Nat) : List Char → Option (Char × Nat)
  | [] => none
  | c :: cs =>
    if c = '-' ∨ (digitValue? c).isSome then strange? (index + c.utf8Size) cs else some (c, index)

/-- The first group that has not its size: its number, the size it should have and its size. -/
def wrongGroup : Nat → List Nat → List (List Char) → Fault
  | i, n :: m :: sizes, g :: gs =>
    if g.length = n then wrongGroup (i + 1) (m :: sizes) gs else .groupLength i n g.length
  | i, [n], g :: _ => .groupLength i n g.length
  | i, _, _ => .groupLength i 0 0

/-- What a text that is no identifier was meant to hold, and whether it may have been meant to have
no hyphens. A text of the size of a bare form is taken for that form; any other may have braces or
the prefix around it. -/
def intended (cs : List Char) : List Char × Bool :=
  if byteCount cs = 32 then (cs, true)
  else if byteCount cs = 36 then (cs, false)
  else match braced? cs, afterName? cs with
    | some inner, _ => (inner, false)
    | none, some inner => (inner, false)
    | none, none => (cs, true)

/-- Why a text that is no identifier is none. -/
def fault (cs : List Char) : Fault :=
  if longest < byteCount cs then .length (byteCount cs)
  else
    let (inner, bare) := intended cs
    match strange? 0 inner with
    | some (c, i) => .character c i
    | none =>
      let parts := inner.splitOn '-'
      if parts.length = 1 ∧ bare then .length (byteCount cs)
      else if parts.length ≠ 5 then .groupCount parts.length
      else wrongGroup 0 groups parts

end Uuid

end Worklist
