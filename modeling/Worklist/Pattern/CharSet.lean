import Worklist.Text.Blank
import Worklist.Text.CaseFold

/-!
# Sets of characters in patterns

A set is kept as it was described: by its ends, by a table, or by others that it is made of. Whether
a character is in it is read off the description. The same set can be listed by its bounds, the
points at which membership changes; that is the form in which two descriptions are compared and in
which a set is measured.
-/

namespace Worklist.Pattern

/-- A set of characters. -/
inductive CharSet where
  /-- No character. -/
  | none
  /-- The characters between two characters, both included. -/
  | range (low high : Char)
  /-- The characters of a table. -/
  | table (t : Text.CharTable)
  | blank
  /-- All characters that are not in a set. -/
  | compl (s : CharSet)
  /-- The characters of either set. -/
  | union (s t : CharSet)
  /-- The characters of both sets. -/
  | inter (s t : CharSet)
  /-- The characters that differ from one of the set at most in case. -/
  | folded (s : CharSet)
  /-- The characters that differ from one of the set at most in the case of a basic letter. -/
  | basicFolded (s : CharSet)
  deriving DecidableEq

/-- The other case of one of the basic letters. -/
def otherCase? (c : Char) : Option Char :=
  if c.isUpper then some c.toLower
  else if c.isLower then some c.toUpper
  else none

namespace CharSet

/-- Whether a character is in the set. -/
def contains : CharSet → Char → Bool
  | .none, _ => false
  | .range low high, c => low ≤ c && c ≤ high
  | .table t, c => t.contains c
  | .blank, c => Text.isBlank c
  | .compl s, c => !s.contains c
  | .union s t, c => s.contains c || t.contains c
  | .inter s t, c => s.contains c && t.contains c
  | .folded s, c => (Text.caseVariants c).any s.contains
  | .basicFolded s, c => s.contains c || (otherCase? c).any s.contains

/-- The characters of either set, written without a set that has none. -/
def add (s t : CharSet) : CharSet :=
  if s = .none then t else .union s t

/-- One character. -/
def single (c : Char) : CharSet :=
  .range c c

/-- Every character. -/
def every : CharSet :=
  .compl .none

/-- The characters of the first set that are not in the second. -/
def diff (s t : CharSet) : CharSet :=
  .inter s (.compl t)

/-- The characters of just one of two sets. -/
def symDiff (s t : CharSet) : CharSet :=
  .union (s.diff t) (t.diff s)

/-- The characters of any of several sets. -/
def unions : List CharSet → CharSet
  | [] => .none
  | [s] => s
  | s :: rest => .union s (unions rest)

/-- The characters of several ranges. -/
def ranges (rs : List (Char × Char)) : CharSet :=
  unions (rs.map fun (low, high) => .range low high)

/-- The characters of a list. -/
def ofChars (cs : List Char) : CharSet :=
  unions (cs.map single)

/-! ### Bounds -/

/-- Where characters end. -/
def codeEnd : Nat := 0x110000

/-- A bound, if membership changes at it. -/
def boundIf (before after : Bool) (n : Nat) (rest : List Nat) : List Nat :=
  if before = after then rest else n :: rest

/-- The bounds of a set whose members are found by `f` from membership in two others with the given
bounds. `a` and `b` say whether what stands before the first bounds belongs to them. -/
def combine (f : Bool → Bool → Bool) (a b : Bool) : List Nat → List Nat → List Nat
  | [], [] => []
  | x :: as, [] => boundIf (f a b) (f (!a) b) x (combine f (!a) b as [])
  | [], y :: bs => boundIf (f a b) (f a (!b)) y (combine f a (!b) [] bs)
  | x :: as, y :: bs =>
    if x < y then boundIf (f a b) (f (!a) b) x (combine f (!a) b as (y :: bs))
    else if y < x then boundIf (f a b) (f a (!b)) y (combine f a (!b) (x :: as) bs)
    else boundIf (f a b) (f (!a) (!b)) x (combine f (!a) (!b) as bs)
  termination_by as bs => as.length + bs.length

/-- The bounds of a set of code points, listed in ascending order. -/
def boundsOfCodes : List Nat → List Nat
  | [] => []
  | n :: rest =>
    match boundsOfCodes rest with
    | m :: bs => if m ≤ n then m :: bs else if m = n + 1 then n :: bs else n :: (n + 1) :: m :: bs
    | [] => [n, n + 1]

/-- The bounds of a set of characters. -/
def boundsOfChars (cs : List Char) : List Nat :=
  boundsOfCodes ((cs.map Char.toNat).mergeSort (· ≤ ·))

/-- The codes of the blanks that stand alone or start a run, and where each of these runs ends. -/
def blankBounds : List Nat :=
  [0x09, 0x0E, 0x20, 0x21, 0x85, 0x86, 0xA0, 0xA1, 0x1680, 0x1681, 0x2000, 0x200B, 0x2028, 0x202A,
    0x202F, 0x2030, 0x205F, 0x2060, 0x3000, 0x3001]

/-- The ascending points at which membership changes. -/
def bounds : CharSet → List Nat
  | .none => []
  | .range low high => if low ≤ high then [low.toNat, high.toNat + 1] else []
  | .table t =>
    if t.bounds.size % 2 = 0 then t.bounds.toList else t.bounds.toList ++ [codeEnd]
  | .blank => blankBounds
  | .compl s => combine Bool.xor false false s.bounds [0, codeEnd]
  | .union s t => combine or false false s.bounds t.bounds
  | .inter s t => combine and false false s.bounds t.bounds
  | .folded s =>
    let others := (Text.caseGroups.filter (·.any s.contains)).flatten
    combine or false false s.bounds (boundsOfChars others)
  | .basicFolded s =>
    let letters := (List.range 0x80).map Char.ofNat
    let others := letters.filter fun c => (otherCase? c).any s.contains
    combine or false false s.bounds (boundsOfChars others)

/-- The first and the last code of every run between bounds. -/
def runs : List Nat → List (Nat × Nat)
  | low :: high :: rest => (low, high - 1) :: runs rest
  | _ => []

/-- Whether two sets have the same characters. -/
def same (s t : CharSet) : Bool :=
  s.bounds = t.bounds

/-- Whether no character is in the set. -/
def isVoid (s : CharSet) : Bool :=
  s.bounds.isEmpty

/-- The character of a set that has just one. -/
def only? (s : CharSet) : Option Char :=
  match s.bounds with
  | [low, high] => if high = low + 1 then some (Char.ofNat low) else .none
  | _ => .none

end CharSet

end Worklist.Pattern
