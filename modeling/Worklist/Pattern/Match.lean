import Worklist.Pattern.Basic
import Worklist.Pattern.Marks

/-!
# Matching

A part of a pattern, tried at a place of a text, may end at several places. `outcomes` lists them in
the order in which the pattern prefers them; of several ways to the same place only the preferred
one is kept, because what follows cannot tell them apart. A search takes the first place at which
the pattern matches and the preferred way of matching there.

A part that is repeated without bound and need not take a character could be repeated for ever at
one place. There no branching of the pattern is passed twice before a character is taken: the
branchings have addresses, and a way that comes to one of them again is given up. A way that was
given up would have ended only where a preferred one ends.
-/

namespace Worklist.Pattern

/-- A place in a text. -/
structure Spot where
  /-- The number of characters before it. -/
  index : Nat
  /-- The character before it. -/
  before : Option Char
  /-- The characters after it. -/
  rest : List Char
  deriving DecidableEq

namespace Spot

/-- The place after a character that follows. -/
def next (p : Spot) (c : Char) (rest : List Char) : Spot :=
  ⟨p.index + 1, some c, rest⟩

/-- Whether a word stands before the place. -/
def wordBefore (p : Spot) (wide : Bool) : Bool :=
  p.before.any (CharSet.wordOf wide).contains

/-- Whether a word stands after the place. -/
def wordAfter (p : Spot) (wide : Bool) : Bool :=
  p.rest.head?.any (CharSet.wordOf wide).contains

/-- Whether a place meets a condition on the words around it. -/
def meetsWords (p : Spot) (wide : Bool) : WordEdge → Bool
  | .edge => p.wordBefore wide != p.wordAfter wide
  | .noEdge => p.wordBefore wide == p.wordAfter wide
  | .start => !p.wordBefore wide && p.wordAfter wide
  | .finish => p.wordBefore wide && !p.wordAfter wide
  | .noneBefore => !p.wordBefore wide
  | .noneAfter => !p.wordAfter wide

/-- Whether a line starts here. -/
def lineStarts (cr : Bool) (p : Spot) : Bool :=
  match p.before with
  | none => true
  | some c => c == '\n' || (cr && c == '\r' && p.rest.head? != some '\n')

/-- Whether a line ends here. -/
def lineEnds (cr : Bool) (p : Spot) : Bool :=
  match p.rest with
  | [] => true
  | c :: _ => (cr && c == '\r') || (c == '\n' && !(cr && p.before == some '\r'))

/-- Whether a place meets a condition. -/
def meets (p : Spot) : Condition → Bool
  | .textStart => p.before.isNone
  | .textEnd => p.rest.isEmpty
  | .lineStart cr => p.lineStarts cr
  | .lineEnd cr => p.lineEnds cr
  | .word e wide => p.meetsWords wide e

end Spot

/-- Texts that were kept under names. -/
abbrev Captures := List (String × List Char)

namespace Captures

/-- Keeps a text under a name, in place of one that was kept before. -/
def keep (name : String) (text : List Char) : Captures → Captures
  | [] => [(name, text)]
  | (n, t) :: rest => if n = name then (name, text) :: rest else (n, t) :: keep name text rest

end Captures

/-- Where a branching stands in a part that is repeated, from the inside out. -/
abbrev Address := List Nat

/-- The address of a part of a part, if addresses are needed there. -/
def within (k : Nat) (place : Option Address) : Option Address :=
  place.map (k :: ·)

/-- Where a part of a pattern has ended, and what was kept on the way. -/
structure Outcome where
  /-- The place. -/
  spot : Spot
  /-- The texts that were kept. -/
  captures : Captures
  /-- The branchings passed since a character was last taken. -/
  passed : List Address
  deriving DecidableEq

namespace Outcome

/-- Takes the next character. -/
def take (o : Outcome) (c : Char) (rest : List Char) : Outcome :=
  ⟨o.spot.next c rest, o.captures, []⟩

/-- Takes a text, if it is next. -/
def takeText? : List Char → Outcome → Option Outcome
  | [], o => some o
  | c :: cs, o =>
    match o.spot.rest with
    | [] => none
    | d :: rest => if c = d then takeText? cs (o.take c rest) else none

/-- Keeps what stands between a place and the end of a part. -/
def keep (start : Spot) (name : Option String) (o : Outcome) : Outcome :=
  match name with
  | none => o
  | some name =>
    { o with captures :=
        o.captures.keep name (start.rest.take (o.spot.index - start.index)) }

/-- Passes a branching, unless it was passed before. -/
def pass? (place : Option Address) (o : Outcome) : Option Outcome :=
  match place with
  | none => some o
  | some a => if a ∈ o.passed then none else some { o with passed := a :: o.passed }

end Outcome

/-- The outcomes without those that end where an earlier one ends, or at a place in `ended`. -/
def preferredBesides (ended : Marks) : List Outcome → List Outcome
  | [] => []
  | o :: rest =>
    if ended.contains o.spot.index then preferredBesides ended rest
    else o :: preferredBesides (ended.insert o.spot.index) rest

/-- The outcomes that the pattern prefers, one for every place where one ends. -/
def preferred (os : List Outcome) : List Outcome :=
  preferredBesides .empty os

/-- The preferred outcomes of a step from each of several outcomes. -/
def follow (step : Outcome → List Outcome) (os : List Outcome) : List Outcome :=
  preferred (os.flatMap step)

/-- Stopping at `o`, and the outcomes of going on, in the order that the pattern prefers. -/
def orStop (greedy : Bool) (o : Outcome) (onward : List Outcome) : List Outcome :=
  if greedy then onward ++ [o] else o :: onward

/-- The outcomes of steps taken one after the other, numbered from 0 to `n - 1`. -/
def times (step : Nat → Outcome → List Outcome) (n : Nat) (o : Outcome) : List Outcome :=
  (List.range n).foldl (fun os i => follow (step i) os) [o]

/-- The outcomes of up to `left` of at most `more` further steps, each numbered by how many may
follow it. The state holds which steps were already tried at which places; nothing new comes of
trying one again. -/
def upTo (gate : Nat → Outcome → Option Outcome) (step : Nat → Outcome → List Outcome)
    (greedy : Bool) (more : Nat) : Nat → Outcome → StateM Marks (List Outcome)
  | 0, o => return [o]
  | left + 1, o => do
    let mark := o.spot.index * more + left
    if (← get).contains mark then return []
    match gate left o with
    | none => return []
    | some o =>
      modify (·.insert mark)
      return orStop greedy o (← (step left o).flatMapM (upTo gate step greedy more left))

/-- The outcomes of going on with a step as often as one likes. The state holds the places from
which it was already tried. Every place has its turn once, so there are as many rounds as places. -/
def rounds (gate : Outcome → Option Outcome) (step : Outcome → List Outcome) (greedy : Bool) :
    Nat → Outcome → StateM Marks (List Outcome)
  | 0, _ => return []
  | fuel + 1, o => do
    if (← get).contains o.spot.index then return []
    match gate o with
    | none => return []
    | some o =>
      modify (·.insert o.spot.index)
      return orStop greedy o (← (step o).flatMapM (rounds gate step greedy fuel))

/-- The outcomes of a part, tried at an address from an outcome of what stands before it. -/
abbrev Attempt := Option Address → Outcome → List Outcome

/-- The outcomes of going on from each of several outcomes, where nothing was tried before. -/
def gather (onward : Outcome → StateM Marks (List Outcome)) (os : List Outcome) : List Outcome :=
  ((os.flatMapM onward).run .empty).run.1

/-- The outcomes of a part taken at least `least` times, and up to `more` times more. -/
def boundedRepeat (part : Attempt) (least more : Nat) (greedy : Bool) (place : Option Address)
    (o : Outcome) : List Outcome :=
  let copy := fun i => part (within (2 * i + 3) place)
  let gate := fun i => Outcome.pass? (within (2 * i + 2) place)
  let onward := upTo gate (fun i => copy (least + i)) greedy more more
  preferred (gather onward (times copy least o))

/-- The outcomes of a part taken at least `least` times. `advances` says that the part takes a
character every time; if it does not, it is first decided whether to start. -/
def openRepeat (part : Attempt) (advances : Bool) (least : Nat) (greedy : Bool)
    (place : Option Address) (o : Outcome) : List Outcome :=
  let copy := fun i => part (within (2 * i + 3) place)
  let onward := rounds (Outcome.pass? (within 1 place)) (copy (least - 1)) greedy
    (o.spot.rest.length + 2)
  preferred <|
    if least = 0 ∧ !advances then
      match o.pass? (within 0 place) with
      | none => []
      | some o => orStop greedy o (gather onward (copy 0 o))
    else gather onward (times copy least o)

namespace Node

/-- The outcomes of a part of a pattern, the preferred ones first. Addresses are needed inside a
part that is repeated without bound and need not take a character. -/
def outcomes : Node → Option Address → Outcome → List Outcome
  | .empty, _, o => [o]
  | .literal text, _, o => (o.takeText? text).toList
  | .one s, _, o =>
    match o.spot.rest with
    | [] => []
    | c :: rest => if s.contains c then [o.take c rest] else []
  | .at c, _, o => if o.spot.meets c then [o] else []
  | .capture _ name n, place, o => (n.outcomes place o).map (Outcome.keep o.spot name)
  | .seq a b, place, o => follow (b.outcomes (within 5 place)) (a.outcomes (within 3 place) o)
  | .alt a b, place, o =>
    match o.pass? (within 0 place) with
    | none => []
    | some o => preferred (a.outcomes (within 3 place) o ++ b.outcomes (within 5 place) o)
  | .iterate n least (some most) greedy, place, o =>
    boundedRepeat n.outcomes least (most - least) greedy place o
  | .iterate n least none greedy, place, o =>
    if place.isNone ∧ !n.advances then
      openRepeat n.outcomes false least greedy (some []) { o with passed := [] }
    else openRepeat n.outcomes n.advances least greedy place o

end Node

/-- The texts kept by the preferred way of matching at the first place where there is one, of the
places from the one after `index` characters on. -/
def searchFrom (n : Node) (index : Nat) (before : Option Char) : List Char → Option Captures
  | [] => (n.outcomes none ⟨⟨index, before, []⟩, [], []⟩).head?.map (·.captures)
  | c :: rest =>
    match n.outcomes none ⟨⟨index, before, c :: rest⟩, [], []⟩ with
    | o :: _ => some o.captures
    | [] => searchFrom n (index + 1) (some c) rest

end Worklist.Pattern

namespace Worklist

/-- What is kept if a pattern matches somewhere in a text, and nothing if it does not. -/
def Pattern.search (p : Pattern) (cs : List Char) : Option Pattern.Captures :=
  Pattern.searchFrom p.body 0 none cs

end Worklist
