import Worklist.Pattern.Basic

/-!
# Composing patterns

Parts are put together in a plain form: texts that follow each other are one text, a set of one
character is a text, a choice between single characters is a set, and what all branches of a choice
start with stands before the choice. What a pattern matches is not changed by this. But the ways
in which it can repeat a part that takes no character are counted by its choices, so it matters
which choices there are.
-/

namespace Worklist.Pattern

namespace Node

/-- A character of a set. -/
def ofSet (s : CharSet) : Node :=
  if s.isVoid then .one .none
  else
    match s.only? with
    | some c => .literal [c]
    | none => .one s

/-! ### Sequences -/

/-- The parts that follow each other in a part. -/
def links : Node → List Node
  | .empty => []
  | .seq a b => a.links ++ b.links
  | n => [n]

/-- Parts with those texts put together that follow each other. -/
def joinTexts : List Node → List Node
  | .literal s :: rest =>
    match joinTexts rest with
    | .literal t :: more => .literal (s ++ t) :: more
    | more => .literal s :: more
  | n :: rest => n :: joinTexts rest
  | [] => []

/-- Parts one after the other, in the plain form. -/
def sequence (ns : List Node) : Node :=
  chain (joinTexts (ns.flatMap links))

/-! ### Choices -/

/-- Whether two parts are written the same way, up to the way in which a set is described. -/
def alike : Node → Node → Bool
  | .empty, .empty => true
  | .literal s, .literal t => s = t
  | .one s, .one t => s.same t
  | .at c, .at d => c = d
  | .capture i _ n, .capture j _ m => i = j && n.alike m
  | .seq a b, .seq c d => a.alike c && b.alike d
  | .alt a b, .alt c d => a.alike c && b.alike d
  | .iterate n l m g, .iterate n' l' m' g' => n.alike n' && l = l' && m = m' && g = g'
  | _, _ => false

/-- The branches of a choice. -/
def branches : Node → List Node
  | .alt a b => a.branches ++ b.branches
  | n => [n]

/-- The character of a text of just one. -/
def onlyChar? : Node → Option Char
  | .literal [c] => some c
  | _ => none

/-- The set, if a part is a character of it. -/
def set? : Node → Option CharSet
  | .one s => some s
  | _ => none

/-- The first of several parts that matches; one that never does if there is no part. -/
def firstOf : List Node → Node
  | [] => .one .none
  | [n] => n
  | n :: rest => .alt n (firstOf rest)

/-- A choice between single characters or between sets, as a set. -/
def asSet? (ns : List Node) : Option Node :=
  if ns.length < 2 then none
  else
    match ns.mapM onlyChar?, ns.mapM set? with
    | some cs, _ => some (ofSet (.ofChars cs))
    | none, some ss => some (ofSet (.unions ss))
    | none, none => none

/-- A choice whose branches are not looked into. -/
def plainChoice (ns : List Node) : Node :=
  (asSet? (ns.flatMap branches)).getD (firstOf (ns.flatMap branches))

/-- What two sequences start with. -/
def commonStart : List Node → List Node → List Node
  | a :: as, b :: bs => if a.alike b then a :: commonStart as bs else []
  | _, _ => []

/-- What all branches of a choice start with, if each of them is a sequence. -/
def sharedStart : List Node → List Node
  | [] => []
  | n :: ns =>
    if (n :: ns).all (2 ≤ ·.links.length) then
      ns.foldl (fun start m => commonStart start m.links) n.links
    else []

/-- The first of several parts that matches, in the plain form. -/
def choice (ns : List Node) : Node :=
  let ns := ns.flatMap branches
  let start := sharedStart ns
  if ns.length < 2 || start.isEmpty then plainChoice ns
  else
    let ends := ns.map fun n => sequence (n.links.drop start.length)
    sequence (start ++ [plainChoice ends])

/-! ### Repetitions -/

/-- A part repeated, in the plain form. Nothing is gained by repeating a part that never takes a
character. -/
def repetition (n : Node) (least : Nat) (most : Option Nat) (greedy : Bool) : Node :=
  let least := if n.isVacuous then min least 1 else least
  let most := if n.isVacuous then some (most.elim 1 (min 1)) else most
  if most = some 0 then .empty
  else if least = 1 ∧ most = some 1 then n
  else .iterate n least most greedy

end Node

end Worklist.Pattern
