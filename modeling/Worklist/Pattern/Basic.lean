import Worklist.Pattern.Property

/-!
# Patterns

A pattern describes texts. It is made of texts and sets of characters, of conditions on a place
between two characters, of sequences, choices and repetitions, and of parts whose text is kept under
a name.

The order of a choice matters: a pattern does not only say which texts match but also prefers one
way of matching to another.
-/

namespace Worklist.Pattern

/-- A condition on the words around a place. -/
inductive WordEdge where
  /-- A word on one side only. -/
  | edge
  /-- A word on both sides or on neither. -/
  | noEdge
  /-- A word after the place and none before it. -/
  | start
  /-- A word before the place and none after it. -/
  | finish
  /-- No word before the place. -/
  | noneBefore
  /-- No word after the place. -/
  | noneAfter
  deriving DecidableEq

/-- A condition on a place in a text. -/
inductive Condition where
  | textStart
  | textEnd
  /-- The start of a line; `cr` says whether a carriage return ends a line too. -/
  | lineStart (cr : Bool)
  | lineEnd (cr : Bool)
  /-- A condition on words; `wide` says whether they are of any script or of basic letters only. -/
  | word (e : WordEdge) (wide : Bool)
  deriving DecidableEq

/-- What a pattern is made of. -/
inductive Node where
  /-- The empty text. -/
  | empty
  /-- A text as it stands. -/
  | literal (text : List Char)
  /-- A character of a set. -/
  | one (s : CharSet)
  /-- The empty text, at a place that meets a condition. -/
  | at (c : Condition)
  /-- A part in parentheses, the `index`-th of its pattern, whose text may be kept under a name. -/
  | capture (index : Nat) (name : Option String) (n : Node)
  /-- One part after the other. -/
  | seq (a b : Node)
  /-- The first part, or else the second. -/
  | alt (a b : Node)
  /-- A part repeated at least `least` times and at most `most` times, as often as possible if
  `greedy` and as rarely as possible otherwise. -/
  | iterate (n : Node) (least : Nat) (most : Option Nat) (greedy : Bool)
  deriving DecidableEq

namespace Node

/-- Parts one after the other. All that stands before a part makes up one part, so that ways through
it that end at the same place are not told apart. -/
def chain : List Node → Node
  | [] => .empty
  | n :: rest => rest.foldl .seq n

/-- The least number of characters that a part takes. A part that never matches has none, nor has a
part with such a part in it. -/
def shortest : Node → Option Nat
  | .empty => some 0
  | .literal text => some text.length
  | .one s => if s = .none then none else some 1
  | .at _ => some 0
  | .capture _ _ n => n.shortest
  | .seq a b => do return (← a.shortest) + (← b.shortest)
  | .alt a b => do return min (← a.shortest) (← b.shortest)
  | .iterate n least _ _ => do return (← n.shortest) * least

/-- Whether a part takes a character whenever it matches. -/
def advances (n : Node) : Bool :=
  n.shortest.any (0 < ·)

/-- Whether a part never takes a character. -/
def isVacuous : Node → Bool
  | .empty => true
  | .literal text => text.isEmpty
  | .one _ => false
  | .at _ => true
  | .capture _ _ n => n.isVacuous
  | .seq a b => a.isVacuous && b.isVacuous
  | .alt a b => a.isVacuous && b.isVacuous
  | .iterate n _ most _ => most.isSome && n.isVacuous

end Node

end Worklist.Pattern

namespace Worklist

/-- A pattern with the text it was written as. -/
structure Pattern where
  /-- The text. -/
  source : String
  /-- What it means. -/
  body : Pattern.Node
  deriving DecidableEq

end Worklist
