import Worklist.Filter.Expression

/-!
# Composing filters with constraints

A listing never runs a user's filter alone: the constraints of the listing are added to it one by
one. A constraint that no row can meet makes the whole composition empty, whatever else is added.
-/

namespace Worklist.Filter

/-- The outcome of a composition. -/
inductive Composition where
  /-- No constraints: every row is wanted. -/
  | unfiltered
  /-- The rows that meet the expression are wanted. -/
  | filter (e : Expression)
  /-- No row can be wanted. -/
  | emptyResult
  deriving DecidableEq

namespace Composition

/-- The expression that rows have to meet, if there is one. -/
def expression? : Composition → Option Expression
  | .filter e => some e
  | .unfiltered | .emptyResult => none

/-- Whether no row can be wanted. -/
def isEmptyResult : Composition → Bool
  | .emptyResult => true
  | .unfiltered | .filter _ => false

/-- The composition of an optional expression alone. -/
def ofExpression? : Option Expression → Composition
  | some e => .filter e
  | none => .unfiltered

end Composition

/-- A filter together with constraints. -/
def conjoin (base : Option Expression) (extra : List Expression) : Option Expression :=
  Expression.join .all (base.toList ++ extra)

/-- A composition in the making. -/
structure Composer where
  /-- The user's filter and the constraints so far. -/
  parts : List Expression
  /-- Whether a constraint was met that nothing can satisfy. -/
  empty : Bool
  deriving DecidableEq

namespace Composer

/-- Starts with the user's filter. -/
def ofBase (base : Option Expression) : Composer :=
  ⟨base.toList, false⟩

/-- Adds a constraint. -/
def and (c : Composer) (constraint : Expression) : Composer :=
  if c.empty then c else { c with parts := c.parts ++ [constraint] }

/-- Notes that nothing can satisfy the constraints. -/
def nothing (c : Composer) : Composer :=
  { c with empty := true }

/-- Adds the constraint that an attribute has one of several values. -/
def andOneOf (c : Composer) (name : String) (values : List Literal) : Composer :=
  match Expression.oneOf name values with
  | some constraint => c.and constraint
  | none => c.nothing

/-- The outcome. -/
def finish (c : Composer) : Composition :=
  if c.empty then .emptyResult
  else .ofExpression? (Expression.join .all c.parts)

end Composer

end Worklist.Filter
