import Worklist.Filter.Expression
import Worklist.Json.Place
import Worklist.Json.Writer

/-!
# What can be wrong with a filter

Every error names what it is about. Reading a filter, writing an expression as a filter and
evaluating an expression share this type, because callers report all three alike.
-/

namespace Worklist.Filter

/-- The kinds of values that attributes have. -/
inductive ValueKind where
  | text
  /-- Identifiers. -/
  | uuid
  /-- Integers. -/
  | number
  /-- Booleans. -/
  | bool
  deriving Repr, DecidableEq

/-- A kind as it is named in a message. -/
def ValueKind.describe : ValueKind → String
  | .text => "a string"
  | .uuid => "a UUID"
  | .number => "an integer"
  | .bool => "a boolean"

/-- What can be wrong with the operand of an operator. -/
inductive OperandFault where
  /-- It is not a list. -/
  | notArray (found : Json.Kind)
  /-- It is an empty list. -/
  | empty
  /-- An item of the list is not a filter. -/
  | notFilter (found : Json.Kind)
  /-- The values for a key are not a list. -/
  | notArrayFor (key : String) (found : Json.Kind)
  /-- The list of values for a key is empty. -/
  | noValues (key : String)
  deriving DecidableEq

/-- The text of a fault. -/
def OperandFault.message : OperandFault → String
  | .notArray found => "expected an array, found " ++ found.describe
  | .empty => "array is empty"
  | .notFilter found => "expected filter objects, found " ++ found.describe
  | .notArrayFor key found => "expected an array for '" ++ key ++ "', found " ++ found.describe
  | .noValues key => "no values given for '" ++ key ++ "'"

/-- What can be wrong with a filter. -/
inductive FilterError where
  /-- The text is not JSON. -/
  | malformed (fault : Json.Fault)
  /-- The value is not an object. -/
  | notObject (found : Json.Kind)
  /-- An object without members, and the key it stands under. -/
  | emptyObject (location : String)
  /-- An object that says nothing about records, and the key it stands under. -/
  | noPredicates (location : String)
  /-- The operand of an operator has the wrong shape. -/
  | invalidOperand (operator : String) (fault : OperandFault)
  /-- The negation mark is not a boolean. -/
  | invalidNegate (value : Json)
  /-- There is no such operator. -/
  | unknownOperator (operator : String)
  /-- There is no such field; perhaps another one was meant. -/
  | unknownField (key : String) (suggestion : Option String)
  /-- The value is not one of the field's kind. -/
  | invalidLiteral (key : String) (value : Json) (expected : ValueKind)
  /-- A group without members. -/
  | emptyGroup (c : Connective)
  /-- The record has no such attribute. -/
  | unknownAttribute (name : String)
  /-- A literal or attribute on its own that is not boolean. -/
  | notBoolean (e : Expression)
  /-- A literal or attribute on its own, which no filter expresses. -/
  | unrenderable (e : Expression)

namespace FilterError

/-- The text of an error. -/
def message : FilterError → String
  | .malformed fault => "malformed filter JSON: " ++ fault.message
  | .notObject found => "filter must be a JSON object, found " ++ found.describe
  | .emptyObject location => "empty filter object at '" ++ location ++ "'"
  | .noPredicates location => "filter object at '" ++ location ++ "' has no predicate keys"
  | .invalidOperand operator fault =>
    "invalid operand for " ++ operator ++ ": " ++ fault.message
  | .invalidNegate value => "'negate' must be a boolean, found " ++ Json.compactText value
  | .unknownOperator operator => "unknown filter operator: " ++ operator
  | .unknownField key none => "unknown filter field: " ++ key
  | .unknownField key (some name) =>
    "unknown filter field: " ++ key ++ " (did you mean '" ++ name ++ "'?)"
  | .invalidLiteral key value expected =>
    "invalid value " ++ Json.compactText value ++ " for field '" ++ key ++ "': expected " ++
      expected.describe
  | .emptyGroup c => c.word ++ " requires at least one operand"
  | .unknownAttribute name => "unknown attribute: " ++ name
  | .notBoolean e => "expression is not boolean: " ++ e.display
  | .unrenderable e => "expression cannot be rendered as a filter: " ++ e.display

/-- The key or attribute that an error is about, if there is one. -/
def offendingKey : FilterError → Option String
  | .emptyObject location | .noPredicates location => some location
  | .invalidOperand operator _ | .unknownOperator operator => some operator
  | .unknownField key _ | .invalidLiteral key _ _ => some key
  | .invalidNegate _ => some "negate"
  | .unknownAttribute name => some name
  | .malformed _ | .notObject _ | .emptyGroup _ | .notBoolean _ | .unrenderable _ => none

end FilterError

end Worklist.Filter
