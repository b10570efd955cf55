import Worklist.Filter.Field
import Worklist.Json.Reader

/-!
# Reading filters

A filter is a JSON object. Each of its members is a predicate: a field with the value it is to have,
with null if it is to have none, or with a list of values of which it is to have one; or a group of
filters. The predicates of one object hold together, and a negation mark turns the object into its
opposite. A blank text is no filter at all.

`ofJson` reads a value and `parse` a text.
-/

namespace Worklist.Filter

/-- The key of the list of values of which a field has one. -/
def inKey : String :=
  "$IN"

/-- The key of the negation mark. -/
def negateKey : String :=
  "negate"

/-- The key under which an object is reported that stands under no key. -/
def topLocation : String :=
  "filter"

/-- The key of a group. -/
def Connective.key (c : Connective) : String :=
  "$" ++ c.word

/-- What a member contributes to its object. -/
inductive Member where
  | predicate (e : Expression)
  /-- The negation mark. -/
  | negation (b : Bool)

namespace Member

/-- The predicates among members. -/
def predicates (ms : List Member) : List Expression :=
  ms.filterMap fun
    | .predicate e => some e
    | .negation _ => none

/-- Whether the members hold a negation mark that is set. The last mark counts. -/
def negated (ms : List Member) : Bool :=
  ms.foldl (fun b m => match m with
    | .predicate _ => b
    | .negation mark => mark) false

/-- The expression of an object that stands under `location` and has the given members. -/
def combine (location : String) (ms : List Member) : Except FilterError Expression :=
  match Expression.joinFlat .all (predicates ms) with
  | none => .error (.noPredicates location)
  | some e => .ok (if negated ms then .not e else e)

end Member

/-- The literals of a list of values given under a key. -/
def readLiterals (d : FieldDef) (key : String) : List Json → Except FilterError (List Literal)
  | [] => .ok []
  | v :: rest => do
    let l ← d.literal key v
    let ls ← readLiterals d key rest
    return l :: ls

/-- Reads the members of an operand of a field. Only a list of values is known. -/
def readOperand (d : FieldDef) (key : String) (found : Option Expression) :
    List (String × Json) → Except FilterError (Option Expression)
  | [] => .ok found
  | (op, values) :: rest => do
    if op ≠ inKey then throw (.unknownOperator op)
    match values with
    | .array items =>
      let ls ← readLiterals d key items
      readOperand d key (Expression.oneOf d.target ls) rest
    | other => throw (.invalidOperand inKey (.notArrayFor key other.kind))

/-- Reads the predicate of a field. -/
def readField (t : FieldTable) (key : String) (value : Json) : Except FilterError Expression := do
  let d ← t.resolve key
  match value with
  | .null => return .isNull d.target
  | .object [] => throw (.emptyObject key)
  | .object operand =>
    match ← readOperand d key none operand with
    | some e => return e
    | none => throw (.invalidOperand inKey (.noValues key))
  | v =>
    let l ← d.literal key v
    return .equals d.target l

mutual

/-- Reads a member. -/
def readMember (t : FieldTable) (key : String) (value : Json) : Except FilterError Member :=
  if key = Connective.all.key then (readGroup t .all value).map .predicate
  else if key = Connective.any.key then (readGroup t .any value).map .predicate
  else if key = negateKey then
    match value with
    | .bool b => .ok (.negation b)
    | v => .error (.invalidNegate v)
  else if key.toList.head? = some '$' then .error (.unknownOperator key)
  else (readField t key value).map .predicate

/-- Reads a group. -/
def readGroup (t : FieldTable) (c : Connective) : Json → Except FilterError Expression
  | .array [] => .error (.invalidOperand c.key .empty)
  | .array items => (readItems t c items).map (.group c)
  | v => .error (.invalidOperand c.key (.notArray v.kind))

/-- Reads the filters of a group. -/
def readItems (t : FieldTable) (c : Connective) : List Json → Except FilterError (List Expression)
  | [] => .ok []
  | .object members :: rest => do
    let e ← readObject t c.key members
    let es ← readItems t c rest
    return e :: es
  | v :: _ => .error (.invalidOperand c.key (.notFilter v.kind))

/-- Reads an object that stands under `location`. -/
def readObject (t : FieldTable) (location : String) (members : List (String × Json)) :
    Except FilterError Expression :=
  match members with
  | [] => .error (.emptyObject location)
  | m :: ms => do
    let read ← readMembers t (m :: ms)
    Member.combine location read

/-- Reads the members of an object in order. -/
def readMembers (t : FieldTable) : List (String × Json) → Except FilterError (List Member)
  | [] => .ok []
  | (key, value) :: rest => do
    let m ← readMember t key value
    let ms ← readMembers t rest
    return m :: ms

end

/-- Reads a filter from a value. -/
def ofJson (t : FieldTable) : Json → Except FilterError Expression
  | .object members => readObject t topLocation members
  | v => .error (.notObject v.kind)

/-- Reads a filter from a text. A blank text is no filter. -/
def parse (t : FieldTable) (s : String) : Except FilterError (Option Expression) :=
  match Text.trim s.toList with
  | [] => .ok none
  | cs =>
    match Json.parse cs with
    | .error fault => .error (.malformed fault)
    | .ok v => (ofJson t v).map some

end Worklist.Filter
