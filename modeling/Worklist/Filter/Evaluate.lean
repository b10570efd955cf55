import Worklist.Filter.Error

/-!
# Evaluating expressions

A record gives every attribute it knows a value, which may be null. An expression is evaluated from
left to right: a group is settled by its first member with the decisive truth value, and members
behind that one are not looked at.

A multi-valued attribute equals a value if it contains it, and a set of texts if it has the same
elements.
-/

namespace Worklist.Filter

/-- The value of an attribute. -/
inductive Attribute where
  /-- No value. -/
  | null
  | text (s : String)
  /-- An identifier. -/
  | uuid (u : Uuid)
  /-- An integer. -/
  | number (n : Int64)
  /-- A boolean. -/
  | bool (b : Bool)
  /-- Several texts. -/
  | texts (items : List String)
  /-- Several identifiers. -/
  | uuids (items : List Uuid)
  deriving DecidableEq

/-- A record: the attributes it knows, with their values. -/
abbrev Record := String → Option Attribute

/-- Whether two lists have the same elements. -/
def sameElements (xs ys : List String) : Bool :=
  xs.all ys.contains && ys.all xs.contains

namespace Attribute

/-- Whether an attribute has no value. -/
def isNull : Attribute → Bool
  | .null => true
  | .texts items => items.isEmpty
  | .uuids items => items.isEmpty
  | _ => false

/-- Whether an attribute equals a literal. A text and an identifier are equal if the text is read
as that identifier. -/
def equals : Attribute → Literal → Bool
  | .text s, .text t => s == t
  | .text s, .uuid u => Uuid.parse? s == some u
  | .uuid u, .uuid v => u == v
  | .uuid u, .text t => Uuid.parse? t == some u
  | .number n, .number m => n == m
  | .bool b, .bool c => b == c
  | .texts items, .text t => items.contains t
  | .texts items, .texts wanted => sameElements items wanted
  | .uuids items, .uuid u => items.contains u
  | .uuids items, .text t => (Uuid.parse? t).any items.contains
  | _, _ => false

end Attribute

/-- The value of an attribute that the record has to know. -/
def lookup (r : Record) (name : String) : Except FilterError Attribute :=
  match r name with
  | some a => .ok a
  | none => .error (.unknownAttribute name)

namespace Expression

mutual

/-- Whether a record is wanted. -/
def evaluate (r : Record) : Expression → Except FilterError Bool
  | .literal (.bool b) => .ok b
  | .literal l => .error (.notBoolean (.literal l))
  | .field name => do
    match ← lookup r name with
    | .bool b => return b
    | .null => return false
    | _ => throw (.notBoolean (.field name))
  | .equals name l => (lookup r name).map (·.equals l)
  | .isNull name => (lookup r name).map (·.isNull)
  | .not e => (evaluate r e).map (!·)
  | .group c [] => .error (.emptyGroup c)
  | .group c members => evaluateMembers r c members

/-- Evaluates the members of a group up to the first that settles it. -/
def evaluateMembers (r : Record) (c : Connective) : List Expression → Except FilterError Bool
  | [] => .ok (!c.decisive)
  | e :: rest => do
    let b ← evaluate r e
    if b = c.decisive then return b else evaluateMembers r c rest

end

/-- The wanted ones of several things, in order. -/
def select {α : Type} (record : α → Record) (e : Expression) :
    List α → Except FilterError (List α)
  | [] => .ok []
  | x :: rest => do
    let b ← evaluate (record x) e
    let xs ← select record e rest
    return if b then x :: xs else xs

end Expression

end Worklist.Filter
