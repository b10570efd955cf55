import Worklist.Json.Basic
import Worklist.Text.Quoted
import Worklist.Uuid

/-!
# Filter expressions

An expression says of a record whether it is wanted. Its leaves compare an attribute with a literal
or ask whether the attribute has a value; above them stand negations and groups. A group joins any
number of expressions by one connective. The two connectives differ only in the truth value that
settles a group, so everything about groups is said once for both.

A literal or an attribute on its own is an expression too; only a boolean one has a truth value.
-/

namespace Worklist

namespace Filter

/-- A value that an attribute is compared with. -/
inductive Literal where
  | text (s : String)
  /-- An identifier. -/
  | uuid (u : Uuid)
  /-- An integer. -/
  | number (n : Int64)
  /-- A boolean. -/
  | bool (b : Bool)
  /-- A set of texts. -/
  | texts (items : List String)
  deriving DecidableEq

namespace Literal

/-- A literal as a JSON value. -/
def toJson : Literal → Json
  | .text s => .string s
  | .uuid u => .string u.text
  | .number n => .int n.toInt
  | .bool b => .bool b
  | .texts items => .strings items

/-- A literal as it is displayed. -/
def display : Literal → String
  | .text s => Text.quoted s
  | .uuid u => u.text
  | .number n => String.ofList (Text.decimalInt n.toInt)
  | .bool b => if b then "true" else "false"
  | .texts items => Text.quotedList items

end Literal

/-- How the members of a group are joined. -/
inductive Connective where
  /-- All members hold. -/
  | all
  /-- Some member holds. -/
  | any
  deriving Repr, DecidableEq

namespace Connective

/-- The word that stands for a connective. -/
def word : Connective → String
  | .all => "AND"
  | .any => "OR"

/-- The truth value of one member that settles the group. -/
def decisive : Connective → Bool
  | .all => false
  | .any => true

end Connective

/-- A filter expression. -/
inductive Expression where
  /-- A literal on its own. -/
  | literal (l : Literal)
  /-- An attribute on its own. -/
  | field (name : String)
  /-- The attribute equals the literal. -/
  | equals (name : String) (l : Literal)
  /-- The attribute has no value. -/
  | isNull (name : String)
  /-- The expression does not hold. -/
  | not (e : Expression)
  /-- The members hold together, or some member holds. -/
  | group (c : Connective) (members : List Expression)
  deriving Inhabited

namespace Expression

mutual

/-- Whether two expressions are the same. -/
def decEq : (a b : Expression) → Decidable (a = b)
  | .literal l, .literal m =>
    if h : l = m then .isTrue (by rw [h]) else .isFalse fun e => h (by injection e)
  | .field a, .field b =>
    if h : a = b then .isTrue (by rw [h]) else .isFalse fun e => h (by injection e)
  | .equals a l, .equals b m =>
    if h : a = b ∧ l = m then .isTrue (by rw [h.1, h.2])
    else .isFalse fun e => h (by injection e with h₁ h₂; exact ⟨h₁, h₂⟩)
  | .isNull a, .isNull b =>
    if h : a = b then .isTrue (by rw [h]) else .isFalse fun e => h (by injection e)
  | .not a, .not b =>
    match decEq a b with
    | .isTrue h => .isTrue (by rw [h])
    | .isFalse h => .isFalse fun e => h (by injection e)
  | .group c xs, .group d ys =>
    if hc : c = d then
      match decEqList xs ys with
      | .isTrue h => .isTrue (by rw [hc, h])
      | .isFalse h => .isFalse fun e => h (by injection e)
    else .isFalse fun e => hc (by injection e)
  | .literal _, .field _ | .literal _, .equals _ _ | .literal _, .isNull _ | .literal _, .not _
  | .literal _, .group _ _ | .field _, .literal _ | .field _, .equals _ _ | .field _, .isNull _
  | .field _, .not _ | .field _, .group _ _ | .equals _ _, .literal _ | .equals _ _, .field _
  | .equals _ _, .isNull _ | .equals _ _, .not _ | .equals _ _, .group _ _
  | .isNull _, .literal _ | .isNull _, .field _ | .isNull _, .equals _ _ | .isNull _, .not _
  | .isNull _, .group _ _ | .not _, .literal _ | .not _, .field _ | .not _, .equals _ _
  | .not _, .isNull _ | .not _, .group _ _ | .group _ _, .literal _ | .group _ _, .field _
  | .group _ _, .equals _ _ | .group _ _, .isNull _ | .group _ _, .not _ =>
    .isFalse (by intro h; injection h)

/-- Whether two lists of expressions are the same. -/
def decEqList : (xs ys : List Expression) → Decidable (xs = ys)
  | [], [] => .isTrue rfl
  | [], _ :: _ => .isFalse (by intro h; injection h)
  | _ :: _, [] => .isFalse (by intro h; injection h)
  | x :: xs, y :: ys =>
    match decEq x y, decEqList xs ys with
    | .isTrue h, .isTrue hs => .isTrue (by rw [h, hs])
    | .isFalse h, _ => .isFalse fun e => h (by injection e)
    | _, .isFalse hs => .isFalse fun e => hs (by injection e)

end

instance : DecidableEq Expression :=
  decEq

/-- The members of a group with the given connective; any other expression is its own member. -/
def spliced (c : Connective) : Expression → List Expression
  | .group d members => if d = c then members else [.group d members]
  | e => [e]

/-- Joins members; one member stands on its own, and no members give no expression. -/
def joinFlat (c : Connective) : List Expression → Option Expression
  | [] => none
  | [e] => some e
  | members => some (.group c members)

/-- Joins expressions. Groups of the same connective among them are taken apart, so that joining
step by step does not nest. -/
def join (c : Connective) (es : List Expression) : Option Expression :=
  joinFlat c (es.flatMap (spliced c))

/-- The comparisons of an attribute with one of several values. -/
def oneOf (name : String) (values : List Literal) : Option Expression :=
  joinFlat .any (values.map (.equals name))

mutual

/-- The attributes that an expression names, in order. -/
def fields : Expression → List String
  | .literal _ => []
  | .field name => [name]
  | .equals name _ => [name]
  | .isNull name => [name]
  | .not e => fields e
  | .group _ members => fieldsOf members

/-- The attributes that several expressions name, in order. -/
def fieldsOf : List Expression → List String
  | [] => []
  | e :: rest => fields e ++ fieldsOf rest

end

mutual

/-- An expression as it is displayed. -/
def display : Expression → String
  | .literal l => l.display
  | .field name => name
  | .equals name l => name ++ " = " ++ l.display
  | .isNull name => name ++ " IS NULL"
  | .not e => "NOT " ++ display e
  | .group c members => "(" ++ displayMembers c true members ++ ")"

/-- The members of a group as they are displayed; the first has no connective in front. -/
def displayMembers (c : Connective) (first : Bool) : List Expression → String
  | [] => ""
  | e :: rest =>
    (if first then "" else " " ++ c.word ++ " ") ++ display e ++ displayMembers c false rest

end

end Expression

end Filter

end Worklist
