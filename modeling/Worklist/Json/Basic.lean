import Worklist.Decimal.Shortest
import Worklist.Text.Numeral

/-!
# JSON values

The values that filters, datasets and reports are made of. Members of an object keep the order in
which their keys first appear, because that order is visible in what is written.
-/

namespace Worklist

/-- A JSON number: a whole number from `-2 ^ 63` to `2 ^ 64 - 1`, or a finite floating point
number. -/
inductive Json.Number where
  /-- A number written without fraction and exponent that fits a 64-bit word. -/
  | whole (n : Int)
  /-- Any other number. -/
  | real (x : Float)
  deriving DecidableEq

/-- A JSON value. -/
inductive Json where
  /-- The null value. -/
  | null
  /-- A boolean. -/
  | bool (b : Bool)
  | number (n : Json.Number)
  /-- A text. -/
  | string (s : String)
  /-- A list of values. -/
  | array (items : List Json)
  /-- Named values, in order. -/
  | object (members : List (String × Json))
  deriving Inhabited

namespace Json

/-- The whole number `n` as a value. -/
def int (n : Int) : Json :=
  .number (.whole n)

/-- A list of texts as a value. -/
def strings (xs : List String) : Json :=
  .array (xs.map .string)

/-- A member that is left out if it has no value. -/
def optionalMember {α : Type} (key : String) (toJson : α → Json) (value : Option α) :
    List (String × Json) :=
  match value with
  | some x => [(key, toJson x)]
  | none => []

/-- The kinds of values. -/
inductive Kind where
  | null
  /-- A boolean. -/
  | bool
  | number
  /-- A text. -/
  | string
  /-- A list. -/
  | array
  | object
  deriving Repr, DecidableEq

/-- The kind of a value. -/
def kind : Json → Kind
  | .null => .null
  | .bool _ => .bool
  | .number _ => .number
  | .string _ => .string
  | .array _ => .array
  | .object _ => .object

/-- A kind as it is named in a message. -/
def Kind.describe : Kind → String
  | .null => "null"
  | .bool => "a boolean"
  | .number => "a number"
  | .string => "a string"
  | .array => "an array"
  | .object => "an object"

/-- Sets a member: in its old place if the key is present, at the end otherwise. -/
def put (key : String) (value : Json) : List (String × Json) → List (String × Json)
  | [] => [(key, value)]
  | (k, v) :: rest => if k = key then (k, value) :: rest else (k, v) :: put key value rest

/-- The members that remain when a key that is written again replaces the earlier value. -/
def collect (members : List (String × Json)) : List (String × Json) :=
  members.foldl (fun acc (k, v) => put k v acc) []

/-- The value of a member. -/
def member? (key : String) : Json → Option Json
  | .object members => members.lookup key
  | _ => none

namespace Number

/-- The text of a number in fixed or exponent notation. Fixed notation is used while the first
digit stands between the fifth place after the point and the sixteenth before it; it always has a
point. The exponent is always signed. -/
def scaledText (s : Decimal.Scaled) : List Char :=
  let digits := Text.decimal s.digits
  let first := s.exponent + digits.length - 1
  if 0 ≤ first ∧ first < 16 then
    let whole := first.toNat + 1
    if digits.length ≤ whole then
      digits ++ List.replicate (whole - digits.length) '0' ++ ['.', '0']
    else digits.take whole ++ '.' :: digits.drop whole
  else if -5 ≤ first ∧ first < 0 then
    ['0', '.'] ++ List.replicate (-first - 1).toNat '0' ++ digits
  else
    let fraction := if digits.length = 1 then [] else '.' :: digits.drop 1
    digits.take 1 ++ fraction ++ 'e' ::
      if first < 0 then Text.decimalInt first else '+' :: Text.decimal first.toNat

/-- The text of a floating point number: the shortest decimal that reads back. -/
def realText (x : Float) : List Char :=
  let sign := if x.toBits.toNat < Decimal.signUnit then [] else ['-']
  if x.toBits.toNat % Decimal.signUnit = 0 then sign ++ ['0', '.', '0']
  else sign ++ scaledText (Decimal.shortest x)

/-- The text of a number. -/
def text : Number → List Char
  | .whole n => Text.decimalInt n
  | .real x => realText x

end Number

end Json

end Worklist
