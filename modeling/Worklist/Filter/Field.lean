import Worklist.Filter.Error
import Worklist.Text.Blank
import Worklist.Text.Lowercase
import Worklist.Text.Similarity

/-!
# Fields

A field is what a filter may ask about: the keys it goes by, the attribute of the record that it
stands for, and the kind of the attribute's values. A table of fields decides which keys a filter
may use and turns the JSON values it compares with into literals.
-/

namespace Worklist.Filter

/-- A field. -/
structure FieldDef where
  /-- The keys of the field. -/
  keys : List String
  /-- The attribute that the field stands for; also a key. -/
  target : String
  /-- The kind of the values. -/
  kind : ValueKind
  /-- Whether the attribute has several values. -/
  multi : Bool
  deriving Repr, DecidableEq

namespace FieldDef

/-- All keys by which a field goes. -/
def allKeys (d : FieldDef) : List String :=
  d.keys ++ [d.target]

/-- Whether a field goes by a key. -/
def acceptsKey (d : FieldDef) (key : String) : Bool :=
  d.allKeys.contains key

/-- A text, if the value is one. -/
def text? : Json → Option String
  | .string s => some s
  | _ => none

/-- The literal that a value stands for, if the field takes it. Numbers and booleans may also be
given as texts. -/
def literal? (d : FieldDef) (value : Json) : Option Literal :=
  match d.kind, value with
  | .text, .string s => some (.text s)
  | .text, .array items => if d.multi then (items.mapM text?).map .texts else none
  | .uuid, .string s => (Uuid.parse? s).map .uuid
  | .number, .number (.whole n) => (Text.toInt64? n).map .number
  | .number, .string s => (Text.int64? (Text.trim s.toList)).map .number
  | .bool, .bool b => some (.bool b)
  | .bool, .string s =>
    if s = "true" then some (.bool true)
    else if s = "false" then some (.bool false)
    else none
  | _, _ => none

/-- The literal that a value given under a key stands for. -/
def literal (d : FieldDef) (key : String) (value : Json) : Except FilterError Literal :=
  match d.literal? value with
  | some l => .ok l
  | none => .error (.invalidLiteral key value d.kind)

end FieldDef

/-- A table of fields. -/
abbrev FieldTable := List FieldDef

namespace FieldTable

/-- The first field that goes by a key. -/
def get? (t : FieldTable) (key : String) : Option FieldDef :=
  t.find? (·.acceptsKey key)

/-- The least similarity of a key that is suggested. -/
def suggestionThreshold : Float :=
  0.8

/-- The last of the best rated among those that are rated high enough. -/
def bestRated (rated : List (String × Float)) : Option (String × Float) :=
  (rated.filter fun (_, score) => suggestionThreshold ≤ score).foldl
    (fun best (key, score) =>
      match best with
      | some (_, top) => if top ≤ score then some (key, score) else best
      | none => some (key, score))
    none

/-- The key of the table that an unknown key is most like, if any is like it. -/
def suggest (t : FieldTable) (key : String) : Option String :=
  let rate := fun known =>
    Text.prefixedSimilarity (Text.lowercase key.toList) (Text.lowercase known.toList)
  (bestRated ((t.flatMap (·.allKeys)).map fun known => (known, rate known))).map (·.1)

/-- The field that goes by a key. -/
def resolve (t : FieldTable) (key : String) : Except FilterError FieldDef :=
  match t.get? key with
  | some d => .ok d
  | none => .error (.unknownField key (t.suggest key))

end FieldTable

end Worklist.Filter
