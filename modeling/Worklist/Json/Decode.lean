import Worklist.Json.Located
import Worklist.Text.Quoted
import Worklist.Timestamp.Reader
import Worklist.Uuid

/-!
# Decoding typed values

What a value has to be, and what is said when it is not. A decoder takes a tree with places and
reports the first thing that is wrong in the order of the text: a fault of the text itself, a value
of another type, a member that comes twice. Members that are missing are noticed at the end of
their object.

A record may also be written as the list of its fields in order.
-/

namespace Worklist.Json

/-- Why a value could not be decoded. -/
inductive DecodeCause where
  /-- The text is not JSON. -/
  | fault (cause : FaultCause)
  /-- A value of another type. -/
  | wrongType (found expected : String)
  /-- A whole number that does not fit. -/
  | wrongNumber (n : Int) (expected : String)
  /-- A list or object of the wrong size. -/
  | wrongLength (n : Nat) (expected : String)
  /-- A member that must be there is not. -/
  | missing (field : String)
  /-- A member comes twice. -/
  | duplicate (field : String)
  /-- A text that is not an identifier. -/
  | uuid (fault : Uuid.Fault)
  /-- A text that is not a timestamp. -/
  | timestamp (fault : Timestamp.Fault)
  deriving DecidableEq

/-- The text of a cause. -/
def DecodeCause.message : DecodeCause → String
  | .fault cause => cause.message
  | .wrongType found expected => "invalid type: " ++ found ++ ", expected " ++ expected
  | .wrongNumber n expected =>
    "invalid value: integer `" ++ String.ofList (Text.decimalInt n) ++ "`, expected " ++ expected
  | .wrongLength n expected =>
    "invalid length " ++ String.ofList (Text.decimal n) ++ ", expected " ++ expected
  | .missing field => "missing field `" ++ field ++ "`"
  | .duplicate field => "duplicate field `" ++ field ++ "`"
  | .uuid f => "UUID parsing failed: " ++ f.message
  | .timestamp f => f.message

/-- Why and where decoding failed. The place is missing if the value does not come from a text. -/
structure DecodeError where
  /-- What is wrong. -/
  cause : DecodeCause
  /-- The place that is reported. -/
  place : Option Place
  deriving DecidableEq

namespace DecodeError

/-- A fault of the text. -/
def ofFault (f : Fault) : DecodeError :=
  ⟨.fault f.cause, some f.place⟩

/-- The text of an error. -/
def message (e : DecodeError) : String :=
  match e.place with
  | some p => placed e.cause.message p
  | none => e.cause.message

end DecodeError

/-- How a number is named in a message. -/
def Number.describe (n : Number) : String :=
  match n with
  | .whole _ => "integer `" ++ String.ofList n.text ++ "`"
  | .real _ => "floating point `" ++ String.ofList n.text ++ "`"

namespace Located

/-- Fails with a fault if there is one. -/
def halt (fault : Option Fault) : Except DecodeError Unit :=
  match fault with
  | some f => .error (.ofFault f)
  | none => .ok ()

/-- A value of another type than the expected one. It is reported behind a value without parts, and
in front of a list or an object. -/
def mismatch (l : Located) (expected : String) : DecodeError :=
  match l with
  | .null _ => ⟨.wrongType "null" expected, l.stop?⟩
  | .bool _ b => ⟨.wrongType (if b then "boolean `true`" else "boolean `false`") expected, l.stop?⟩
  | .number _ n => ⟨.wrongType n.describe expected, l.stop?⟩
  | .string _ s => ⟨.wrongType ("string " ++ Text.quoted s) expected, l.stop?⟩
  | .array _ _ _ => ⟨.wrongType "sequence" expected, l.start?⟩
  | .object _ _ _ => ⟨.wrongType "map" expected, l.start?⟩
  | .unreadable _ fault _ => .ofFault fault

/-- A text, for which messages use the given words. -/
def textAs (expected : String) (l : Located) : Except DecodeError String :=
  match l with
  | .string _ s => .ok s
  | _ => .error (l.mismatch expected)

/-- A text. -/
def text (l : Located) : Except DecodeError String :=
  l.textAs "a string"

/-- A boolean. -/
def boolean (l : Located) : Except DecodeError Bool :=
  match l with
  | .bool _ b => .ok b
  | _ => .error (l.mismatch "a boolean")

/-- A whole number that fits what is wanted. -/
def whole {α : Type} (fit? : Int → Option α) (expected : String) (l : Located) :
    Except DecodeError α :=
  match l with
  | .number _ (.whole n) =>
    match fit? n with
    | some x => .ok x
    | none => .error ⟨.wrongNumber n expected, l.stop?⟩
  | _ => .error (l.mismatch expected)

/-- A signed 64-bit integer. -/
def int64 (l : Located) : Except DecodeError Int64 :=
  l.whole Text.toInt64? "i64"

/-- An unsigned 64-bit integer. -/
def word (l : Located) : Except DecodeError Nat :=
  l.whole (fun n => if 0 ≤ n ∧ n ≤ Text.maxUInt64 then some n.toNat else none) "usize"

/-- An identifier. -/
def uuid (l : Located) : Except DecodeError Uuid := do
  let s ← l.textAs "a formatted UUID string"
  match Uuid.parse? s with
  | some u => return u
  | none => throw ⟨.uuid (Uuid.fault s.toList), l.stop?⟩

/-- A timestamp. -/
def timestamp (l : Located) : Except DecodeError Timestamp := do
  let s ← l.textAs "an RFC 3339 formatted date and time string"
  match Timestamp.parse s with
  | .ok t => return t
  | .error fault => throw ⟨.timestamp fault, l.stop?⟩

/-- A value that may be null. -/
def optional {α : Type} (read : Located → Except DecodeError α) (l : Located) :
    Except DecodeError (Option α) :=
  match l with
  | .null _ => .ok none
  | _ => (read l).map some

/-- A list of values. -/
def list {α : Type} (read : Located → Except DecodeError α) (l : Located) :
    Except DecodeError (List α) :=
  match l with
  | .array _ items ending => do
    let xs ← items.mapM read
    halt ending
    return xs
  | _ => .error (l.mismatch "a sequence")

end Located

/-! ### Records -/

/-- A field of a record. -/
structure RecordField (α : Type) where
  /-- The key of the member. -/
  name : String
  /-- How its value is read. -/
  read : Located → Except DecodeError α
  /-- What a missing value stands for, if it may be missing. -/
  ifMissing : Option α

namespace RecordField

/-- A field that must be given. -/
def required {α : Type} (name : String) (read : Located → Except DecodeError α) : RecordField α :=
  ⟨name, read, none⟩

/-- A field with a default. -/
def withDefault {α : Type} (name : String) (read : Located → Except DecodeError α) (value : α) :
    RecordField α :=
  ⟨name, read, some value⟩

/-- A field that may be missing or null. -/
def nullable {α : Type} (name : String) (read : Located → Except DecodeError α) :
    RecordField (Option α) :=
  .withDefault name (·.optional read) none

end RecordField

/-- What has to be known of a field while a record is checked. -/
structure FieldRule where
  /-- The key of the member. -/
  name : String
  /-- What is wrong with a value, if anything. -/
  check : Located → Except DecodeError Unit
  /-- Whether the value must be there. -/
  needed : Bool

/-- The rule of a field. -/
def RecordField.rule {α : Type} (f : RecordField α) : FieldRule where
  name := f.name
  check l := (f.read l).map fun _ => ()
  needed := f.ifMissing.isNone

/-- The values that a record gives to its fields. -/
structure Slots where
  /-- The values with the names of their fields. -/
  values : List (String × Located)

/-- The value of a field. The record has been checked, so a field that must be given is there. -/
def Slots.get {α : Type} (slots : Slots) (f : RecordField α) : Except DecodeError α :=
  match slots.values.lookup f.name with
  | some l => f.read l
  | none =>
    match f.ifMissing with
    | some value => .ok value
    | none => .error ⟨.missing f.name, none⟩

/-- Checks members in order: a known one must not come twice and must have a value that its field
takes, an unknown one is skipped. Gives the known ones. -/
def checkMembers (rules : List FieldRule) (seen : List (String × Located)) :
    List (Key × Located) → Except DecodeError (List (String × Located))
  | [] => .ok seen
  | (key, l) :: rest => do
    Located.halt key.fault
    match rules.find? (·.name == key.name) with
    | some rule =>
      if (seen.lookup key.name).isSome then throw ⟨.duplicate key.name, key.stop⟩
      rule.check l
      checkMembers rules (seen ++ [(key.name, l)]) rest
    | none =>
      Located.halt l.skipFault?
      checkMembers rules seen rest

/-- Checks the items of a list against the fields in order. `count` is how many items there were
before; `what` names the record with its number of fields. -/
def checkItems (what : String) (stop : Option Place) (ending : Option Fault) (count : Nat) :
    List FieldRule → List Located → Except DecodeError (List (String × Located))
  | rule :: rules, l :: rest => do
    rule.check l
    let slots ← checkItems what stop ending (count + 1) rules rest
    return (rule.name, l) :: slots
  | rule :: rules, [] => do
    Located.halt ending
    if rule.needed then throw ⟨.wrongLength count what, stop⟩
    checkItems what stop ending (count + 1) rules []
  | [], l :: rest =>
    match l.start? with
    | some start => .error ⟨.fault .trailing, some (start.plus 1)⟩
    | none =>
      .error ⟨.wrongLength (count + (l :: rest).length) "fewer elements in array", none⟩
  | [], [] => do
    Located.halt (ending.map (·.whenComplete))
    return []

/-- Checks a record and gives the values of its fields. -/
def Located.record (what : String) (rules : List FieldRule) (l : Located) :
    Except DecodeError Slots :=
  match l with
  | .object _ members ending => do
    let values ← checkMembers rules [] members
    Located.halt ending
    match rules.find? fun rule => rule.needed && (values.lookup rule.name).isNone with
    | some rule => throw ⟨.missing rule.name, l.stop?⟩
    | none => return ⟨values⟩
  | .array _ items ending => do
    let count := String.ofList (Text.decimal rules.length)
    let values ← checkItems ("struct " ++ what ++ " with " ++ count ++ " elements") l.stop? ending
      0 rules items
    return ⟨values⟩
  | _ => .error (l.mismatch ("struct " ++ what))

end Worklist.Json
