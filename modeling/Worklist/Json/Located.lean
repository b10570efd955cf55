import Worklist.Json.Basic
import Worklist.Json.Place

/-!
# JSON values with their places

What a text says, value by value, before anyone has decided what it is wanted for. Every value
knows where it stands. A part that breaks off or cannot be represented stays in the tree with its
fault, so that of several faults the one that a consumer meets first is the one it reports.

`Located.value` takes the tree for what it is, `Located.skipFault?` passes over it, and
`Located.ofJson` makes a tree without places from a value.
-/

namespace Worklist.Json

/-- The places before and after a value. -/
structure Span where
  /-- Before the first character. -/
  start : Place
  /-- After the last character. -/
  stop : Place
  deriving Repr, DecidableEq

/-- The key of a member. -/
structure Key where
  /-- The key itself. -/
  name : String
  /-- The place after the key, the blanks behind it, and a closing brace if one follows there. -/
  stop : Option Place
  /-- What makes the key unusable, if anything. -/
  fault : Option Fault
  deriving Repr, DecidableEq

/-- A value with its places; without places if it does not come from a text. -/
inductive Located where
  /-- The null value. -/
  | null (span : Option Span)
  /-- A boolean. -/
  | bool (span : Option Span) (b : Bool)
  | number (span : Option Span) (n : Number)
  /-- A text. -/
  | string (span : Option Span) (s : String)
  /-- A list, and what is wrong after its last item, if anything. -/
  | array (span : Option Span) (items : List Located) (ending : Option Fault)
  /-- An object, and what is wrong after its last member, if anything. -/
  | object (span : Option Span) (members : List (Key × Located)) (ending : Option Fault)
  /-- A value that cannot be had: the fault it gives when it is wanted, and the fault it gives when
  it is skipped, if it gives one then. -/
  | unreadable (start : Place) (fault : Fault) (skipped : Option Fault)
  deriving Inhabited

namespace Located

/-- The places of a value. -/
def span? : Located → Option Span
  | .null s | .bool s _ | .number s _ | .string s _ | .array s _ _ | .object s _ _ => s
  | .unreadable start fault _ => some ⟨start, fault.place⟩

/-- The place before a value. -/
def start? (l : Located) : Option Place :=
  l.span?.map (·.start)

/-- The place after a value. -/
def stop? (l : Located) : Option Place :=
  l.span?.map (·.stop)

/-- Fails with a fault if there is one. -/
def refuse (fault : Option Fault) : Except Fault Unit :=
  match fault with
  | some f => .error f
  | none => .ok ()

mutual

/-- The value itself, or the first fault in it. Of members with one key the last counts. -/
def value : Located → Except Fault Json
  | .null _ => .ok .null
  | .bool _ b => .ok (.bool b)
  | .number _ n => .ok (.number n)
  | .string _ s => .ok (.string s)
  | .array _ items ending => do
    let vs ← itemValues items
    refuse ending
    return .array vs
  | .object _ members ending => do
    let ms ← memberValues members
    refuse ending
    return .object (collect ms)
  | .unreadable _ fault _ => .error fault

/-- The values of items. -/
def itemValues : List Located → Except Fault (List Json)
  | [] => .ok []
  | l :: rest => do
    let v ← value l
    let vs ← itemValues rest
    return v :: vs

/-- The values of members with their keys. -/
def memberValues : List (Key × Located) → Except Fault (List (String × Json))
  | [] => .ok []
  | (k, l) :: rest => do
    refuse k.fault
    let v ← value l
    let vs ← memberValues rest
    return (k.name, v) :: vs

end

mutual

/-- What is wrong with a value that is skipped. -/
def skipFault? : Located → Option Fault
  | .null _ | .bool _ _ | .number _ _ | .string _ _ => none
  | .array _ items ending => (itemsSkipFault? items).or (ending.map (·.whenSkipped))
  | .object _ members ending => (membersSkipFault? members).or (ending.map (·.whenSkipped))
  | .unreadable _ _ skipped => skipped.map (·.whenSkipped)

/-- What is wrong with items that are skipped. -/
def itemsSkipFault? : List Located → Option Fault
  | [] => none
  | l :: rest => (skipFault? l).or (itemsSkipFault? rest)

/-- What is wrong with members that are skipped. -/
def membersSkipFault? : List (Key × Located) → Option Fault
  | [] => none
  | (_, l) :: rest => (skipFault? l).or (membersSkipFault? rest)

end

mutual

/-- A value that does not come from a text. -/
def ofJson : Json → Located
  | .null => .null none
  | .bool b => .bool none b
  | .number n => .number none n
  | .string s => .string none s
  | .array items => .array none (ofItems items) none
  | .object members => .object none (ofMembers members) none

/-- Items that do not come from a text. -/
def ofItems : List Json → List Located
  | [] => []
  | v :: rest => ofJson v :: ofItems rest

/-- Members that do not come from a text. -/
def ofMembers : List (String × Json) → List (Key × Located)
  | [] => []
  | (k, v) :: rest => (⟨k, none, none⟩, ofJson v) :: ofMembers rest

end

end Located

end Worklist.Json
