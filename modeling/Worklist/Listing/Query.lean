import Worklist.Listing.Basic

/-!
# Search queries

What is searched for is a number or a text. A link to a work item of a known host stands for its
number, as does a number after the word for it; anything else is a text.
-/

namespace Worklist.Listing

open Worklist.Filter (Expression)

/-- What is searched for. -/
inductive SearchQuery where
  /-- A text in the title, in whatever case. -/
  | text (s : String)
  | number (n : Int64)
  deriving DecidableEq

namespace SearchQuery

/-- What stands before a number. -/
def numberPrefix : List Char :=
  "number:".toList

/-- The number of a link. -/
def ofLink? (registry : HostRegistry) (text : List Char) : Option Int64 := do
  let m ← registry.matchUrl (String.ofList text)
  let digits ← m.capture? numberCapture
  Text.int64? digits.toList

/-- A number after the word for it. -/
def ofNumber? (text : List Char) : Option Int64 :=
  if numberPrefix.isPrefixOf text then
    Text.int64? (Text.trim (text.drop numberPrefix.length))
  else none

/-- What a text that is not blank asks for. -/
def resolve (text : String) (registry : HostRegistry) : Except ListingError SearchQuery :=
  match Text.trim text.toList with
  | [] => .error .emptyQuery
  | cs =>
    match (ofLink? registry cs).or (ofNumber? cs) with
    | some n => .ok (.number n)
    | none => .ok (.text (String.ofList cs))

/-- A query as an expression, if there is one that says the same. -/
def expression? : SearchQuery → Option Expression
  | .number n => some (.equals Tracker.numberAttribute (.number n))
  | .text _ => none

end SearchQuery

end Worklist.Listing
