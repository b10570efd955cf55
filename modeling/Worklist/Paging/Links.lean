import Worklist.Paging.Request
import Worklist.Json.Basic

/-!
# Links between pages

With a page come the places of the first, the previous, the next and the last one. They need not lie
on multiples of the page size: the pages before a page end where it starts, so the first of them may
be shorter. From a page behind the last row the way back is taken in whole pages until a page meets
the end of the rows.
-/

namespace Worklist

/-- Some consecutive rows. -/
structure PageRange where
  /-- The number of rows before them. -/
  offset : Nat
  /-- How many there are. -/
  limit : Nat
  deriving Repr, DecidableEq

namespace PageRange

/-- The rows from `start` on; those before the first row do not count. -/
def clamped (start limit : Int) : PageRange :=
  if start < 0 then ⟨0, (limit + start).toNat⟩ else ⟨start.toNat, limit.toNat⟩

/-- The address of a page, with further fragments of the query behind it. -/
def url (path : String) (extra : List String) (r : PageRange) : String :=
  path ++ "?page[offset]=" ++ String.ofList (Text.decimal r.offset) ++
    "&page[limit]=" ++ String.ofList (Text.decimal r.limit) ++
    String.join (extra.map ("&" ++ ·))

end PageRange

/-- The pages around a page. -/
structure PageRanges where
  /-- The first page. -/
  first : PageRange
  /-- The page before, if there are rows before. -/
  prev : Option PageRange
  /-- The page after, if there are rows after. -/
  next : Option PageRange
  /-- The last page. -/
  last : PageRange
  deriving Repr, DecidableEq

namespace PageRanges

/-- The start of the page that meets the end of `count` rows, going back from `offset` behind it in
whole pages. -/
def retreat (offset limit count : Int) : Int :=
  offset - ((offset - count) / limit + 1) * limit

/-- The start of the page before. -/
def prevStart (offset limit count : Int) : Int :=
  if offset ≤ count then offset - limit else retreat offset limit count

/-- The start of the last page. -/
def lastStart (offset limit count : Int) : Int :=
  if offset < count then offset + (count - offset - 1) / limit * limit
  else retreat offset limit count

/-- The row after a page, as far as a signed word can count. -/
def nextStart (offset found : Int) : Int :=
  min (offset + found) Text.maxInt64

/-- The pages around a page on which `found` of `count` rows stand. -/
def around (page : PageRequest) (found count : Nat) : PageRanges :=
  let offset := PageRequest.saturate page.offset
  let limit := PageRequest.saturate page.limit
  let found := PageRequest.saturate found
  let count := PageRequest.saturate count
  { first := ⟨0, (if 0 < offset then offset % limit else limit).toNat⟩
    prev := if 0 < offset ∧ 0 < count then
        some (.clamped (prevStart offset limit count) limit)
      else none
    next := if nextStart offset found < count then
        some ⟨(nextStart offset found).toNat, limit.toNat⟩
      else none
    last := .clamped (lastStart offset limit count) limit }

end PageRanges

/-- The addresses of the pages around a page. -/
structure PageLinks where
  /-- The first page. -/
  first : String
  /-- The page before. -/
  prev : Option String
  /-- The page after. -/
  next : Option String
  /-- The last page. -/
  last : String
  deriving Repr, DecidableEq

namespace PageLinks

/-- The addresses of pages. -/
def ofRanges (path : String) (extra : List String) (r : PageRanges) : PageLinks where
  first := r.first.url path extra
  prev := r.prev.map (·.url path extra)
  next := r.next.map (·.url path extra)
  last := r.last.url path extra

/-- The links around a page on which `found` of `count` rows stand. -/
def build (path : String) (page : PageRequest) (found count : Nat) (extra : List String) :
    PageLinks :=
  .ofRanges path extra (.around page found count)

/-- Links as a value. -/
def toJson (l : PageLinks) : Json :=
  .object ([("first", .string l.first)] ++
    (l.prev.map fun s => ("prev", Json.string s)).toList ++
    (l.next.map fun s => ("next", Json.string s)).toList ++
    [("last", .string l.last)])

end PageLinks

/-- A request as a value. -/
def PageRequest.toJson (r : PageRequest) : Json :=
  .object [("offset", .int r.offset), ("limit", .int r.limit)]

end Worklist
