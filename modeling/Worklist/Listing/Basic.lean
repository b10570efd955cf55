import Worklist.Filter.Composition
import Worklist.Filter.Reader
import Worklist.Paging.Links
import Worklist.Registry.Basic
import Worklist.Tracker.Fields

/-!
# Listing rows

Every listing takes the same steps, whatever its rows are: the user's filter is read, the
constraints of the listing are added, one page of the rows that are left is fetched, and links to
the other pages go with it. If no row can be left, nothing is fetched.
-/

namespace Worklist.Listing

open Worklist.Filter (Composition Expression FilterError)

/-- Why a listing failed. -/
inductive ListingError where
  /-- The filter cannot be read or evaluated. -/
  | badFilter (e : FilterError)
  /-- There is nothing to search for. -/
  | emptyQuery
  /-- A host cannot be registered. -/
  | registry (e : RegistryError)
  /-- The rows cannot be fetched. -/
  | source (message : String)

/-- The text of an error. -/
def ListingError.message : ListingError → String
  | .badFilter e => "bad filter syntax: " ++ e.message
  | .emptyQuery => "search query must not be empty"
  | .registry e => "registry error: " ++ e.message
  | .source message => "row source error: " ++ message

/-- Some rows, and how many there are altogether. -/
structure Fetched (Row : Type) where
  /-- The rows of a page. -/
  rows : List Row
  /-- The number of rows of all pages. -/
  totalCount : Nat

/-- Where rows come from: the rows of a page that meet an expression, if there is one. -/
structure RowSource (Row : Type) where
  /-- Fetches a page. -/
  fetch : Option Expression → PageRequest → Except ListingError (Fetched Row)

/-- What a listing is asked for. -/
structure ListRequest where
  /-- The path of the listing. -/
  path : String
  filter : Option String
  /-- The number of rows before the page. -/
  offset : Option String
  /-- The number of rows of the page. -/
  limit : Option Int64
  /-- Fragments of the query that every link repeats. -/
  extra : List String

/-- A page of a listing. -/
structure Page (Row : Type) where
  rows : List Row
  /-- The number of rows of all pages. -/
  totalCount : Nat
  /-- The links to other pages. -/
  links : PageLinks
  /-- Which page it is. -/
  request : PageRequest

namespace ListRequest

/-- The page that is asked for. -/
def page (r : ListRequest) (sizes : PageSizes) : PageRequest :=
  .ofParams r.offset r.limit sizes

/-- The filter that is asked for. -/
def userFilter (r : ListRequest) : Except ListingError (Option Expression) :=
  (Filter.parse Tracker.workItemFields (r.filter.getD "")).mapError .badFilter

/-- The page with the rows that were fetched for it. -/
def finish {Row : Type} (r : ListRequest) (page : PageRequest) (fetched : Fetched Row) :
    Page Row where
  rows := fetched.rows
  totalCount := fetched.totalCount
  links := .build r.path page fetched.rows.length fetched.totalCount r.extra
  request := page

end ListRequest

/-- Fetches the rows that a composition leaves. Nothing is fetched if it leaves none. -/
def meet {Row : Type} (source : RowSource Row) (page : PageRequest) :
    Composition → Except ListingError (Fetched Row)
  | .emptyResult => .ok ⟨[], 0⟩
  | .filter e => source.fetch (some e) page
  | .unfiltered => source.fetch none page

/-- Lists a page. `scope` adds the constraints of the listing to the user's filter. -/
def list {Row : Type} (source : RowSource Row) (sizes : PageSizes) (r : ListRequest)
    (scope : Option Expression → Composition) : Except ListingError (Page Row) := do
  let filter ← r.userFilter
  let fetched ← meet source (r.page sizes) (scope filter)
  return r.finish (r.page sizes) fetched

/-- A page as a value. -/
def Page.toJson {Row : Type} (row : Row → Json) (p : Page Row) : Json :=
  .object [("data", .array (p.rows.map row)), ("total_count", .int p.totalCount),
    ("links", p.links.toJson), ("request", p.request.toJson)]

end Worklist.Listing
