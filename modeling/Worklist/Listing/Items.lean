import Worklist.Listing.Query
import Worklist.Tracker.Scope

/-!
# Listing and searching work items

A dataset lists its work items in the order of their numbers; items with one number stay in the
order of the dataset. A search takes those of the listed items that have the number, or the text in
their title.
-/

namespace Worklist.Listing

open Worklist.Filter (Expression)
open Tracker (Dataset WorkItem)

/-- Whether a text occurs in another one. -/
def occursIn (needle : List Char) : List Char → Bool
  | [] => needle.isEmpty
  | c :: cs => needle.isPrefixOf (c :: cs) || occursIn needle cs

/-- Work items in the order of their numbers. -/
def sortByNumber (items : List WorkItem) : List WorkItem :=
  items.mergeSort fun a b => a.number ≤ b.number

/-- The work items that meet an expression, in order. -/
def matchingItems (d : Dataset) (filter : Option Expression) :
    Except ListingError (List WorkItem) :=
  match filter with
  | none => .ok (sortByNumber d.workItems)
  | some e =>
    match e.select WorkItem.record d.workItems with
    | .ok items => .ok (sortByNumber items)
    | .error err => .error (.badFilter err)

/-- The items of a page. -/
def pageOf (items : List WorkItem) (page : PageRequest) : Fetched WorkItem :=
  ⟨(items.drop page.offset).take page.limit, items.length⟩

/-- A dataset as a source of rows. -/
def itemSource (d : Dataset) : RowSource WorkItem where
  fetch filter page := (matchingItems d filter).map (pageOf · page)

/-- Whether the title of an item contains a text, in whatever case. -/
def titleContains (text : String) (w : WorkItem) : Bool :=
  occursIn (Text.lowercase text.toList) (Text.lowercase w.title.toList)

/-- The work items that a query finds among those that meet an expression, in order. -/
def foundItems (d : Dataset) (query : SearchQuery) (filter : Option Expression) :
    Except ListingError (List WorkItem) :=
  match query with
  | .text s => (matchingItems d filter).map (·.filter (titleContains s))
  | .number _ => matchingItems d (Filter.conjoin filter query.expression?.toList)

/-- Registers the host of a search, if there is one. -/
def registerFor (registry : HostRegistry) (host : Option String) :
    Except ListingError Unit × HostRegistry :=
  match host with
  | none => (.ok (), registry)
  | some h =>
    match registry.registerHost h with
    | (.ok _, registry) => (.ok (), registry)
    | (.error e, registry) => (.error (.registry e), registry)

/-- Searches with a registry that knows the host. -/
def searchWith (d : Dataset) (sizes : PageSizes) (r : ListRequest) (text : String)
    (registry : HostRegistry) : Except ListingError (Page WorkItem) := do
  let query ← SearchQuery.resolve text registry
  let filter ← r.userFilter
  let items ← foundItems d query filter
  return r.finish (r.page sizes) (pageOf items (r.page sizes))

/-- Searches the work items for a text. The links of `host` are recognized from now on. Gives the
page and the registry as it is left. -/
def search (d : Dataset) (sizes : PageSizes) (r : ListRequest) (text : String)
    (host : Option String) (registry : HostRegistry) :
    Except ListingError (Page WorkItem) × HostRegistry :=
  match registerFor registry host with
  | (.error e, registry) => (.error e, registry)
  | (.ok (), registry) => (searchWith d sizes r text registry, registry)

end Worklist.Listing
