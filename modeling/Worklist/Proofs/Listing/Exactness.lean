import Worklist.Proofs.Except
import Worklist.Proofs.Listing.Order
import Worklist.Proofs.Tracker.Scope

/-!
# Listings are exact

A listing answers every request whose filter can be read, with a page of the items that meet the
filter and that the listing shows, in order. The filter can neither add items that the listing does
not show nor fail on an item.
-/

namespace Worklist.Listing

open Worklist.Filter (Composition Expression FilterError meetsFilter)
open Tracker (Dataset OnBacklog Shows WorkItem backlogIterations_of_no_root
  backlogScope_eq_emptyResult_iff not_onBacklog plannerTypes_eq_nil_iff settled_of_parse
  wants_listScope workItemFields)

variable {d : Dataset} {r : ListRequest} {sizes : PageSizes} {f : Option Expression}

/-! ### Fetching -/

/-- The items that a composition leaves, if every item gives it a truth value. -/
theorem meet_itemSource {c : Composition} (h : ∀ w ∈ d.workItems, c.Settled w.record)
    (page : PageRequest) :
    meet (itemSource d) page c =
      .ok (pageOf (sortByNumber (d.workItems.filter (c.wants ·.record))) page) := by
  cases c with
  | unfiltered => simp [meet, itemSource, matchingItems, Except.map, Composition.wants]
  | filter e =>
    have hSelect := Filter.Expression.select_of_settled WorkItem.record fun w hw => h w hw e rfl
    simp only [meet, itemSource, matchingItems, hSelect, Except.map]
    rfl
  | emptyResult => simp [meet, pageOf, sortByNumber, Composition.wants]

/-! ### Answers -/

/-- The items that meet the filter of a user and that the listing shows. -/
def wantedItems (d : Dataset) (space : Option Uuid) (backlog : Bool) (filter : Option Expression) :
    List WorkItem :=
  d.workItems.filter fun w => meetsFilter w.record filter && decide (Shows d space backlog w)

theorem length_wantedItems_le (space : Option Uuid) (backlog : Bool) :
    (wantedItems d space backlog f).length ≤ d.workItems.length :=
  List.length_filter_le _ _

theorem list_eq_ok (h : Filter.parse workItemFields (r.filter.getD "") = .ok f)
    (space : Option Uuid) (backlog : Bool) :
    list (itemSource d) sizes r (CommandLine.listScope d space backlog) =
      .ok (r.finish (r.page sizes)
        (pageOf (sortByNumber (wantedItems d space backlog f)) (r.page sizes))) := by
  have hScope : ∀ w : WorkItem, _ := fun w =>
    wants_listScope (d := d) (settled_of_parse w h) space backlog
  have hItems : d.workItems.filter
      ((CommandLine.listScope d space backlog f).wants ·.record) =
        wantedItems d space backlog f :=
    List.filter_congr fun w _ => (hScope w).1
  have hMeet := meet_itemSource (d := d) (fun w _ => (hScope w).2) (r.page sizes)
  rw [hItems] at hMeet
  have hUser : r.userFilter = .ok f := mapError_eq_ok_iff.mpr h
  rw [list, hUser]
  simp only [bind, Except.bind, hMeet, pure, Except.pure]

theorem list_eq_error_iff {space : Option Uuid} {backlog : Bool} {err : ListingError} :
    list (itemSource d) sizes r (CommandLine.listScope d space backlog) = .error err ↔
      ∃ fault, Filter.parse workItemFields (r.filter.getD "") = .error fault ∧
        .badFilter fault = err := by
  cases hParse : Filter.parse workItemFields (r.filter.getD "") with
  | ok f => simp [list_eq_ok hParse]
  | error fault =>
    have hUser : r.userFilter = .error (.badFilter fault) :=
      mapError_eq_error_iff.mpr ⟨fault, hParse, rfl⟩
    rw [list, hUser]
    simp [bind, Except.bind]

/-- The page has the requested ones of some items, in order, and counts all of them. -/
structure IsPageOf (items : List WorkItem) (request : PageRequest) (page : Page WorkItem) : Prop
    where
  rows : ∃ listed, OrderedByNumber items listed ∧
    page.rows = (listed.drop request.offset).take request.limit
  totalCount : page.totalCount = items.length
  request : page.request = request

theorem isPageOf_finish (items : List WorkItem) (page : PageRequest) :
    IsPageOf items page (r.finish page (pageOf (sortByNumber items) page)) :=
  ⟨⟨_, orderedByNumber_sortByNumber items, rfl⟩, length_sortByNumber items, rfl⟩

/-- Listing all items or those of a space fails only if the filter cannot be read. Otherwise the
filter has a truth value on every item, and the page has the requested ones of the items that meet
it and lie in the space. -/
theorem listing_is_exact (d : Dataset) (sizes : PageSizes) (r : ListRequest)
    (space : Option Uuid) :
    (∀ err, list (itemSource d) sizes r (CommandLine.listScope d space false) = .error err ↔
      ∃ fault, Filter.parse workItemFields (r.filter.getD "") = .error fault ∧
        .badFilter fault = err) ∧
    ∀ filter, Filter.parse workItemFields (r.filter.getD "") = .ok filter →
      (filter = none ↔ ∀ c ∈ (r.filter.getD "").toList, Text.isBlank c = true) ∧
      (∀ e, filter = some e → ∀ w ∈ d.workItems, ∃ b, e.evaluate w.record = .ok b) ∧
      ∃ page, list (itemSource d) sizes r (CommandLine.listScope d space false) = .ok page ∧
        IsPageOf (d.workItems.filter fun w => meetsFilter w.record filter &&
          decide (∀ s ∈ space, w.space = s)) (r.page sizes) page := by
  refine ⟨fun err => list_eq_error_iff, ?_⟩
  intro filter hFilter
  have hBlank : filter = none ↔ ∀ c ∈ (r.filter.getD "").toList, Text.isBlank c = true := by
    rw [← Filter.parse_eq_ok_none_iff (t := workItemFields), hFilter, Except.ok.injEq]
  have hShown : wantedItems d space false filter = d.workItems.filter fun w =>
      meetsFilter w.record filter && decide (∀ s ∈ space, w.space = s) := by
    refine List.filter_congr fun w _ => congrArg _ (decide_eq_decide.mpr ?_)
    cases space with
    | none => simp [Shows]
    | some s => simp [Shows]
  refine ⟨hBlank, fun e he w _ => settled_of_parse w hFilter e he, _,
    list_eq_ok hFilter space false, ?_⟩
  rw [hShown]
  exact isPageOf_finish _ _

/-- A space. -/
def home : Uuid := .repeated 0

/-- Another space. -/
def abroad : Uuid := .repeated 1

/-- An item of which little is known. -/
def sketch (space : Uuid) (number : Int64) (typeName state : String) (iteration : Option String) :
    WorkItem where
  id := space
  space := space
  number := number
  typeName := typeName
  title := "sketch"
  state := state
  iteration := iteration
  area := none
  assignees := []
  creator := none
  labels := []
  parent := none
  createdAt := none
  updatedAt := none

/-- Two spaces with the same numbers, of which only one has iterations. -/
def twoSpaces : Dataset where
  spaces := [⟨home, "home"⟩, ⟨abroad, "abroad"⟩]
  iterations := [⟨"root", home, "root", none, false⟩, ⟨"now", home, "now", some "root", true⟩]
  workItemTypes := [⟨"task", true⟩, ⟨"note", false⟩, ⟨"task", true⟩]
  workItems := [sketch home 2 "task" "new" (some "root"), sketch abroad 1 "task" "new" none,
    sketch home 1 "task" "open" (some "now"), sketch home 1 "note" "closed" none]

/-- A request for items with a number that is one or not. -/
def anyNumber : ListRequest where
  path := "/workitems"
  filter := some "\x7b\"$OR\":[\x7b\"number\":1\x7d,\x7b\"number\":1,\"negate\":true\x7d]\x7d"
  offset := some "0"
  limit := some 2
  extra := []

/-- What `anyNumber` asks for. -/
def oneOrNot : Expression :=
  .group .any [.equals Tracker.numberAttribute (.number 1),
    .not (.equals Tracker.numberAttribute (.number 1))]

theorem parse_anyNumber :
    Filter.parse workItemFields (anyNumber.filter.getD "") = .ok (some oneOrNot) := by
  cbv

theorem listing_of_home_keeps_to_it :
    ∃ page, list (itemSource twoSpaces) .standard anyNumber
      (CommandLine.listScope twoSpaces (some home) false) = .ok page ∧ page.totalCount = 3 := by
  obtain ⟨-, -, page, hList, hPage⟩ :=
    (listing_is_exact twoSpaces .standard anyNumber (some home)).2 _ parse_anyNumber
  refine ⟨page, hList, ?_⟩
  rw [hPage.totalCount]
  cbv

/-- The backlog of a space is answered with the requested ones of the items that meet the filter and
are on the backlog. There are none if the space has no topmost iteration or nothing of any type is
planned. -/
theorem backlog_listing_is_exact (d : Dataset) (sizes : PageSizes) (r : ListRequest)
    (space : Uuid) {filter : Option Expression}
    (hFilter : Filter.parse workItemFields (r.filter.getD "") = .ok filter) :
    ∃ page, list (itemSource d) sizes r (d.backlogScope · space) = .ok page ∧
      IsPageOf (d.workItems.filter fun w =>
        meetsFilter w.record filter && decide (OnBacklog d space w)) (r.page sizes) page ∧
      (d.rootIteration? space = none ∨ (∀ ty ∈ d.workItemTypes, ty.plannerItem = false) →
        d.backlogScope filter space = .emptyResult ∧ page.rows = [] ∧ page.totalCount = 0) := by
  refine ⟨_, list_eq_ok hFilter (some space) true, isPageOf_finish _ _, ?_⟩
  intro hUnplanned
  have hNil : d.backlogIterations space = [] ∨ d.plannerTypes = [] := by
    rcases hUnplanned with hRoot | hTypes
    · exact .inl (backlogIterations_of_no_root hRoot)
    · exact .inr (plannerTypes_eq_nil_iff.mpr hTypes)
  have hItems : wantedItems d (some space) true filter = [] := by
    refine List.filter_eq_nil_iff.mpr fun w _ => ?_
    have hNot : decide (Shows d (some space) true w) = false :=
      decide_eq_false (not_onBacklog hNil)
    rw [hNot, Bool.and_false]
    exact Bool.false_ne_true
  refine ⟨backlogScope_eq_emptyResult_iff.mpr hNil, ?_, ?_⟩
  · simp [ListRequest.finish, pageOf, hItems, sortByNumber]
  · simp [ListRequest.finish, pageOf, hItems, sortByNumber]

theorem backlog_of_home_and_abroad :
    (∃ page, list (itemSource twoSpaces) .standard anyNumber (twoSpaces.backlogScope · home) =
      .ok page ∧ page.totalCount = 1) ∧
    ∃ page, list (itemSource twoSpaces) .standard anyNumber (twoSpaces.backlogScope · abroad) =
      .ok page ∧ page.totalCount = 0 := by
  obtain ⟨page, hList, hPage, -⟩ :=
    backlog_listing_is_exact twoSpaces .standard anyNumber home parse_anyNumber
  obtain ⟨page', hList', -, hEmpty⟩ :=
    backlog_listing_is_exact twoSpaces .standard anyNumber abroad parse_anyNumber
  refine ⟨⟨page, hList, ?_⟩, page', hList', (hEmpty (.inl (by rfl))).2.2⟩
  rw [hPage.totalCount]
  cbv

end Worklist.Listing
