import Worklist.Proofs.Listing.Enumeration
import Worklist.Proofs.Listing.Search
import Worklist.Proofs.Text.Lowercase

/-!
# Titles that hold the searched text

The searched text and the titles are put into lower case apart from one another. So an item whose
title holds the text as it stands is among the rows of the search if the text has the same lower
case in the title as alone. It need not have: a capital sigma at an end of the text becomes another
letter if it ends a word of the text but not of the title, or the other way round.
-/

namespace Worklist.Listing

open Worklist.Filter (Expression meetsFilter)
open Text (KeepsSigmas maxInt64)
open Tracker (Dataset WorkItem workItemFields)

variable {d : Dataset} {r : ListRequest} {sizes : PageSizes} {listed : List WorkItem} {t : String}
  {w : WorkItem} {registry known : HostRegistry} {text : String}

/-! ### All rows -/

/-- Nothing is left behind a page that reaches the end of the rows, however large it is. -/
theorem next_pageFor_of_end (hCount : listed.length ≤ maxInt64)
    (hEnd : listed.length ≤ (r.page sizes).offset + (r.page sizes).limit) :
    (pageFor sizes listed r).links.next = none := by
  have hOffset := offset_page_le r sizes
  have hFound : min (r.page sizes).limit (listed.length - (r.page sizes).offset) ≤ maxInt64 := by
    omega
  have hNext : ¬PageRanges.nextStart (r.page sizes).offset
      (min (r.page sizes).limit (listed.length - (r.page sizes).offset) : Nat) <
        (listed.length : Int) := by
    unfold PageRanges.nextStart
    omega
  rw [links_pageFor]
  simp only [PageLinks.ofRanges, PageRanges.around, PageRequest.saturate_of_le hOffset,
    PageRequest.saturate_of_le hFound, PageRequest.saturate_of_le hCount, if_neg hNext,
    Option.map_none]

/-- If every request is answered with a page of the listed items, the links lead through all of them
and all pages count them. -/
theorem exists_rows_enumeration {answer : ListRequest → Except ListingError (Page WorkItem)}
    (hCount : listed.length ≤ maxInt64)
    (hAnswer : ∀ s : ListRequest, s.filter = r.filter → answer s = .ok (pageFor sizes listed s)) :
    ∃ pages, Enumerates answer r pages ∧
      pages.flatMap (·.rows) = listed.drop (r.page sizes).offset ∧
      ∀ p ∈ pages, p.totalCount = listed.length := by
  by_cases hLimit : (r.page sizes).limit ≤ maxInt64
  · obtain ⟨rest, hRun, hCovers⟩ := exists_enumeration hLimit hCount hAnswer
    exact ⟨_, hRun, hCovers.rows, fun p hp => (hCovers.constant p hp).2⟩
  · -- A page of such a size reaches the end wherever it starts.
    have hEnd : listed.length ≤ (r.page sizes).offset + (r.page sizes).limit := by omega
    refine ⟨_, .last (hAnswer r rfl) (next_pageFor_of_end hCount hEnd), ?_, ?_⟩
    · rw [List.flatMap_singleton]
      exact List.take_of_length_le (by rw [List.length_drop]; omega)
    · intro p hp
      rw [List.mem_singleton.mp hp]
      rfl

/-! ### Texts -/

theorem toList_of_resolve (h : SearchQuery.resolve text known = .ok (.text t)) :
    t.toList = Text.trim text.toList := by
  rw [SearchQuery.resolve] at h
  split at h
  · cases h
  · split at h
    · cases h
    · cases h
      exact String.toList_ofList

/-- The items that meet a filter and have a text in their title, in whatever case. -/
def titledItems (d : Dataset) (filter : Option Expression) (t : String) : List WorkItem :=
  d.workItems.filter fun w => meetsFilter w.record filter && decide ((SearchQuery.text t).Finds w)

theorem search_of_text {host : Option String} {f : Option Expression}
    (hTold : Told registry host known) (hQuery : SearchQuery.resolve text known = .ok (.text t))
    (hFilter : Filter.parse workItemFields (r.filter.getD "") = .ok f) :
    search d sizes r text host registry =
      (.ok (pageFor sizes (sortByNumber (titledItems d f t)) r), known) := by
  have hFound : (listedItems d f).filter (fun w => (SearchQuery.text t).Finds w) =
      sortByNumber (titledItems d f t) := by
    rw [listedItems, ← sortByNumber_filter, List.filter_filter]
    exact congrArg sortByNumber (List.filter_congr fun w _ => Bool.and_comm _ _)
  rw [search_of_told hTold, searchWith_of_query hQuery hFilter, hFound]
  rfl

theorem mem_titledItems_of_keepsSigmas {f : Option Expression} {lead trail : List Char}
    (hItem : w ∈ d.workItems) (hMeets : meetsFilter w.record f = true)
    (hTitle : w.title.toList = lead ++ t.toList ++ trail)
    (hSigmas : KeepsSigmas lead t.toList trail) : w ∈ titledItems d f t := by
  have hFinds : (SearchQuery.text t).Finds w := by
    rw [SearchQuery.Finds, hTitle]
    exact Text.lowercase_infix hSigmas
  exact List.mem_filter.mpr ⟨hItem, by rw [hMeets, decide_eq_true hFinds, Bool.and_self]⟩

/-- A search for a text succeeds. It counts the items that meet the filter and have the text in
their title, and shows them to whoever follows the links from the first row on. Among them are all
items whose title holds the text as it stands, as long as every capital sigma of the text ends a
word of the title exactly if it ends one of the text. -/
theorem verbatim_titles_are_found (d : Dataset) (sizes : PageSizes) (r : ListRequest)
    (host : Option String) {registry known : HostRegistry} {text t : String}
    {filter : Option Expression} (hTold : Told registry host known)
    (hQuery : SearchQuery.resolve text known = .ok (.text t))
    (hFilter : Filter.parse workItemFields (r.filter.getD "") = .ok filter) :
    t.toList = Text.trim text.toList ∧
    ∃ page found, search d sizes r text host registry = (.ok page, known) ∧
      page.totalCount = found.length ∧
      OrderedByNumber (titledItems d filter t) found ∧
      (d.workItems.length < 2 ^ 63 → ∃ pages,
        (∀ ps, Enumerates (fun s => (search d sizes s text host registry).1)
          { r with offset := none } ps ↔ ps = pages) ∧
        pages.flatMap (·.rows) = found ∧ ∀ p ∈ pages, p.totalCount = found.length) ∧
      ∀ w ∈ d.workItems, meetsFilter w.record filter = true → ∀ lead trail,
        w.title.toList = lead ++ t.toList ++ trail → KeepsSigmas lead t.toList trail →
        w ∈ found := by
  have hAnswer : ∀ s : ListRequest, s.filter = r.filter →
      search d sizes s text host registry =
        (.ok (pageFor sizes (sortByNumber (titledItems d filter t)) s), known) :=
    fun s hSame => search_of_text hTold hQuery (hSame ▸ hFilter)
  refine ⟨toList_of_resolve hQuery, _, _, hAnswer r rfl, rfl, orderedByNumber_sortByNumber _,
    fun hRows => ?_, fun w hw hMeets lead trail hTitle hSigmas => ?_⟩
  · have hCount : (sortByNumber (titledItems d filter t)).length ≤ maxInt64 := by
      rw [length_sortByNumber]
      exact (List.length_filter_le _ _).trans (Nat.le_pred_of_lt hRows)
    obtain ⟨pages, hRun, hShown, hTotal⟩ := exists_rows_enumeration (r := { r with offset := none })
      hCount fun s hSame => congrArg Prod.fst (hAnswer s hSame)
    exact ⟨pages, fun ps => ⟨fun h => h.unique hRun, fun h => h ▸ hRun⟩, hShown, hTotal⟩
  · rw [(perm_sortByNumber _).mem_iff]
    exact mem_titledItems_of_keepsSigmas hw hMeets hTitle hSigmas

/-- A street, which has its name at the end of the title. -/
def newStreet : WorkItem :=
  { sketch home 2 "task" "new" none with title := "ΝΕΑ ΟΔΟΣ" }

/-- The signs of a street. -/
def roadSigns : WorkItem :=
  { sketch home 1 "task" "new" none with title := "ΟΔΟΣΗΜΑΝΣΗ" }

/-- Two items about streets. -/
def streets : Dataset where
  spaces := []
  iterations := []
  workItemTypes := []
  workItems := [newStreet, roadSigns]

/-- A request for everything. -/
def everything : ListRequest where
  path := "/workitems"
  filter := none
  offset := none
  limit := none
  extra := []

theorem resolve_street : SearchQuery.resolve " ΟΔΟΣ" .empty = .ok (.text "ΟΔΟΣ") := by
  have hTrim : Text.trim " ΟΔΟΣ".toList = "ΟΔΟΣ".toList := by decide +kernel
  have hLink : SearchQuery.ofLink? .empty "ΟΔΟΣ".toList = none := by cbv
  have hNumber : SearchQuery.ofNumber? "ΟΔΟΣ".toList = none := by decide +kernel
  have hText : "ΟΔΟΣ".toList ≠ [] := by decide +kernel
  rw [SearchQuery.resolve_of_not_blank (hTrim.symm ▸ hText), hTrim, hLink, hNumber]
  simp

theorem parse_everything :
    Filter.parse workItemFields (everything.filter.getD "") = .ok none := by
  cbv

/-- The street is searched for by a word that ends with a capital sigma, as its title does. -/
theorem newStreet_is_found :
    ∃ page, search streets .standard everything " ΟΔΟΣ" none .empty = (.ok page, .empty) ∧
      ∃ found : List WorkItem, page.totalCount = found.length ∧ newStreet ∈ found := by
  obtain ⟨-, page, found, hSearch, hCount, -, -, hFound⟩ :=
    verbatim_titles_are_found streets .standard everything none rfl resolve_street parse_everything
  have hChars : "ΟΔΟΣ".toList = ['Ο', 'Δ', 'Ο', 'Σ'] := by decide +kernel
  refine ⟨page, hSearch, found, hCount, hFound newStreet ?_ rfl "ΝΕΑ ".toList [] ?_ ?_⟩
  · exact List.mem_cons_self
  · decide +kernel
  · intro before after hEq
    obtain ⟨rfl, rfl⟩ : before = ['Ο', 'Δ', 'Ο'] ∧ after = [] := by
      simpa [hChars, List.cons_eq_append_iff, and_assoc] using hEq
    decide +kernel

theorem titledItems_streets : titledItems streets none "ΟΔΟΣ" = [newStreet] := by
  decide +kernel

/-- The title of the signs starts with the searched text, but goes on after its capital sigma: the
only page of the search does not show the signs. -/
theorem roadSigns_are_missed :
    SearchQuery.resolve " ΟΔΟΣ" .empty = .ok (.text "ΟΔΟΣ") ∧
      roadSigns ∈ streets.workItems ∧ meetsFilter roadSigns.record none = true ∧
      "ΟΔΟΣ".toList <:+: roadSigns.title.toList ∧
      ∃ page, search streets .standard everything " ΟΔΟΣ" none .empty = (.ok page, .empty) ∧
        page.totalCount = 1 ∧ page.rows = [newStreet] ∧ roadSigns ∉ page.rows ∧
        page.links.next = none := by
  have hSorted : sortByNumber (titledItems streets none "ΟΔΟΣ") = [newStreet] := by
    rw [titledItems_streets, sortByNumber, List.mergeSort_singleton]
  have hTold : Told .empty none .empty := rfl
  have hSearch : search streets .standard everything " ΟΔΟΣ" none .empty = _ :=
    search_of_text hTold resolve_street parse_everything
  rw [hSorted] at hSearch
  have hRows : (pageFor .standard [newStreet] everything).rows = [newStreet] := by
    cbv
  have hOther : roadSigns ∉ [newStreet] := by
    decide +kernel
  refine ⟨resolve_street, List.mem_cons_of_mem _ List.mem_cons_self, rfl, by decide +kernel, _,
    hSearch, rfl, hRows, hRows.symm ▸ hOther, ?_⟩
  cbv

end Worklist.Listing
