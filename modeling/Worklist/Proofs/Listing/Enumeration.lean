import Worklist.Proofs.Listing.Exactness
import Worklist.Proofs.Paging.Links

/-!
# Following the links to next pages

Someone who asks for a page and then, again and again, for the page that the link to the next one
addresses, is shown every row from the first page on once and in order, and comes to an end. The
pages are of one size, the way back from each page leads to the page before it, and the last page is
the one that the first page announced.
-/

namespace Worklist.Listing

open Worklist.Filter (Expression)
open Text (maxInt64)
open Tracker (Dataset WorkItem workItemFields)

/-- The same request for other rows. -/
def ListRequest.turnTo (r : ListRequest) (n : PageRange) : ListRequest :=
  { r with
    offset := some (String.ofList (Text.decimal n.offset))
    limit := some (Int64.ofNat n.limit) }

/-- The pages that are shown to someone who starts with a request and follows the links to next
pages until there is none. -/
inductive Enumerates {Row : Type} (answer : ListRequest → Except ListingError (Page Row)) :
    ListRequest → List (Page Row) → Prop
  | last {r : ListRequest} {p : Page Row} (hAnswer : answer r = .ok p)
      (hNext : p.links.next = none) : Enumerates answer r [p]
  | next {r : ListRequest} {p : Page Row} {n : PageRange} {ps : List (Page Row)}
      (hAnswer : answer r = .ok p) (hNext : p.links.next = some (n.url r.path r.extra))
      (hRest : Enumerates answer (r.turnTo n) ps) : Enumerates answer r (p :: ps)

/-- The pages, which are found at their addresses, show the listed rows from the requested page on.
They have one size and one total, and all but the last are full. The last is the one that the first
announced, if there are rows to show, and every other page is the one before the page after it. -/
structure Covers {Row : Type} (address : PageRange → String) (request : PageRequest)
    (listed : List Row) (pages : List (Page Row)) : Prop where
  rows : pages.flatMap (·.rows) = listed.drop request.offset
  constant : ∀ p ∈ pages, p.request.limit = request.limit ∧ p.totalCount = listed.length
  full : ∀ p ∈ pages.dropLast, p.rows.length = request.limit
  last : request.offset < listed.length → ∃ first ∈ pages.head?, ∃ final ∈ pages.getLast?,
    first.links.last = address final.request.range
  prev : pages.IsChain fun p q => q.links.prev = some (address p.request.range)

variable {r : ListRequest} {sizes : PageSizes} {listed : List WorkItem}

/-! ### Runs -/

section Runs

variable {Row : Type} {answer : ListRequest → Except ListingError (Page Row)}
  {ps qs : List (Page Row)}

/-- An address stands for one range, so there is one way to follow the links. -/
theorem Enumerates.unique (hp : Enumerates answer r ps) (hq : Enumerates answer r qs) :
    ps = qs := by
  induction hp generalizing qs with
  | last hAnswer hNext =>
    cases hq with
    | last hAnswer' _ =>
      cases hAnswer.symm.trans hAnswer'
      rfl
    | next hAnswer' hNext' _ =>
      cases hAnswer.symm.trans hAnswer'
      cases hNext.symm.trans hNext'
  | next hAnswer hNext _ ih =>
    cases hq with
    | last hAnswer' hNext' =>
      cases hAnswer.symm.trans hAnswer'
      cases hNext.symm.trans hNext'
    | next hAnswer' hNext' hRest' =>
      cases hAnswer.symm.trans hAnswer'
      cases PageRange.url_injective (Option.some.inj (hNext.symm.trans hNext'))
      rw [ih hRest']

end Runs

/-! ### One page -/

/-- The page that answers a request for some of the listed items. -/
def pageFor (sizes : PageSizes) (listed : List WorkItem) (r : ListRequest) : Page WorkItem :=
  r.finish (r.page sizes) (pageOf listed (r.page sizes))

theorem length_rows_pageFor : (pageFor sizes listed r).rows.length =
    min (r.page sizes).limit (listed.length - (r.page sizes).offset) := by
  simp [pageFor, ListRequest.finish, pageOf]

theorem offset_page_le (r : ListRequest) (sizes : PageSizes) :
    (r.page sizes).offset ≤ maxInt64 :=
  PageRequest.offset_ofParams_le _ _ _

theorem limit_page_le (r : ListRequest) (sizes : PageSizes) :
    (r.page sizes).limit ≤ sizes.normalized.maxLimit :=
  PageRequest.chooseLimit_le _ _

theorem links_pageFor : (pageFor sizes listed r).links =
    .ofRanges r.path r.extra (.around (r.page sizes)
      (min (r.page sizes).limit (listed.length - (r.page sizes).offset)) listed.length) := by
  rw [← length_rows_pageFor]
  rfl

section Bounded

variable (hLimit : (r.page sizes).limit ≤ maxInt64) (hCount : listed.length ≤ maxInt64)
include hLimit hCount

theorem next_pageFor : (pageFor sizes listed r).links.next =
    if (r.page sizes).offset + (r.page sizes).limit < listed.length then
      some ((r.page sizes).after.url r.path r.extra)
    else none := by
  rw [links_pageFor, PageLinks.ofRanges,
    PageRanges.next_around (offset_page_le r sizes) hLimit hCount, apply_ite (Option.map _)]
  rfl

theorem prev_pageFor {start : Nat} (hStart : (r.page sizes).offset = start + (r.page sizes).limit)
    (hEnd : (r.page sizes).offset ≤ listed.length) :
    (pageFor sizes listed r).links.prev =
      some (PageRange.url r.path r.extra ⟨start, (r.page sizes).limit⟩) := by
  rw [links_pageFor, PageLinks.ofRanges,
    PageRanges.prev_around (offset_page_le r sizes) hLimit hCount _ hStart hEnd]
  rfl

theorem last_pageFor : (pageFor sizes listed r).links.last =
    (PageRange.clamped (PageRanges.lastStart (r.page sizes).offset (r.page sizes).limit
      listed.length) (r.page sizes).limit).url r.path r.extra := by
  rw [links_pageFor, PageLinks.ofRanges,
    PageRanges.last_around (offset_page_le r sizes) hLimit hCount]

section Turned

variable (hMore : (r.page sizes).offset + (r.page sizes).limit < listed.length)
include hMore

theorem range_turnTo_after :
    ((r.turnTo (r.page sizes).after).page sizes).range = (r.page sizes).after :=
  PageRequest.range_ofParams (Nat.le_of_lt (Nat.lt_of_lt_of_le hMore hCount))
    (r.page sizes).limit_pos (limit_page_le r sizes) hLimit

theorem offset_turnTo_after : ((r.turnTo (r.page sizes).after).page sizes).offset =
    (r.page sizes).offset + (r.page sizes).limit :=
  congrArg PageRange.offset (range_turnTo_after hLimit hCount hMore)

theorem limit_turnTo_after :
    ((r.turnTo (r.page sizes).after).page sizes).limit = (r.page sizes).limit :=
  congrArg PageRange.limit (range_turnTo_after hLimit hCount hMore)

/-- Both pages announce the same last page. -/
theorem last_turnTo_after : (pageFor sizes listed (r.turnTo (r.page sizes).after)).links.last =
    (pageFor sizes listed r).links.last := by
  have hSize := limit_turnTo_after hLimit hCount hMore
  have hPos : (0 : Int) < (r.page sizes).limit := Int.natCast_pos.mpr (r.page sizes).limit_pos
  rw [last_pageFor hLimit hCount, last_pageFor (by omega) hCount, hSize,
    offset_turnTo_after hLimit hCount hMore, Nat.cast_add,
    PageRanges.lastStart_add hPos (by omega)]
  rfl

/-- The link back from the next page leads to the page. -/
theorem prev_turnTo_after : (pageFor sizes listed (r.turnTo (r.page sizes).after)).links.prev =
    some ((r.page sizes).range.url r.path r.extra) := by
  have hOffset := offset_turnTo_after hLimit hCount hMore
  have hSize := limit_turnTo_after hLimit hCount hMore
  rw [prev_pageFor (by omega) hCount (hOffset.trans (by rw [hSize])) (by omega), hSize]
  rfl

end Turned

end Bounded

/-! ### All pages -/

variable {answer : ListRequest → Except ListingError (Page WorkItem)}

section Covering

variable (hLimit : (r.page sizes).limit ≤ maxInt64) (hCount : listed.length ≤ maxInt64)
include hLimit hCount

/-- A page behind which there are no rows is the last one. -/
theorem covers_last (hEnd : listed.length ≤ (r.page sizes).offset + (r.page sizes).limit) :
    Covers (·.url r.path r.extra) (r.page sizes) listed [pageFor sizes listed r] where
  rows := by
    rw [List.flatMap_singleton]
    exact List.take_of_length_le (by rw [List.length_drop]; omega)
  constant := by
    intro p hp
    rw [List.mem_singleton.mp hp]
    exact ⟨rfl, rfl⟩
  full := by
    intro p hp
    cases hp
  last := by
    intro hlt
    refine ⟨_, rfl, _, rfl, ?_⟩
    rw [last_pageFor hLimit hCount, PageRanges.lastStart_of_le_add (by omega) (by omega),
      PageRange.clamped_natCast]
    rfl
  prev := .singleton _

/-- A full page goes before the pages that start behind it. -/
theorem covers_next {rest : List (Page WorkItem)}
    (hMore : (r.page sizes).offset + (r.page sizes).limit < listed.length)
    (hRest : Covers (·.url r.path r.extra) ((r.turnTo (r.page sizes).after).page sizes) listed
      (pageFor sizes listed (r.turnTo (r.page sizes).after) :: rest)) :
    Covers (·.url r.path r.extra) (r.page sizes) listed
      (pageFor sizes listed r :: pageFor sizes listed (r.turnTo (r.page sizes).after) :: rest) := by
  have hOffset := offset_turnTo_after hLimit hCount hMore
  have hSize := limit_turnTo_after hLimit hCount hMore
  constructor
  case rows =>
    rw [List.flatMap_cons, hRest.rows, hOffset, ← List.drop_drop]
    exact List.take_append_drop _ _
  case constant =>
    intro p hp
    rcases List.mem_cons.mp hp with rfl | hp
    · exact ⟨rfl, rfl⟩
    · rw [← hSize]
      exact hRest.constant p hp
  case full =>
    intro p hp
    rw [List.dropLast_cons_cons] at hp
    rcases List.mem_cons.mp hp with rfl | hp
    · rw [length_rows_pageFor]
      omega
    · rw [← hSize]
      exact hRest.full p hp
  case last =>
    -- What the next page announces is what this page announces.
    intro _
    obtain ⟨first, hFirst, final, hFinal, hLink⟩ := hRest.last (by omega)
    cases hFirst
    refine ⟨_, rfl, final, hFinal, ?_⟩
    rw [← last_turnTo_after hLimit hCount hMore]
    exact hLink
  case prev => exact .cons_cons (prev_turnTo_after hLimit hCount hMore) hRest.prev

end Covering

/-- If every request is answered with a page of the listed items, the links lead through all of
them. -/
theorem exists_enumeration (hLimit : (r.page sizes).limit ≤ maxInt64)
    (hCount : listed.length ≤ maxInt64)
    (hAnswer : ∀ s : ListRequest, s.filter = r.filter → answer s = .ok (pageFor sizes listed s)) :
    ∃ rest, Enumerates answer r (pageFor sizes listed r :: rest) ∧
      Covers (·.url r.path r.extra) (r.page sizes) listed (pageFor sizes listed r :: rest) := by
  -- Sizes are positive, so the number of rows from the offset on decreases with every page.
  induction hLeft : listed.length - (r.page sizes).offset using Nat.strongRecOn generalizing r with
  | ind left ih =>
    have hNext := next_pageFor hLimit hCount
    by_cases hMore : (r.page sizes).offset + (r.page sizes).limit < listed.length
    · have hOffset := offset_turnTo_after hLimit hCount hMore
      have hSize := limit_turnTo_after hLimit hCount hMore
      have hPos := (r.page sizes).limit_pos
      rw [if_pos hMore] at hNext
      obtain ⟨rest, hRest, hCovers⟩ := ih _ (by omega) (r := r.turnTo (r.page sizes).after)
        (by omega) hAnswer rfl
      exact ⟨_, .next (hAnswer r rfl) hNext hRest, covers_next hLimit hCount hMore hCovers⟩
    · rw [if_neg hMore] at hNext
      exact ⟨[], .last (hAnswer r rfl) hNext, covers_last hLimit hCount (Nat.le_of_not_lt hMore)⟩

/-- Whoever follows the links to next pages is shown one finite run of pages, and these have all the
items that meet the filter and that the listing shows, in order, from the requested page on. The
offset of a request is a signed word in any case. No list in memory has more rows than a signed word
can count. -/
theorem next_links_enumerate_rows (d : Dataset) (sizes : PageSizes) (r : ListRequest)
    (space : Option Uuid) (backlog : Bool) {filter : Option Expression}
    (hFilter : Filter.parse workItemFields (r.filter.getD "") = .ok filter)
    (hLimit : (r.page sizes).limit < 2 ^ 63) (hRows : d.workItems.length < 2 ^ 63) :
    ∃ pages listed,
      (∀ ps, Enumerates (fun s => list (itemSource d) sizes s
        (CommandLine.listScope d space backlog)) r ps ↔ ps = pages) ∧
      OrderedByNumber (wantedItems d space backlog filter) listed ∧
      Covers (·.url r.path r.extra) (r.page sizes) listed pages := by
  have hOrdered := orderedByNumber_sortByNumber (wantedItems d space backlog filter)
  have hSize : (r.page sizes).limit ≤ maxInt64 := by
    unfold maxInt64
    omega
  have hCount : (sortByNumber (wantedItems d space backlog filter)).length ≤ maxInt64 := by
    rw [length_sortByNumber]
    have hWanted := length_wantedItems_le (d := d) (f := filter) space backlog
    unfold maxInt64
    omega
  have hAnswer : ∀ s : ListRequest, s.filter = r.filter →
      list (itemSource d) sizes s (CommandLine.listScope d space backlog) =
        .ok (pageFor sizes (sortByNumber (wantedItems d space backlog filter)) s) := by
    intro s hSame
    have hParse : Filter.parse workItemFields (s.filter.getD "") = .ok filter := by
      rw [hSame, hFilter]
    exact list_eq_ok hParse space backlog
  obtain ⟨rest, hRun, hCovers⟩ := exists_enumeration hSize hCount hAnswer
  refine ⟨_, _, fun ps => ⟨fun h => h.unique hRun, ?_⟩, hOrdered, hCovers⟩
  rintro rfl
  exact hRun

theorem next_links_enumerate_home :
    ∃ pages, (∀ ps, Enumerates (fun s => list (itemSource twoSpaces) .standard s
        (CommandLine.listScope twoSpaces (some home) false)) anyNumber ps ↔ ps = pages) ∧
      (pages.flatMap (·.rows)).length = 3 ∧ ∀ p ∈ pages.dropLast, p.rows.length = 2 := by
  have hOffset : (anyNumber.page .standard).offset = 0 := by cbv
  have hSize : (anyNumber.page .standard).limit = 2 := by cbv
  have hCount : (wantedItems twoSpaces (some home) false (some oneOrNot)).length = 3 := by cbv
  obtain ⟨pages, listed, hRun, hOrdered, hCovers⟩ :=
    next_links_enumerate_rows twoSpaces .standard anyNumber (some home) false parse_anyNumber
      (by rw [hSize]; decide) (by decide)
  refine ⟨pages, hRun, ?_, ?_⟩
  · rw [hCovers.rows, hOffset, List.drop_zero, hOrdered.length_eq, hCount]
  · intro p hp
    rw [hCovers.full p hp, hSize]

end Worklist.Listing
