import Worklist.Proofs.Listing.Exactness
import Worklist.Proofs.Paging.Geometry

/-!
# Listings of nothing

A composition that leaves no rows is answered without asking the source for any. The answer is the
one that a source gives that is asked and has no rows to show, so that nobody can tell from a page
whether its rows were looked for. Wherever the page is, no other page is before it or behind it.
-/

namespace Worklist

namespace PageRanges

variable {page : PageRequest}

theorem prev_around_no_rows (page : PageRequest) : (around page 0 0).prev = none := by
  have hNone : PageRequest.saturate 0 = 0 := PageRequest.saturate_of_le (Nat.zero_le _)
  have hRows : ¬(0 < PageRequest.saturate page.offset ∧ (0 : Int) < 0) := by omega
  simp only [around, hNone, if_neg hRows]

theorem next_around_no_rows (page : PageRequest) : (around page 0 0).next = none := by
  have hNone : PageRequest.saturate 0 = 0 := PageRequest.saturate_of_le (Nat.zero_le _)
  have hBehind : ¬nextStart (PageRequest.saturate page.offset) 0 < 0 := by
    unfold nextStart PageRequest.saturate
    omega
  simp only [around, hNone, if_neg hBehind]

/-- Going back in whole pages from behind no rows ends before the first row, and what is left of
the last page is what stands before the first whole page. -/
theorem last_around_no_rows (hOffset : page.offset ≤ Text.maxInt64)
    (hLimit : page.limit ≤ Text.maxInt64) :
    (around page 0 0).last = ⟨0, page.offset % page.limit⟩ := by
  have hPos := limit_pos_int page
  have hHigh := Int.emod_lt_of_pos page.offset hPos
  have hStart : lastStart page.offset page.limit (0 : Nat) =
      page.offset % page.limit - page.limit := by
    rw [lastStart, if_neg (by omega), retreat_eq, Nat.cast_zero, Int.sub_zero, Int.zero_add]
  rw [last_around hOffset hLimit (Nat.zero_le _), hStart, PageRange.clamped, if_pos (by omega),
    add_sub_cancel, ← Int.natCast_emod, Int.toNat_natCast]

end PageRanges

namespace Listing

open Worklist.Filter (Composition Expression)
open Tracker (Dataset WorkItem workItemFields)

variable {Row : Type} {d : Dataset} {sizes : PageSizes} {r : ListRequest}
  {f : Option Expression} {e : Expression} {scope : Option Expression → Composition}

/-- The page of a listing that has nothing to show. -/
def ListRequest.emptyPage (r : ListRequest) (sizes : PageSizes) : Page Row :=
  r.finish (r.page sizes) ⟨[], 0⟩

/-- The page shows nothing, and there are no pages before it and behind it. The first and the last
page are where whole pages lead back to from the requested place. -/
structure ShowsNothing (r : ListRequest) (place : PageRequest) (page : Page Row) : Prop where
  rows : page.rows = []
  totalCount : page.totalCount = 0
  request : page.request = place
  prev : page.links.prev = none
  next : page.links.next = none
  ends : place.offset + place.limit < 2 ^ 63 →
    page.links.first = PageRange.url r.path r.extra
      ⟨0, if 0 < place.offset then place.offset % place.limit else place.limit⟩ ∧
    page.links.last = PageRange.url r.path r.extra ⟨0, place.offset % place.limit⟩

theorem showsNothing_emptyPage (r : ListRequest) (sizes : PageSizes) :
    ShowsNothing r (r.page sizes) (r.emptyPage sizes : Page Row) where
  rows := rfl
  totalCount := rfl
  request := rfl
  prev := congrArg (Option.map _) (PageRanges.prev_around_no_rows (r.page sizes))
  next := congrArg (Option.map _) (PageRanges.next_around_no_rows (r.page sizes))
  ends := by
    intro hEnd
    have hOffset : (r.page sizes).offset ≤ Text.maxInt64 := by
      unfold Text.maxInt64
      omega
    have hLimit : (r.page sizes).limit ≤ Text.maxInt64 := by
      unfold Text.maxInt64
      omega
    exact ⟨congrArg (PageRange.url r.path r.extra) (PageRanges.first_around hOffset hLimit 0),
      congrArg (PageRange.url r.path r.extra) (PageRanges.last_around_no_rows hOffset hLimit)⟩

/-- If no rows can be left, the source is not asked, whatever it would answer. -/
theorem list_of_emptyResult (source : RowSource Row)
    (hFilter : Filter.parse workItemFields (r.filter.getD "") = .ok f)
    (hScope : scope f = .emptyResult) : list source sizes r scope = .ok (r.emptyPage sizes) := by
  have hUser : r.userFilter = .ok f := mapError_eq_ok_iff.mpr hFilter
  rw [list, hUser]
  simp only [bind, Except.bind, hScope]
  rfl

/-- If no item meets an expression, a dataset that is asked finds nothing. -/
theorem meet_of_unmet (h : ∀ w ∈ d.workItems, e.evaluate w.record = .ok false)
    (page : PageRequest) : meet (itemSource d) page (.filter e) = .ok ⟨[], 0⟩ := by
  have hSettled : ∀ w ∈ d.workItems, (Composition.filter e).Settled w.record := by
    rintro w hw _ ⟨⟩
    exact ⟨false, h w hw⟩
  have hNone : d.workItems.filter ((Composition.filter e).wants ·.record) = [] := by
    apply List.filter_eq_nil_iff.mpr
    intro w hw hWanted
    rw [Composition.wants, Expression.meets_iff, h w hw] at hWanted
    cases hWanted
  rw [meet_itemSource hSettled, hNone]
  simp [pageOf, sortByNumber]

theorem list_of_unmet (hFilter : Filter.parse workItemFields (r.filter.getD "") = .ok f)
    (hScope : scope f = .filter e) (h : ∀ w ∈ d.workItems, e.evaluate w.record = .ok false) :
    list (itemSource d) sizes r scope = .ok (r.emptyPage sizes) := by
  have hUser : r.userFilter = .ok f := mapError_eq_ok_iff.mpr hFilter
  rw [list, hUser]
  simp only [bind, Except.bind, hScope, meet_of_unmet h]
  rfl

/-- Whether a listing knows beforehand that no rows can be left or finds that no item meets its
constraints, it answers with one and the same page. What is known beforehand does not hang on the
source, even if it fails whenever it is asked. -/
theorem unasked_listing_is_vain_listing (sizes : PageSizes) (r : ListRequest)
    {filter : Option Expression}
    (hFilter : Filter.parse workItemFields (r.filter.getD "") = .ok filter) :
    (∀ (d : Dataset) (e : Expression) (known asked : Option Expression → Composition),
      (∀ w ∈ d.workItems, e.evaluate w.record = .ok false) → known filter = .emptyResult →
      asked filter = .filter e →
      list (itemSource d) sizes r known = list (itemSource d) sizes r asked) ∧
    ∀ (Row : Type) (known : Option Expression → Composition), known filter = .emptyResult →
      ∃ page : Page Row, ShowsNothing r (r.page sizes) page ∧
        ∀ source : RowSource Row, list source sizes r known = .ok page := by
  constructor
  · intro d e known asked hUnmet hKnown hAsked
    rw [list_of_emptyResult (itemSource d) hFilter hKnown, list_of_unmet hFilter hAsked hUnmet]
  · intro Row known hKnown
    refine ⟨r.emptyPage sizes, showsNothing_emptyPage r sizes, ?_⟩
    intro source
    exact list_of_emptyResult source hFilter hKnown

/-- A source that is down. -/
def brokenSource : RowSource Nat :=
  ⟨fun _ _ => .error (.source "down")⟩

theorem vain_listing_of_sevens :
    list (itemSource twoSpaces) .standard anyNumber (fun _ => .emptyResult) =
        list (itemSource twoSpaces) .standard anyNumber
          (fun _ => .filter (.equals Tracker.numberAttribute (.number 7))) ∧
      ∃ page, list brokenSource .standard anyNumber (fun _ => .emptyResult) = .ok page ∧
        page.totalCount = 0 := by
  obtain ⟨hSame, hNothing⟩ := unasked_listing_is_vain_listing .standard anyNumber parse_anyNumber
  constructor
  · have hNone : ∀ w ∈ twoSpaces.workItems, w.number ≠ 7 := by decide
    apply hSame twoSpaces _ _ _ ?_ rfl rfl
    intro w hw
    have hOther : (w.number == 7) = false := beq_eq_false_iff_ne.mpr (hNone w hw)
    exact congrArg Except.ok hOther
  · obtain ⟨page, hShows, hList⟩ := hNothing Nat (fun _ => .emptyResult) rfl
    exact ⟨page, hList brokenSource, hShows.totalCount⟩

end Listing

end Worklist
