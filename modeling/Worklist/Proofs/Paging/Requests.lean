import Worklist.Proofs.Paging.Geometry

/-!
# Links as requests

Whoever sends the offset and the size of a link back as a request is given the very rows that the
link announced. Only a link to no rows is read as something else, since a size of zero asks for the
default size; so it matters which links lead to no rows.
-/

namespace Worklist

open Text (maxInt64)

namespace PageRange

/-- The request that the offset and the size of a link are read as. -/
def request (p : PageRange) (sizes : PageSizes) : PageRequest :=
  .ofParams (some (String.ofList (Text.decimal p.offset))) (some (Int64.ofNat p.limit)) sizes

end PageRange

namespace PageRequest

theorem limit_le_of_ofParams {offset : Option String} {limit : Option Int64} {sizes : PageSizes}
    {page : PageRequest} (h : ofParams offset limit sizes = page) :
    page.limit ≤ sizes.normalized.maxLimit := by
  rw [← h]
  exact chooseLimit_le _ _

/-- A page that ends within a signed word starts within one and is no larger than one. -/
theorem words_of_end {page : PageRequest} (h : page.offset + page.limit < 2 ^ 63) :
    page.offset ≤ maxInt64 ∧ page.limit ≤ maxInt64 := by
  unfold maxInt64
  omega

end PageRequest

namespace PageRanges

/-- A range is among the pages around a page. -/
def Has (r : PageRanges) (p : PageRange) : Prop :=
  p = r.first ∨ p ∈ r.prev ∨ p ∈ r.next ∨ p = r.last

section Around

variable {page : PageRequest} {count found : Nat} {p : PageRange}
  (hOffset : page.offset ≤ maxInt64) (hLimit : page.limit ≤ maxInt64)
include hOffset hLimit

theorem first_limit_eq_zero_iff :
    (around page found count).first.limit = 0 ↔ 0 < page.offset ∧ page.limit ∣ page.offset := by
  have hPos := page.limit_pos
  rw [first_around hOffset hLimit, Nat.dvd_iff_mod_eq_zero]
  dsimp only
  split
  · rename_i hRows
    exact ⟨fun h => ⟨hRows, h⟩, And.right⟩
  · omega

variable (hCount : count ≤ maxInt64)
include hCount

/-- From a page that starts behind the last row, the way back leads to a page with the last row,
which ends before the page. -/
theorem prev_behind_around (hBehind : count < page.offset)
    (hp : p ∈ (around page found count).prev) :
    (p.offset ≤ count - 1 ∧ count - 1 < p.offset + p.limit) ∧ p.offset + p.limit ≤ page.offset := by
  have hRows := ((mem_prev_iff hOffset hLimit hCount).mp hp).1.2
  have hCovers := retreat_covers (page.offset : Int) count (limit_pos_int page)
  have hCut := prev_isCut_around hOffset hLimit hCount hp
  rw [prevStart, if_neg (by omega)] at hCut
  have hFrom := hCut.offset_eq
  have hSize := hCut.limit_eq
  -- Only whole pages lie between the end of the page before and the page.
  have hGap := Nat.mod_le (page.offset - count) page.limit
  have hEnd : retreat page.offset page.limit count + page.limit =
      count + ((page.offset - count) % page.limit : Nat) := by
    rw [retreat_eq, Int.natCast_emod, Int.ofNat_sub hBehind.le]
    omega
  omega

/-- The page before has rows, and all of them stand before the page. -/
theorem prev_before_around (hp : p ∈ (around page found count).prev) :
    0 < p.limit ∧ p.offset + p.limit ≤ page.offset := by
  have hPos := page.limit_pos
  have hRows := ((mem_prev_iff hOffset hLimit hCount).mp hp).1
  by_cases hEnd : page.offset ≤ count
  · have hAdjacent := prev_adjacent_around hOffset hLimit hCount hEnd hp
    omega
  · have hBehind := prev_behind_around hOffset hLimit hCount (by omega) hp
    omega

/-- Without rows, going back in whole pages ends with the part of a page that the offset leaves
over. -/
theorem last_limit_eq_zero_iff :
    (around page found count).last.limit = 0 ↔ count = 0 ∧ page.limit ∣ page.offset := by
  by_cases hRows : count = 0
  · have hStart : lastStart page.offset page.limit count =
        (page.offset % page.limit : Nat) - page.limit := by
      rw [lastStart, if_neg (by omega), retreat_eq, hRows]
      simp
    have hMod := Nat.mod_lt page.offset page.limit_pos
    have hSize := (last_isCut_around hOffset hLimit hCount found).limit_eq
    rw [Nat.dvd_iff_mod_eq_zero]
    omega
  · have hCovers := last_covers_around hOffset hLimit hCount (by omega) found
    omega

/-- The pages around a page start within a signed word, and none of them is larger than the page. -/
theorem bounds_around (hFound : found ≤ maxInt64) (hp : (around page found count).Has p) :
    p.offset ≤ maxInt64 ∧ p.limit ≤ page.limit := by
  rcases hp with rfl | hp | hp | rfl
  case inl =>
    have hMod := Nat.mod_lt page.offset page.limit_pos
    rw [first_around hOffset hLimit]
    dsimp only
    split
    · omega
    · omega
  case inr.inl =>
    have hBefore := prev_before_around hOffset hLimit hCount hp
    exact ⟨by omega, (prev_inStep hOffset hLimit hCount hp).limit_le⟩
  case inr.inr.inl =>
    rw [next_around_eq hOffset hLimit hCount hFound] at hp
    split at hp
    · obtain rfl := Option.some.inj hp
      dsimp only
      omega
    · cases hp
  case inr.inr.inr =>
    have hCovers := lastStart_covers page.offset count (limit_pos_int page)
    have hFrom := (last_isCut_around hOffset hLimit hCount found).offset_eq
    exact ⟨by omega, (last_inStep hOffset hLimit hCount found).limit_le⟩

theorem next_limit_pos (hFound : found ≤ maxInt64) (hp : p ∈ (around page found count).next) :
    0 < p.limit := by
  rw [next_around_eq hOffset hLimit hCount hFound] at hp
  split at hp
  · obtain rfl := Option.some.inj hp
    exact page.limit_pos
  · cases hp

end Around

/-- However a page was asked for, its size is within bounds, and the links around it, sent back as
requests, are read as they stand unless they lead to no rows. The links to no rows are the one to
the first page, if the page starts whole pages behind the first row, and the one to the last page,
if there are no rows at all and the page starts whole pages behind where the first one would be. -/
theorem links_are_read_as_they_stand (offset : Option String) (limit : Option Int64)
    (sizes : PageSizes) {page : PageRequest}
    (hPage : PageRequest.ofParams offset limit sizes = page) :
    (1 ≤ page.limit ∧ page.limit ≤ max 1 sizes.maxLimit) ∧
    ∀ found count, page.offset + page.limit < 2 ^ 63 → found < 2 ^ 63 → count < 2 ^ 63 →
      (∀ p, (around page found count).Has p → p.limit ≠ 0 → (p.request sizes).range = p) ∧
      ((around page found count).first.limit = 0 ↔
        0 < page.offset ∧ page.limit ∣ page.offset) ∧
      ((around page found count).last.limit = 0 ↔ count = 0 ∧ page.limit ∣ page.offset) ∧
      (∀ p ∈ (around page found count).prev, p.limit ≠ 0) ∧
      ∀ p ∈ (around page found count).next, p.limit ≠ 0 := by
  have hMax := PageRequest.limit_le_of_ofParams hPage
  refine ⟨⟨page.limit_pos, hMax.trans (Nat.max_comm _ _).le⟩, fun found count hEnd hf hc => ?_⟩
  obtain ⟨hOffset, hLimit⟩ := PageRequest.words_of_end hEnd
  have hFound : found ≤ maxInt64 := Nat.le_pred_of_lt hf
  have hCount : count ≤ maxInt64 := Nat.le_pred_of_lt hc
  refine ⟨fun p hp hne => ?_, first_limit_eq_zero_iff hOffset hLimit,
    last_limit_eq_zero_iff hOffset hLimit hCount, fun p hp => ?_, fun p hp => ?_⟩
  · have hBounds := bounds_around hOffset hLimit hCount hFound hp
    exact PageRequest.range_ofParams hBounds.1 (Nat.pos_of_ne_zero hne) (hBounds.2.trans hMax)
      (hBounds.2.trans hLimit)
  · exact (prev_before_around hOffset hLimit hCount hp).1.ne'
  · exact (next_limit_pos hOffset hLimit hCount hFound hp).ne'

/-- The page before the page of three rows from the twenty-first on, of ten rows. -/
theorem link_before_twentyOne :
    PageRequest.ofParams (some "+21") (some 7) ⟨500, 3⟩ = ⟨21, 3, by decide⟩ ∧
      ⟨9, 3⟩ ∈ (around ⟨21, 3, by decide⟩ 0 10).prev ∧
      (PageRange.request ⟨9, 3⟩ ⟨500, 3⟩).range = ⟨9, 3⟩ ∧
      (around ⟨21, 3, by decide⟩ 0 10).first.limit = 0 ∧
      (around ⟨21, 3, by decide⟩ 0 0).last.limit = 0 := by
  have hPage : PageRequest.ofParams (some "+21") (some 7) ⟨500, 3⟩ = ⟨21, 3, by decide⟩ := by
    decide +kernel
  have hPrev : ⟨9, 3⟩ ∈ (around ⟨21, 3, by decide⟩ 0 10).prev := by
    decide
  obtain ⟨-, hLinks⟩ := links_are_read_as_they_stand (some "+21") (some 7) ⟨500, 3⟩ hPage
  obtain ⟨hRead, hFirst, -⟩ := hLinks 0 10 (by decide) (by decide) (by decide)
  obtain ⟨-, -, hLast, -⟩ := hLinks 0 0 (by decide) (by decide) (by decide)
  exact ⟨hPage, hPrev, hRead _ (.inr (.inl hPrev)) (by decide), hFirst.mpr (by decide),
    hLast.mpr (by decide)⟩

end PageRanges

end Worklist
