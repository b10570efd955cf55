import Mathlib.Data.Int.ModEq
import Worklist.Proofs.Paging.Links

/-!
# Where the pages around a page lie

The page before a page and the last page start whole pages away from it, wherever it starts itself;
what would stand before the first row is cut off. So the page before ends where the page starts, the
last page meets the end of the rows, and no number of rows is negative.
-/

namespace Worklist

open Text (maxInt64)

namespace PageRange

/-- The page of `limit` rows from `start` on, without those before the first row. -/
structure IsCut (r : PageRange) (start : Int) (limit : Nat) : Prop where
  offset_eq : (r.offset : Int) = max start 0
  limit_eq : (r.limit : Int) = limit + min start 0

/-- Rows that start whole pages away from a page. -/
def InStep (r : PageRange) (page : PageRequest) : Prop :=
  ∃ start : Int, start ≡ page.offset [ZMOD page.limit] ∧ r.IsCut start page.limit

theorem isCut_clamped {start : Int} {limit : Nat} (h : 0 ≤ limit + start) :
    (clamped start limit).IsCut start limit := by
  unfold clamped
  split
  all_goals
    constructor
    · simp only
      omega
    · simp only
      omega

variable {r : PageRange} {page : PageRequest}

theorem InStep.limit_le (h : r.InStep page) : r.limit ≤ page.limit := by
  obtain ⟨start, -, hCut⟩ := h
  have hLimit := hCut.limit_eq
  omega

/-- Only rows that are cut off can bring a page out of step. -/
theorem InStep.modEq_or_cut (h : r.InStep page) :
    r.offset ≡ page.offset [MOD page.limit] ∨ r.offset = 0 ∧ r.limit < page.limit := by
  obtain ⟨start, hStep, hCut⟩ := h
  have hOffset := hCut.offset_eq
  have hLimit := hCut.limit_eq
  by_cases hStart : start < 0
  · right
    omega
  · left
    apply Int.natCast_modEq_iff.mp
    have hEq : (r.offset : Int) = start := by omega
    rw [hEq]
    exact hStep

end PageRange

namespace PageRanges

/-! ### Starts -/

variable {offset limit count : Int}

/-- Going back in whole pages ends at the page that meets the end of the rows. -/
theorem retreat_eq : retreat offset limit count = count + (offset - count) % limit - limit := by
  have hParts := Int.emod_add_mul_ediv (offset - count) limit
  unfold retreat
  rw [Int.add_mul, Int.one_mul, Int.mul_comm]
  omega

theorem lastStart_eq (h : offset < count) :
    lastStart offset limit count = count - 1 - (count - offset - 1) % limit := by
  have hParts := Int.emod_add_mul_ediv (count - offset - 1) limit
  rw [lastStart, if_pos h, Int.mul_comm]
  omega

theorem retreat_covers (offset count : Int) (hPos : 0 < limit) :
    retreat offset limit count ≤ count - 1 ∧ count - 1 < retreat offset limit count + limit := by
  have hLow := Int.emod_nonneg (offset - count) hPos.ne'
  have hHigh := Int.emod_lt_of_pos (offset - count) hPos
  rw [retreat_eq]
  omega

theorem lastStart_covers (offset count : Int) (hPos : 0 < limit) :
    lastStart offset limit count ≤ count - 1 ∧
      count - 1 < lastStart offset limit count + limit := by
  by_cases h : offset < count
  · have hLow := Int.emod_nonneg (count - offset - 1) hPos.ne'
    have hHigh := Int.emod_lt_of_pos (count - offset - 1) hPos
    rw [lastStart_eq h]
    omega
  · rw [lastStart, if_neg h]
    exact retreat_covers offset count hPos

theorem retreat_modEq : retreat offset limit count ≡ offset [ZMOD limit] := by
  apply Int.modEq_iff_dvd.mpr
  refine ⟨(offset - count) / limit + 1, ?_⟩
  unfold retreat
  ring

theorem prevStart_modEq : prevStart offset limit count ≡ offset [ZMOD limit] := by
  unfold prevStart
  split
  · apply Int.modEq_iff_dvd.mpr
    exact ⟨1, by ring⟩
  · exact retreat_modEq

theorem lastStart_modEq : lastStart offset limit count ≡ offset [ZMOD limit] := by
  unfold lastStart
  split
  · apply Int.modEq_iff_dvd.mpr
    exact ⟨-((count - offset - 1) / limit), by ring⟩
  · exact retreat_modEq

/-- From a page behind the last row the page before is the last one. -/
theorem prevStart_eq_lastStart (h : count ≤ offset) :
    prevStart offset limit count = lastStart offset limit count := by
  have hBehind : ¬offset < count := by omega
  rw [lastStart, if_neg hBehind, prevStart]
  split
  · have hEnd : offset = count := by omega
    rw [hEnd, retreat_eq, Int.sub_self, Int.zero_emod]
    omega
  · rfl

/-! ### Ranges -/

theorem limit_pos_int (page : PageRequest) : (0 : Int) < page.limit :=
  Int.natCast_pos.mpr page.limit_pos

section Around

variable {page : PageRequest} {count : Nat} (hOffset : page.offset ≤ maxInt64)
  (hLimit : page.limit ≤ maxInt64) (hCount : count ≤ maxInt64)
include hOffset hLimit

theorem first_around (found : Nat) :
    (around page found count).first =
      ⟨0, if 0 < page.offset then page.offset % page.limit else page.limit⟩ := by
  simp only [around, PageRequest.saturate_of_le hOffset, PageRequest.saturate_of_le hLimit,
    Int.natCast_pos]
  split
  · rw [← Int.natCast_emod, Int.toNat_natCast]
  · rw [Int.toNat_natCast]

include hCount

theorem prev_around_eq (found : Nat) :
    (around page found count).prev =
      if 0 < page.offset ∧ 0 < count then
        some (.clamped (prevStart page.offset page.limit count) page.limit)
      else none := by
  simp only [around, PageRequest.saturate_of_le hOffset, PageRequest.saturate_of_le hLimit,
    PageRequest.saturate_of_le hCount, Int.natCast_pos]

/-- A sum that does not fit a signed word is behind all rows, as its replacement is. -/
theorem next_around_eq {found : Nat} (hFound : found ≤ maxInt64) :
    (around page found count).next =
      if page.offset + found < count then some ⟨page.offset + found, page.limit⟩ else none := by
  simp only [around, PageRequest.saturate_of_le hOffset, PageRequest.saturate_of_le hLimit,
    PageRequest.saturate_of_le hCount, PageRequest.saturate_of_le hFound]
  by_cases h : page.offset + found < count
  · have hNext : nextStart page.offset found = (page.offset + found : Nat) := by
      unfold nextStart
      omega
    rw [hNext, if_pos (Int.ofNat_lt.mpr h), if_pos h, Int.toNat_natCast, Int.toNat_natCast]
  · have hNext : ¬nextStart page.offset found < count := by
      unfold nextStart
      omega
    rw [if_neg hNext, if_neg h]

theorem mem_prev_iff {found : Nat} {p : PageRange} :
    p ∈ (around page found count).prev ↔
      (0 < page.offset ∧ 0 < count) ∧
        p = .clamped (prevStart page.offset page.limit count) page.limit := by
  rw [prev_around_eq hOffset hLimit hCount found]
  split
  · rename_i h
    simp only [Option.mem_def, Option.some.injEq, h, and_self, true_and]
    exact eq_comm
  · rename_i h
    simp [h]

theorem last_isCut_around (found : Nat) :
    (around page found count).last.IsCut (lastStart page.offset page.limit count) page.limit := by
  have hCovers := lastStart_covers page.offset count (limit_pos_int page)
  rw [last_around hOffset hLimit hCount]
  exact PageRange.isCut_clamped (by omega)

theorem prev_isCut_around {found : Nat} {p : PageRange}
    (hp : p ∈ (around page found count).prev) :
    p.IsCut (prevStart page.offset page.limit count) page.limit := by
  obtain ⟨⟨hRows, -⟩, rfl⟩ := (mem_prev_iff hOffset hLimit hCount).mp hp
  apply PageRange.isCut_clamped
  by_cases hEnd : page.offset ≤ count
  · rw [prevStart, if_pos (Int.ofNat_le.mpr hEnd)]
    omega
  · have hCovers := lastStart_covers page.offset count (limit_pos_int page)
    rw [prevStart_eq_lastStart (by omega)]
    omega

theorem last_inStep (found : Nat) : (around page found count).last.InStep page :=
  ⟨_, lastStart_modEq, last_isCut_around hOffset hLimit hCount found⟩

theorem prev_inStep {found : Nat} {p : PageRange} (h : p ∈ (around page found count).prev) :
    p.InStep page :=
  ⟨_, prevStart_modEq, prev_isCut_around hOffset hLimit hCount h⟩

theorem prev_adjacent_around (hEnd : page.offset ≤ count) {found : Nat} {p : PageRange}
    (hp : p ∈ (around page found count).prev) :
    p.offset + p.limit = page.offset ∧ p.limit = min page.limit page.offset := by
  have hCut := prev_isCut_around hOffset hLimit hCount hp
  rw [prevStart, if_pos (Int.ofNat_le.mpr hEnd)] at hCut
  have hFrom := hCut.offset_eq
  have hSize := hCut.limit_eq
  omega

theorem last_covers_around (hRows : 0 < count) (found : Nat) :
    (around page found count).last.offset ≤ count - 1 ∧
      count - 1 < (around page found count).last.offset + (around page found count).last.limit := by
  have hCovers := lastStart_covers page.offset count (limit_pos_int page)
  have hCut := last_isCut_around hOffset hLimit hCount found
  have hFrom := hCut.offset_eq
  have hSize := hCut.limit_eq
  omega

theorem last_eq_around (hRow : page.offset < count) (found : Nat) :
    ∃ k, (around page found count).last.offset = page.offset + k * page.limit ∧
      (around page found count).last.limit = page.limit := by
  refine ⟨(count - page.offset - 1) / page.limit, ?_⟩
  have hGap : (count : Int) - page.offset - 1 = (count - page.offset - 1 : Nat) := by omega
  have hStart : lastStart page.offset page.limit count =
      (page.offset + (count - page.offset - 1) / page.limit * page.limit : Nat) := by
    rw [lastStart, if_pos (Int.ofNat_lt.mpr hRow), hGap]
    push_cast
    rfl
  rw [last_around hOffset hLimit hCount, hStart, PageRange.clamped_natCast]
  exact ⟨rfl, rfl⟩

end Around

/-- How the ranges `r` lie around a page on which `found` of `count` rows stand. -/
structure LieAround (page : PageRequest) (found count : Nat) (r : PageRanges) : Prop where
  first_eq : r.first = ⟨0, if 0 < page.offset then page.offset % page.limit else page.limit⟩
  first_limit_le : r.first.limit ≤ page.limit
  next_iff : r.next.isSome ↔ page.offset + found < count
  next_eq : ∀ p ∈ r.next, p = ⟨page.offset + found, page.limit⟩ ∧ p.offset < count
  prev_iff : r.prev.isSome ↔ 0 < page.offset ∧ 0 < count
  prev_adjacent : page.offset ≤ count → ∀ p ∈ r.prev,
    p.offset + p.limit = page.offset ∧ p.limit = min page.limit page.offset
  prev_eq_last : 0 < count → count ≤ page.offset → r.prev = some r.last
  prev_inStep : ∀ p ∈ r.prev, p.InStep page
  prev_modEq : ∀ p ∈ r.prev,
    p.offset ≡ page.offset [MOD page.limit] ∨ p.offset = 0 ∧ p.limit < page.limit
  prev_bounds : ∀ p ∈ r.prev, p.offset < count ∧ p.limit ≤ page.limit
  last_inStep : r.last.InStep page
  last_modEq : r.last.offset ≡ page.offset [MOD page.limit] ∨
    r.last.offset = 0 ∧ r.last.limit < page.limit
  last_limit_le : r.last.limit ≤ page.limit
  last_covers : 0 < count →
    r.last.offset ≤ count - 1 ∧ count - 1 < r.last.offset + r.last.limit
  last_eq : page.offset < count →
    ∃ k, r.last.offset = page.offset + k * page.limit ∧ r.last.limit = page.limit

/-- As long as the page ends within a signed word, and the numbers of rows fit one, the pages around
it lie as they should, wherever it starts. -/
theorem around_lies_around {page : PageRequest} {found count : Nat}
    (hEnd : page.offset + page.limit ≤ maxInt64) (hFound : found ≤ maxInt64)
    (hCount : count ≤ maxInt64) : LieAround page found count (around page found count) := by
  have hOffset : page.offset ≤ maxInt64 := by omega
  have hLimit : page.limit ≤ maxInt64 := by omega
  have hPos := page.limit_pos
  have hFirst := @first_around page count hOffset hLimit found
  have hNext := next_around_eq hOffset hLimit hCount hFound
  have hPrev := prev_around_eq hOffset hLimit hCount found
  have hLast := last_around hOffset hLimit hCount found
  have hLastStep := last_inStep hOffset hLimit hCount found
  have hBehind : 0 < count → count ≤ page.offset →
      (around page found count).prev = some (around page found count).last := by
    intro hRows hCountLe
    have hBoth : 0 < page.offset ∧ 0 < count := by omega
    rw [hPrev, hLast, if_pos hBoth,
      prevStart_eq_lastStart (Int.ofNat_le.mpr hCountLe)]
  constructor
  case first_eq => exact hFirst
  case first_limit_le =>
    rw [hFirst]
    dsimp only
    split
    · exact (Nat.mod_lt _ hPos).le
    · exact Nat.le_refl _
  case next_iff =>
    rw [hNext]
    split <;> simp_all
  case next_eq =>
    intro p hp
    rw [hNext] at hp
    split at hp
    · obtain rfl := Option.some.inj hp
      exact ⟨rfl, by assumption⟩
    · cases hp
  case prev_iff =>
    rw [hPrev]
    split <;> simp_all
  case prev_adjacent =>
    intro hCountLe p hp
    exact prev_adjacent_around hOffset hLimit hCount hCountLe hp
  case prev_eq_last => exact hBehind
  case prev_inStep =>
    intro p hp
    exact prev_inStep hOffset hLimit hCount hp
  case prev_modEq =>
    intro p hp
    exact (prev_inStep hOffset hLimit hCount hp).modEq_or_cut
  case prev_bounds =>
    intro p hp
    refine ⟨?_, (prev_inStep hOffset hLimit hCount hp).limit_le⟩
    obtain ⟨hRows, -⟩ := (mem_prev_iff hOffset hLimit hCount).mp hp
    by_cases hCountLe : count ≤ page.offset
    · rw [hBehind hRows.2 hCountLe] at hp
      obtain rfl := Option.some.inj hp
      have hCovers := last_covers_around hOffset hLimit hCount hRows.2 found
      omega
    · have hAdjacent := prev_adjacent_around hOffset hLimit hCount (by omega) hp
      omega
  case last_inStep => exact hLastStep
  case last_modEq => exact hLastStep.modEq_or_cut
  case last_limit_le => exact hLastStep.limit_le
  case last_covers =>
    intro hRows
    exact last_covers_around hOffset hLimit hCount hRows found
  case last_eq =>
    intro hRow
    exact last_eq_around hOffset hLimit hCount hRow found

/-- Twenty rows before a page of three, of ten rows. -/
theorem twenty_lies_behind_ten :
    20 + 3 ≤ maxInt64 ∧ 0 ≤ maxInt64 ∧ 10 ≤ maxInt64 ∧
      LieAround ⟨20, 3, by decide⟩ 0 10 ⟨⟨0, 2⟩, some ⟨8, 3⟩, none, ⟨8, 3⟩⟩ := by
  have hRanges : around ⟨20, 3, by decide⟩ 0 10 = ⟨⟨0, 2⟩, some ⟨8, 3⟩, none, ⟨8, 3⟩⟩ := by
    decide
  refine ⟨by decide, by decide, by decide, ?_⟩
  rw [← hRanges]
  exact around_lies_around (by decide) (by decide) (by decide)

end PageRanges

end Worklist
