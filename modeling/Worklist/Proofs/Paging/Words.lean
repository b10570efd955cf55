import Worklist.Proofs.Except
import Worklist.Proofs.Paging.Geometry

/-!
# Pages in signed words

The pages around a page, computed in signed words of 64 bits. A step fails if its result does not
fit a word, if it divides by zero, or if it takes a negative word for a number of rows. As long as
the page ends within a signed word no step fails, and the ranges are those that the steps give on
integers: in words nothing is lost.
-/

namespace Worklist

open Text (maxInt64)

namespace SignedWord

/-! ### Steps -/

/-- Why a step in words fails. -/
inductive Fault where
  /-- The result does not fit a word. -/
  | overflow
  /-- The divisor is zero. -/
  | zeroDivisor
  /-- A negative word cannot be a number of rows. -/
  | negative
  deriving Repr, DecidableEq

/-- The integer lies in the range of signed words. -/
def Fits (n : Int) : Prop :=
  -0x8000000000000000 ≤ n ∧ n ≤ 0x7fffffffffffffff

/-- The word of an integer. -/
def ofInt (n : Int) : Except Fault Int64 :=
  match Text.toInt64? n with
  | some w => .ok w
  | none => .error .overflow

/-- The sum of two words. -/
def add (a b : Int64) : Except Fault Int64 :=
  ofInt (a.toInt + b.toInt)

/-- The difference of two words. -/
def sub (a b : Int64) : Except Fault Int64 :=
  ofInt (a.toInt - b.toInt)

/-- The product of two words. -/
def mul (a b : Int64) : Except Fault Int64 :=
  ofInt (a.toInt * b.toInt)

/-- The quotient of two words, rounded towards zero. -/
def quotient (a b : Int64) : Except Fault Int64 :=
  if b = 0 then .error .zeroDivisor else ofInt (a.toInt.tdiv b.toInt)

/-- What division leaves over. It fails where the quotient does. -/
def remainder (a b : Int64) : Except Fault Int64 := do
  let _ ← quotient a b
  ofInt (a.toInt.tmod b.toInt)

/-- The sum of two words, or the word nearest to it. -/
def addSaturating (a b : Int64) : Int64 :=
  .ofInt (max (-0x8000000000000000) (min (a.toInt + b.toInt) 0x7fffffffffffffff))

/-- The part of a number of rows that a word can hold. -/
def ofRows (n : Nat) : Int64 :=
  .ofInt (PageRequest.saturate n)

/-- The number of rows that a word stands for. -/
def rows (w : Int64) : Except Fault Nat :=
  if w < 0 then .error .negative else .ok w.toInt.toNat

section Steps

variable {a b w : Int64} {n : Int}

theorem fits_toInt (w : Int64) : Fits w.toInt := by
  have hLow := w.le_toInt
  have hHigh := w.toInt_lt
  unfold Fits
  omega

theorem toInt_ofInt (h : Fits n) : (Int64.ofInt n).toInt = n := by
  unfold Fits at h
  exact Int64.toInt_ofInt_of_le (by omega) (by omega)

theorem ofInt_eq_ok_iff : ofInt n = .ok w ↔ w.toInt = n := by
  unfold ofInt Text.toInt64?
  split
  case h_1 h =>
    split at h
    · rename_i hFits
      cases h
      constructor
      · intro hEq
        cases hEq
        exact toInt_ofInt hFits
      · rintro rfl
        rw [Int64.ofInt_toInt]
    · cases h
  case h_2 h =>
    split at h
    · cases h
    · rename_i hFits
      constructor
      · intro hEq
        cases hEq
      · rintro rfl
        exact absurd (fits_toInt w) hFits

/-- An integer has a word exactly if it is in range. -/
theorem exists_ofInt_iff : (∃ w, ofInt n = .ok w) ↔ Fits n := by
  constructor
  · rintro ⟨w, hw⟩
    rw [← ofInt_eq_ok_iff.mp hw]
    exact fits_toInt w
  · intro h
    exact ⟨Int64.ofInt n, ofInt_eq_ok_iff.mpr (toInt_ofInt h)⟩

theorem exists_ofInt (h : Fits n) : ∃ w, ofInt n = .ok w ∧ w.toInt = n := by
  obtain ⟨w, hw⟩ := exists_ofInt_iff.mpr h
  exact ⟨w, hw, ofInt_eq_ok_iff.mp hw⟩

theorem exists_add (h : Fits (a.toInt + b.toInt)) :
    ∃ w, add a b = .ok w ∧ w.toInt = a.toInt + b.toInt :=
  exists_ofInt h

theorem exists_sub (h : Fits (a.toInt - b.toInt)) :
    ∃ w, sub a b = .ok w ∧ w.toInt = a.toInt - b.toInt :=
  exists_ofInt h

theorem exists_mul (h : Fits (a.toInt * b.toInt)) :
    ∃ w, mul a b = .ok w ∧ w.toInt = a.toInt * b.toInt :=
  exists_ofInt h

/-- On words that are not negative it makes no difference how a quotient is rounded. -/
theorem exists_quotient (ha : 0 ≤ a.toInt) (hb : 0 < b.toInt) :
    ∃ w, quotient a b = .ok w ∧ w.toInt = a.toInt / b.toInt := by
  have hZero : b ≠ 0 := by
    rintro rfl
    exact absurd hb (by decide)
  have hLow := Int.ediv_nonneg ha hb.le
  have hHigh := Int.ediv_le_self b.toInt ha
  have hFits := fits_toInt a
  rw [quotient, if_neg hZero, Int.tdiv_eq_ediv_of_nonneg ha]
  apply exists_ofInt
  unfold Fits at hFits ⊢
  omega

theorem exists_remainder (ha : 0 ≤ a.toInt) (hb : 0 < b.toInt) :
    ∃ w, remainder a b = .ok w ∧ w.toInt = a.toInt % b.toInt := by
  obtain ⟨q, hq, -⟩ := exists_quotient ha hb
  have hLow := Int.emod_nonneg a.toInt hb.ne'
  have hHigh := Int.emod_lt_of_pos a.toInt hb
  have hFits := fits_toInt b
  rw [remainder, hq, ok_bind, Int.tmod_eq_emod_of_nonneg ha]
  apply exists_ofInt
  unfold Fits at hFits ⊢
  omega

theorem toInt_addSaturating (ha : 0 ≤ a.toInt) (hb : 0 ≤ b.toInt) :
    (addSaturating a b).toInt = PageRanges.nextStart a.toInt b.toInt := by
  rw [addSaturating, toInt_ofInt]
  · unfold PageRanges.nextStart maxInt64
    omega
  · unfold Fits
    omega

theorem toInt_ofRows (n : Nat) : (ofRows n).toInt = PageRequest.saturate n := by
  apply toInt_ofInt
  unfold Fits PageRequest.saturate maxInt64
  omega

theorem lt_iff : a < b ↔ a.toInt < b.toInt :=
  Int64.lt_iff_toInt_lt

theorem le_iff : a ≤ b ↔ a.toInt ≤ b.toInt :=
  Int64.le_iff_toInt_le

theorem rows_eq_ok (h : 0 ≤ w.toInt) : rows w = .ok w.toInt.toNat := by
  have hPlain : ¬w < 0 := by
    rw [lt_iff, Int64.toInt_zero]
    omega
  rw [rows, if_neg hPlain]

end Steps

/-! ### Ranges -/

/-- The rows from `start` on; those before the first row do not count. -/
def clamped (start limit : Int64) : Except Fault PageRange := do
  if start < 0 then
    let left ← add limit start
    return ⟨← rows 0, ← rows left⟩
  else
    return ⟨← rows start, ← rows limit⟩

/-- The start of the page that meets the end of `count` rows, going back in whole pages. -/
def retreat (offset limit count : Int64) : Except Fault Int64 := do
  let behind ← sub offset count
  let pages ← quotient behind limit
  let pages ← add pages 1
  let way ← mul pages limit
  sub offset way

/-- The start of the page before. -/
def prevStart (offset limit count : Int64) : Except Fault Int64 :=
  if offset ≤ count then sub offset limit else retreat offset limit count

/-- The start of the last page. -/
def lastStart (offset limit count : Int64) : Except Fault Int64 := do
  if offset < count then
    let ahead ← sub count offset
    let ahead ← sub ahead 1
    let pages ← quotient ahead limit
    let way ← mul pages limit
    add offset way
  else
    retreat offset limit count

/-- The first page. -/
def first (offset limit : Int64) : Except Fault PageRange := do
  let size ← if 0 < offset then remainder offset limit else pure limit
  return ⟨0, ← rows size⟩

/-- The page before, if there is one. -/
def prev (offset limit count : Int64) : Except Fault (Option PageRange) := do
  if 0 < offset ∧ 0 < count then
    let start ← prevStart offset limit count
    return some (← clamped start limit)
  else
    return none

/-- The page after, if there is one. -/
def next (offset limit found count : Int64) : Except Fault (Option PageRange) := do
  let start := addSaturating offset found
  if start < count then
    return some ⟨← rows start, ← rows limit⟩
  else
    return none

/-- The last page. -/
def last (offset limit count : Int64) : Except Fault PageRange := do
  let start ← lastStart offset limit count
  clamped start limit

/-- The pages around a page on which `found` of `count` rows stand. -/
def around (page : PageRequest) (found count : Nat) : Except Fault PageRanges := do
  let offset := ofRows page.offset
  let limit := ofRows page.limit
  return {
    first := ← first offset limit
    prev := ← prev offset limit (ofRows count)
    next := ← next offset limit (ofRows found) (ofRows count)
    last := ← last offset limit (ofRows count) }

section Ranges

variable {start offset limit found count : Int64}

theorem clamped_eq_ok (hLimit : 0 ≤ limit.toInt) (hLeft : 0 ≤ limit.toInt + start.toInt) :
    clamped start limit = .ok (.clamped start.toInt limit.toInt) := by
  unfold clamped PageRange.clamped
  by_cases hStart : start.toInt < 0
  · have hFits := fits_toInt limit
    obtain ⟨left, hAdd, hSum⟩ := exists_add (a := limit) (b := start) (by
      unfold Fits at hFits ⊢
      omega)
    rw [if_pos (lt_iff.mpr hStart), if_pos hStart, hAdd, ok_bind, rows_eq_ok (by decide), ok_bind,
      rows_eq_ok (by omega), hSum]
    rfl
  · rw [if_neg (lt_iff.not.mpr hStart), if_neg hStart, rows_eq_ok (by omega), ok_bind,
      rows_eq_ok hLimit]
    rfl

/-- A number of rows rounded up to whole pages, one of them to spare. -/
theorem wholePages_bounds {n limit : Int} (hn : 0 ≤ n) (hLimit : 0 < limit) :
    n / limit + 1 ≤ (n / limit + 1) * limit ∧ (n / limit + 1) * limit ≤ n + limit := by
  have hPages := Int.ediv_nonneg hn hLimit.le
  have hWay := Int.ediv_mul_le n hLimit.ne'
  constructor
  · exact le_mul_of_one_le_right (by omega) hLimit
  · rw [Int.add_mul, Int.one_mul]
    omega

section Starts

variable (hCount : 0 ≤ count.toInt) (hLimit : 0 < limit.toInt)
include hCount hLimit

/-- The way back is rounded up to whole pages, so it may be longer than the offset, but by no more
than a page. -/
theorem exists_retreat (hBehind : count.toInt ≤ offset.toInt)
    (hEnd : Fits (offset.toInt + limit.toInt)) :
    ∃ w, retreat offset limit count = .ok w ∧
      w.toInt = PageRanges.retreat offset.toInt limit.toInt count.toInt := by
  have hGap : 0 ≤ offset.toInt - count.toInt := by omega
  have hPages := Int.ediv_nonneg hGap hLimit.le
  obtain ⟨hMore, hWay⟩ := wholePages_bounds hGap hLimit
  unfold Fits at hEnd
  obtain ⟨behind, hSub, hBehindInt⟩ := exists_sub (a := offset) (b := count) (by
    unfold Fits
    omega)
  obtain ⟨pages, hQuotient, hPagesInt⟩ := exists_quotient (a := behind) (b := limit)
    (by omega) hLimit
  rw [hBehindInt] at hPagesInt
  obtain ⟨more, hAdd, hMoreInt⟩ := exists_add (a := pages) (b := 1) (by
    rw [hPagesInt, Int64.toInt_one]
    unfold Fits
    omega)
  rw [hPagesInt, Int64.toInt_one] at hMoreInt
  obtain ⟨way, hMul, hWayInt⟩ := exists_mul (a := more) (b := limit) (by
    rw [hMoreInt]
    unfold Fits
    omega)
  rw [hMoreInt] at hWayInt
  obtain ⟨back, hBack, hBackInt⟩ := exists_sub (a := offset) (b := way) (by
    rw [hWayInt]
    unfold Fits
    omega)
  refine ⟨back, ?_, ?_⟩
  · rw [retreat, hSub, ok_bind, hQuotient, ok_bind, hAdd, ok_bind, hMul, ok_bind, hBack]
  · rw [hBackInt, hWayInt, PageRanges.retreat]

theorem exists_prevStart (hOffset : 0 ≤ offset.toInt)
    (hEnd : Fits (offset.toInt + limit.toInt)) :
    ∃ w, prevStart offset limit count = .ok w ∧
      w.toInt = PageRanges.prevStart offset.toInt limit.toInt count.toInt := by
  unfold prevStart PageRanges.prevStart
  by_cases hAt : offset.toInt ≤ count.toInt
  · rw [if_pos (le_iff.mpr hAt), if_pos hAt]
    apply exists_sub
    unfold Fits at hEnd ⊢
    omega
  · rw [if_neg (le_iff.not.mpr hAt), if_neg hAt]
    exact exists_retreat hCount hLimit (by omega) hEnd

theorem exists_lastStart (hOffset : 0 ≤ offset.toInt)
    (hEnd : Fits (offset.toInt + limit.toInt)) :
    ∃ w, lastStart offset limit count = .ok w ∧
      w.toInt = PageRanges.lastStart offset.toInt limit.toInt count.toInt := by
  unfold lastStart PageRanges.lastStart
  by_cases hAt : offset.toInt < count.toInt
  · rw [if_pos (lt_iff.mpr hAt), if_pos hAt]
    have hFits := fits_toInt count
    have hGap : 0 ≤ count.toInt - offset.toInt - 1 := by omega
    have hPages := Int.ediv_nonneg hGap hLimit.le
    have hWay := Int.ediv_mul_le (count.toInt - offset.toInt - 1) hLimit.ne'
    have hWayLow := Int.mul_nonneg hPages hLimit.le
    unfold Fits at hFits
    obtain ⟨ahead, hSub, hAheadInt⟩ := exists_sub (a := count) (b := offset) (by
      unfold Fits
      omega)
    obtain ⟨gap, hLess, hGapInt⟩ := exists_sub (a := ahead) (b := 1) (by
      rw [hAheadInt, Int64.toInt_one]
      unfold Fits
      omega)
    rw [hAheadInt, Int64.toInt_one] at hGapInt
    obtain ⟨pages, hQuotient, hPagesInt⟩ := exists_quotient (a := gap) (b := limit)
      (by omega) hLimit
    rw [hGapInt] at hPagesInt
    obtain ⟨way, hMul, hWayInt⟩ := exists_mul (a := pages) (b := limit) (by
      rw [hPagesInt]
      unfold Fits
      omega)
    rw [hPagesInt] at hWayInt
    obtain ⟨there, hAdd, hThereInt⟩ := exists_add (a := offset) (b := way) (by
      rw [hWayInt]
      unfold Fits
      omega)
    refine ⟨there, ?_, ?_⟩
    · rw [hSub, ok_bind, hLess, ok_bind, hQuotient, ok_bind, hMul, ok_bind, hAdd]
    · rw [hThereInt, hWayInt]
  · rw [if_neg (lt_iff.not.mpr hAt), if_neg hAt]
    exact exists_retreat hCount hLimit (by omega) hEnd

end Starts

theorem first_eq_ok (hLimit : 0 < limit.toInt) (hOffset : 0 ≤ offset.toInt) :
    first offset limit =
      .ok ⟨0, (if 0 < offset.toInt then offset.toInt % limit.toInt else limit.toInt).toNat⟩ := by
  unfold first
  simp only [lt_iff, Int64.toInt_zero]
  split
  · obtain ⟨size, hSize, hSizeInt⟩ := exists_remainder hOffset hLimit
    have hLow := Int.emod_nonneg offset.toInt hLimit.ne'
    rw [hSize, ok_bind, rows_eq_ok (by omega), hSizeInt]
    rfl
  · rw [pure_bind, rows_eq_ok hLimit.le]
    rfl

theorem next_eq_ok (hLimit : 0 < limit.toInt) (hOffset : 0 ≤ offset.toInt)
    (hFound : 0 ≤ found.toInt) :
    next offset limit found count =
      .ok (if PageRanges.nextStart offset.toInt found.toInt < count.toInt then
        some ⟨(PageRanges.nextStart offset.toInt found.toInt).toNat, limit.toInt.toNat⟩
      else none) := by
  have hStart := toInt_addSaturating hOffset hFound
  have hLow : 0 ≤ (addSaturating offset found).toInt := by
    rw [hStart]
    unfold PageRanges.nextStart
    omega
  unfold next
  simp only [lt_iff, hStart]
  split
  · rw [rows_eq_ok hLow, rows_eq_ok hLimit.le, hStart]
    rfl
  · rfl

section Clamped

variable (hCount : 0 ≤ count.toInt) (hLimit : 0 < limit.toInt) (hOffset : 0 ≤ offset.toInt)
  (hEnd : Fits (offset.toInt + limit.toInt))
include hCount hLimit hOffset hEnd

theorem last_eq_ok :
    last offset limit count =
      .ok (.clamped (PageRanges.lastStart offset.toInt limit.toInt count.toInt) limit.toInt) := by
  obtain ⟨start, hStart, hStartInt⟩ := exists_lastStart hCount hLimit hOffset hEnd
  have hCovers := PageRanges.lastStart_covers offset.toInt count.toInt hLimit
  rw [last, hStart, ok_bind, clamped_eq_ok hLimit.le (by omega), hStartInt]

theorem prev_eq_ok :
    prev offset limit count =
      .ok (if 0 < offset.toInt ∧ 0 < count.toInt then
        some (.clamped (PageRanges.prevStart offset.toInt limit.toInt count.toInt) limit.toInt)
      else none) := by
  obtain ⟨start, hStart, hStartInt⟩ := exists_prevStart hCount hLimit hOffset hEnd
  have hLeft : 0 ≤ limit.toInt + start.toInt := by
    have hCovers := PageRanges.retreat_covers offset.toInt count.toInt hLimit
    rw [hStartInt]
    unfold PageRanges.prevStart
    split <;> omega
  unfold prev
  simp only [lt_iff, Int64.toInt_zero]
  split
  · rw [hStart, ok_bind, clamped_eq_ok hLimit.le hLeft, hStartInt]
    rfl
  · rfl

end Clamped

end Ranges

/-- As long as a page ends within a signed word, the pages around it are computed in words without
a failing step, whatever the numbers of rows are, and are the same as on integers. -/
theorem page_steps_stay_in_words {page : PageRequest}
    (hEnd : page.offset + page.limit ≤ maxInt64) (found count : Nat) :
    around page found count = .ok (PageRanges.around page found count) := by
  have hPos := page.limit_pos
  have hOffset := toInt_ofRows page.offset
  have hLimit := toInt_ofRows page.limit
  have hFound := toInt_ofRows found
  have hCount := toInt_ofRows count
  have hRoom : Fits ((ofRows page.offset).toInt + (ofRows page.limit).toInt) := by
    rw [hOffset, hLimit, PageRequest.saturate_of_le (by omega),
      PageRequest.saturate_of_le (by omega)]
    unfold maxInt64 at hEnd
    unfold Fits
    omega
  have hOffsetLow : 0 ≤ (ofRows page.offset).toInt := by
    rw [hOffset]
    exact Int.natCast_nonneg _
  have hFoundLow : 0 ≤ (ofRows found).toInt := by
    rw [hFound]
    exact Int.natCast_nonneg _
  have hCountLow : 0 ≤ (ofRows count).toInt := by
    rw [hCount]
    exact Int.natCast_nonneg _
  have hLimitPos : 0 < (ofRows page.limit).toInt := by
    rw [hLimit, PageRequest.saturate_of_le (by omega)]
    exact PageRanges.limit_pos_int page
  rw [around, first_eq_ok hLimitPos hOffsetLow, prev_eq_ok hCountLow hLimitPos hOffsetLow hRoom,
    next_eq_ok hLimitPos hOffsetLow hFoundLow, last_eq_ok hCountLow hLimitPos hOffsetLow hRoom,
    hOffset, hLimit, hFound, hCount]
  rfl

/-- From almost the last row that a word can count to the only one there is: the way back is longer
than the offset. -/
theorem longest_way_back_fits :
    (maxInt64 - 5) + 5 ≤ maxInt64 ∧
      around ⟨maxInt64 - 5, 5, by decide⟩ 0 1 = .ok ⟨⟨0, 2⟩, some ⟨0, 2⟩, none, ⟨0, 2⟩⟩ := by
  have hRanges : PageRanges.around ⟨maxInt64 - 5, 5, by decide⟩ 0 1 =
      ⟨⟨0, 2⟩, some ⟨0, 2⟩, none, ⟨0, 2⟩⟩ := by
    decide
  refine ⟨by decide, ?_⟩
  rw [← hRanges]
  exact page_steps_stay_in_words (by decide) 0 1

/-- A page that ends behind the last word is too far from the first row to go back to it. -/
example : around ⟨maxInt64, 2, by decide⟩ 0 0 = .error .overflow := by
  decide

end SignedWord

end Worklist
