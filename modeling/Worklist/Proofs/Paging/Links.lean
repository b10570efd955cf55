import Mathlib.Tactic.Ring
import Worklist.Paging.Links
import Worklist.Proofs.Lists
import Worklist.Proofs.Text.Numeral

/-!
# Pages one after another

As long as all numbers fit a signed word, the page after a page starts where it ends, the page
before that one is the page again, and both announce the same last page. The address of a page
gives away its range, and a request for a range that was announced is a request for that page.
-/

namespace Worklist

open Text (maxInt64)

namespace PageRequest

/-- The rows that a request asks for. -/
def range (r : PageRequest) : PageRange :=
  ⟨r.offset, r.limit⟩

/-- The rows behind them, as many again. -/
def after (r : PageRequest) : PageRange :=
  ⟨r.offset + r.limit, r.limit⟩

theorem saturate_of_le {n : Nat} (h : n ≤ maxInt64) : saturate n = n := by
  rw [saturate, Nat.min_eq_left h]

/-! ### Requests -/

theorem offset_ofParams_le (offset : Option String) (limit : Option Int64) (sizes : PageSizes) :
    (ofParams offset limit sizes).offset ≤ maxInt64 := by
  have hWord : ∀ n : Int64, n.toInt.toNat ≤ maxInt64 := by
    intro n
    have hlt := n.toInt_lt
    unfold maxInt64
    omega
  cases hStart : offset.bind fun raw => Text.int64? raw.toList with
  | none => simp [ofParams, hStart, normalize]
  | some n => simpa [ofParams, hStart, normalize] using hWord n

theorem chooseLimit_le (limit : Option Int) (sizes : PageSizes) :
    chooseLimit limit sizes ≤ sizes.normalized.maxLimit := by
  have hDefault : sizes.normalized.defaultLimit ≤ sizes.normalized.maxLimit := by
    simp only [PageSizes.normalized]
    omega
  unfold chooseLimit
  split
  · exact hDefault
  · split
    · exact Nat.min_le_right _ _
    · exact hDefault

theorem chooseLimit_ofNat {limit : Nat} {sizes : PageSizes} (hPos : 0 < limit)
    (hMax : limit ≤ sizes.normalized.maxLimit) : chooseLimit (some limit) sizes = limit := by
  have hInt : (0 : Int) < limit := Int.natCast_pos.mpr hPos
  rw [chooseLimit, if_pos hInt, Int.toNat_natCast, Nat.min_eq_left hMax]

/-- What is asked for in a link is what is given, unless the size is out of bounds. -/
theorem range_ofParams {offset limit : Nat} {sizes : PageSizes} (hOffset : offset ≤ maxInt64)
    (hPos : 0 < limit) (hMax : limit ≤ sizes.normalized.maxLimit) (hLimit : limit ≤ maxInt64) :
    (ofParams (some (String.ofList (Text.decimal offset))) (some (Int64.ofNat limit)) sizes).range =
      ⟨offset, limit⟩ := by
  have hRead : (some (String.ofList (Text.decimal offset))).bind
      (fun raw => Text.int64? raw.toList) = some (Int64.ofInt offset) := by
    rw [Option.bind_some, String.toList_ofList, Text.int64?_decimal hOffset]
  have hStart : (Int64.ofInt offset).toInt = offset := by
    apply Int64.toInt_ofInt_of_le
    all_goals
      unfold maxInt64 at hOffset
      omega
  have hSize : (Int64.ofNat limit).toInt = limit := by
    apply Int64.toInt_ofNat_of_lt
    unfold maxInt64 at hLimit
    omega
  rw [ofParams, hRead]
  simp only [Option.map_some, Option.getD_some, hStart, hSize, normalize, range,
    Int.toNat_natCast, chooseLimit_ofNat hPos hMax]

end PageRequest

/-! ### Addresses -/

namespace PageRange

theorem not_mem_decimal (n : Nat) : '&' ∉ Text.decimal n := by
  intro h
  exact absurd (Text.isDigit_of_mem_decimal h) (by decide)

theorem toList_url (path : String) (extra : List String) (r : PageRange) :
    (r.url path extra).toList = (path ++ "?page[offset]=").toList ++ (Text.decimal r.offset ++
      '&' :: ("page[limit]=".toList ++ (Text.decimal r.limit ++
        (String.join (extra.map ("&" ++ ·))).toList))) := by
  simp [url]

/-- The offset ends at the next separator and the size where the further fragments start. -/
theorem url_injective {path : String} {extra : List String} {r s : PageRange}
    (h : r.url path extra = s.url path extra) : r = s := by
  have hChars := congrArg String.toList h
  rw [toList_url, toList_url] at hChars
  have hNumbers := List.append_cancel_left hChars
  obtain ⟨hOffset, hRest⟩ :=
    append_cons_inj_of_not_mem (not_mem_decimal _) (not_mem_decimal _) hNumbers
  have hLimit := List.append_cancel_right (List.append_cancel_left hRest)
  cases r
  cases s
  rw [PageRange.mk.injEq]
  exact ⟨Text.decimal_injective hOffset, Text.decimal_injective hLimit⟩

theorem clamped_natCast (start limit : Nat) : clamped start limit = ⟨start, limit⟩ := by
  have hStart : ¬(start : Int) < 0 := by omega
  rw [clamped, if_neg hStart, Int.toNat_natCast, Int.toNat_natCast]

end PageRange

/-! ### Places -/

namespace PageRanges

/-- Going on by a page does not move the last page. -/
theorem lastStart_add {offset limit count : Int} (hPos : 0 < limit)
    (h : offset + limit < count) :
    lastStart (offset + limit) limit count = lastStart offset limit count := by
  have hOne : (count - offset - 1) / limit = (count - (offset + limit) - 1) / limit + 1 := by
    have hSplit : count - offset - 1 = count - (offset + limit) - 1 + limit := by ring
    rw [hSplit, Int.add_ediv_of_dvd_right (dvd_refl limit), Int.ediv_self hPos.ne']
  have hlt : offset < count := by omega
  rw [lastStart, if_pos h, lastStart, if_pos hlt, hOne]
  ring

/-- A page that meets the end of the rows is the last one. -/
theorem lastStart_of_le_add {offset limit count : Int} (hlt : offset < count)
    (hEnd : count ≤ offset + limit) : lastStart offset limit count = offset := by
  have hZero : (count - offset - 1) / limit = 0 :=
    Int.ediv_eq_zero_of_lt (by omega) (by omega)
  rw [lastStart, if_pos hlt, hZero, Int.zero_mul, Int.add_zero]

section Around

variable {page : PageRequest} {count : Nat} (hOffset : page.offset ≤ maxInt64)
  (hLimit : page.limit ≤ maxInt64) (hCount : count ≤ maxInt64)
include hOffset hLimit hCount

/-- Where the rows of a page are all those from its start on that fit, there is a page after it
exactly if there are rows behind it, and it starts there. -/
theorem next_around :
    (around page (min page.limit (count - page.offset)) count).next =
      if page.offset + page.limit < count then some page.after else none := by
  have hFound : min page.limit (count - page.offset) ≤ maxInt64 := by omega
  have hNext : nextStart page.offset (min page.limit (count - page.offset) : Nat) =
      (page.offset + min page.limit (count - page.offset) : Nat) := by
    unfold nextStart
    omega
  simp only [around, PageRequest.saturate_of_le hOffset, PageRequest.saturate_of_le hLimit,
    PageRequest.saturate_of_le hCount, PageRequest.saturate_of_le hFound, hNext]
  by_cases hMore : page.offset + page.limit < count
  · have hFull : min page.limit (count - page.offset) = page.limit := by omega
    rw [if_pos hMore, hFull, if_pos (Int.ofNat_lt.mpr hMore), Int.toNat_natCast, Int.toNat_natCast,
      PageRequest.after]
  · rw [if_neg hMore, if_neg]
    have hPos := page.limit_pos
    omega

/-- From a page that does not start behind the last row, the way back is one page. -/
theorem prev_around (found : Nat) {start : Nat} (hStart : page.offset = start + page.limit)
    (hEnd : page.offset ≤ count) :
    (around page found count).prev = some ⟨start, page.limit⟩ := by
  have hPos := page.limit_pos
  have hBack : prevStart page.offset page.limit count = start := by
    rw [prevStart, if_pos (Int.ofNat_le.mpr hEnd)]
    omega
  have hRows : (0 : Int) < page.offset ∧ (0 : Int) < count := by omega
  simp only [around, PageRequest.saturate_of_le hOffset, PageRequest.saturate_of_le hLimit,
    PageRequest.saturate_of_le hCount]
  rw [if_pos hRows, hBack, PageRange.clamped_natCast]

theorem last_around (found : Nat) :
    (around page found count).last =
      .clamped (lastStart page.offset page.limit count) page.limit := by
  simp only [around, PageRequest.saturate_of_le hOffset, PageRequest.saturate_of_le hLimit,
    PageRequest.saturate_of_le hCount]

end Around

end PageRanges

end Worklist
