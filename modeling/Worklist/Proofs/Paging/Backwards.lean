import Worklist.Proofs.Paging.Requests

/-!
# The way back

Whoever asks, again and again, for the page that the link to the previous one announces comes to the
first row and stops there. The pages on the way lie side by side and hold all rows before the page
from which the way starts. They have the size of that page, except for the one at the first row,
which is as large as the rows that are left over for it.
-/

namespace Worklist

open Text (maxInt64)

namespace PageRange

/-- A row is among the rows of a range. -/
def Holds (p : PageRange) (row : Nat) : Prop :=
  p.offset ≤ row ∧ row < p.offset + p.limit

/-- Ranges that lie side by side, the first of which ends in front of the row `stop`, and which hold
every row before that one once. -/
structure DescendFrom (stop : Nat) (ps : List PageRange) : Prop where
  nonempty : ∀ p ∈ ps, 0 < p.limit
  start : ∀ p ∈ ps.head?, p.offset + p.limit = stop
  adjacent : ps.IsChain fun p q => q.offset + q.limit = p.offset
  disjoint : ps.Pairwise fun p q => ∀ row, ¬(p.Holds row ∧ q.Holds row)
  union : ∀ row, (∃ p ∈ ps, p.Holds row) ↔ row < stop

theorem descendFrom_nil : DescendFrom 0 [] where
  nonempty := by simp
  start := by simp
  adjacent := .nil
  disjoint := .nil
  union := by simp

variable {p : PageRange} {ps : List PageRange}

/-- The rows of a range in front are not those before it, which the others hold. -/
theorem DescendFrom.cons (h : DescendFrom p.offset ps) (hPos : 0 < p.limit) :
    DescendFrom (p.offset + p.limit) (p :: ps) := by
  have hBefore : ∀ q ∈ ps, ∀ row, q.Holds row → row < p.offset :=
    fun q hq row hRow => (h.union row).mp ⟨q, hq, hRow⟩
  constructor
  case nonempty => exact List.forall_mem_cons.mpr ⟨hPos, h.nonempty⟩
  case start =>
    rintro q ⟨⟩
    rfl
  case adjacent =>
    cases ps with
    | nil => exact .singleton p
    | cons q ps => exact .cons_cons (h.start q rfl) h.adjacent
  case disjoint =>
    refine List.pairwise_cons.mpr ⟨fun q hq row hBoth => ?_, h.disjoint⟩
    exact Nat.not_lt_of_le hBoth.1.1 (hBefore q hq row hBoth.2)
  case union =>
    intro row
    rw [List.exists_mem_cons_iff, h.union, Holds]
    omega

theorem DescendFrom.eq_nil (h : DescendFrom 0 ps) : ps = [] := by
  cases ps with
  | nil => rfl
  | cons p ps =>
    have hPos := h.nonempty p List.mem_cons_self
    have hStart := h.start p rfl
    omega

end PageRange

namespace PageRanges

open PageRange (DescendFrom)

/-- The ranges that are visited by someone who goes from a page to the page before, and on from
there until there is no page before. It does not matter how many rows are shown on the way. -/
inductive LeadsBack (sizes : PageSizes) (count : Nat) : PageRequest → List PageRange → Prop
  | done {page : PageRequest} {found : Nat} (hPrev : (around page found count).prev = none) :
      LeadsBack sizes count page []
  | back {page : PageRequest} {found : Nat} {p : PageRange} {ps : List PageRange}
      (hPrev : (around page found count).prev = some p)
      (hRest : LeadsBack sizes count (p.request sizes) ps) : LeadsBack sizes count page (p :: ps)

variable {sizes : PageSizes} {count : Nat} {page : PageRequest} {ps qs : List PageRange}

/-- The page before does not depend on the rows that are shown, so there is one way back. -/
theorem LeadsBack.unique (hp : LeadsBack sizes count page ps) (hq : LeadsBack sizes count page qs) :
    ps = qs := by
  induction hp generalizing qs with
  | done hPrev =>
    cases hq with
    | done => rfl
    | back hPrev' => cases hPrev.symm.trans hPrev'
  | back hPrev _ ih =>
    cases hq with
    | done hPrev' => cases hPrev.symm.trans hPrev'
    | back hPrev' hRest' =>
      cases hPrev.symm.trans hPrev'
      rw [ih hRest']

/-- The range at the first row: the rows that are left over if whole pages are taken off, or a whole
page if none are. -/
def atFirstRow (offset limit : Nat) : PageRange :=
  ⟨0, if limit ∣ offset then limit else offset % limit⟩

theorem atFirstRow_of_le {offset limit : Nat} (hPos : 0 < offset) (hLe : offset ≤ limit) :
    atFirstRow offset limit = ⟨0, offset⟩ := by
  rcases Nat.eq_or_lt_of_le hLe with rfl | hLt
  · rw [atFirstRow, if_pos (dvd_refl offset)]
  · rw [atFirstRow, if_neg (Nat.not_dvd_of_pos_of_lt hPos hLt), Nat.mod_eq_of_lt hLt]

theorem atFirstRow_add (offset limit : Nat) :
    atFirstRow (offset + limit) limit = atFirstRow offset limit := by
  simp only [atFirstRow, Nat.dvd_add_self_right, Nat.add_mod_right]

/-- A page in front does not change what is left over, since only whole pages come after a full page
and nothing comes after one that is not full. -/
theorem getLast?_cons_eq_atFirstRow {p : PageRange} {limit : Nat}
    (hDescend : DescendFrom p.offset ps) (hPos : 0 < p.limit)
    (hSize : p.limit = min limit (p.offset + p.limit))
    (hLast : 0 < p.offset → ps.getLast? = some (atFirstRow p.offset p.limit)) :
    (p :: ps).getLast? = some (atFirstRow (p.offset + p.limit) limit) := by
  by_cases hMore : 0 < p.offset
  · have hFull : p.limit = limit := by omega
    rw [List.getLast?_cons, hLast hMore, hFull, atFirstRow_add]
    rfl
  · have hEnd : p.offset = 0 := Nat.eq_zero_of_not_pos hMore
    have hSelf : atFirstRow p.limit limit = p := by
      rw [atFirstRow_of_le hPos (by omega), ← hEnd]
    rw [hEnd] at hDescend
    rw [hDescend.eq_nil, List.getLast?_singleton, hEnd, Nat.zero_add, hSelf]

section Bounded

variable (hMax : page.limit ≤ sizes.normalized.maxLimit) (hOffset : page.offset ≤ count)
  (hLimit : page.limit ≤ maxInt64) (hCount : count ≤ maxInt64)
include hMax hOffset hLimit hCount

/-- One step back leads to a request for the rows that end where the page starts, as many as a page
has or as there are. -/
theorem exists_step_back (hRows : 0 < page.offset) :
    ∃ p, (around page 0 count).prev = some p ∧ p.offset + p.limit = page.offset ∧
      p.limit = min page.limit page.offset ∧ (p.request sizes).range = p := by
  have hWord := hOffset.trans hCount
  have hPos := page.limit_pos
  have hPrev := prev_around_eq hWord hLimit hCount 0
  rw [if_pos ⟨hRows, by omega⟩] at hPrev
  have hAdjacent := prev_adjacent_around hWord hLimit hCount hOffset hPrev
  refine ⟨_, hPrev, hAdjacent.1, hAdjacent.2, PageRequest.range_ofParams ?_ ?_ ?_ ?_⟩
  all_goals omega

/-- The offset decreases with every step, since sizes are positive. -/
theorem exists_leadsBack : ∃ ps, LeadsBack sizes count page ps ∧ DescendFrom page.offset ps ∧
    (0 < page.offset → ps.getLast? = some (atFirstRow page.offset page.limit)) := by
  induction hLeft : page.offset using Nat.strongRecOn generalizing page with
  | ind left ih =>
    subst hLeft
    have hPos := page.limit_pos
    by_cases hRows : 0 < page.offset
    · obtain ⟨p, hPrev, hAdjacent, hSize, hRange⟩ :=
        exists_step_back hMax hOffset hLimit hCount hRows
      have hStart : (p.request sizes).offset = p.offset := congrArg PageRange.offset hRange
      have hEqual : (p.request sizes).limit = p.limit := congrArg PageRange.limit hRange
      have hMax' : (p.request sizes).limit ≤ sizes.normalized.maxLimit := by omega
      obtain ⟨ps, hBack, hDescend, hLast⟩ := ih _ (by omega) hMax' (by omega) (by omega) rfl
      rw [hStart] at hDescend hLast
      rw [hEqual] at hLast
      have hFull : p.limit = min page.limit (p.offset + p.limit) := hAdjacent.symm ▸ hSize
      have hCover := hDescend.cons (by omega)
      have hFinal := getLast?_cons_eq_atFirstRow hDescend (by omega) hFull hLast
      rw [hAdjacent] at hCover hFinal
      exact ⟨p :: ps, .back hPrev hBack, hCover, fun _ => hFinal⟩
    · have hZero : page.offset = 0 := by omega
      have hPrev := prev_around_eq (hOffset.trans hCount) hLimit hCount 0
      rw [if_neg fun h => hRows h.1] at hPrev
      exact ⟨[], .done hPrev, hZero ▸ PageRange.descendFrom_nil, fun h => absurd h hRows⟩

end Bounded

/-- Going back from page to page comes to an end at the first row and visits every row before the
page once. If the page starts whole pages behind the first row, then the way ends with a whole page,
else with the first page that was announced. From a page behind the last row, one step leads to a
page that has the last row and ends before the page. -/
theorem prev_links_retrace_rows (offset : Option String) (limit : Option Int64)
    (sizes : PageSizes) {page : PageRequest} {count : Nat}
    (hPage : PageRequest.ofParams offset limit sizes = page) (hCount : 0 < count)
    (hWord : count < 2 ^ 63) (hEnd : page.offset + page.limit < 2 ^ 63) :
    (0 < page.offset → page.offset ≤ count → ∃ ps final,
      (∀ qs, LeadsBack sizes count page qs ↔ qs = ps) ∧
      DescendFrom page.offset ps ∧
      ps.getLast? = some final ∧ final.offset = 0 ∧
      (page.limit ∣ page.offset → final = ⟨0, page.limit⟩) ∧
      (¬page.limit ∣ page.offset → ∀ found, final = (around page found count).first)) ∧
    (count < page.offset → ∀ found, ∃ p, (around page found count).prev = some p ∧
      p.Holds (count - 1) ∧ p.offset + p.limit ≤ page.offset) := by
  have hMax := PageRequest.limit_le_of_ofParams hPage
  obtain ⟨hOffset, hLimit⟩ := PageRequest.words_of_end hEnd
  have hRows : count ≤ maxInt64 := Nat.le_pred_of_lt hWord
  constructor
  · intro hPos hLe
    obtain ⟨ps, hBack, hDescend, hLast⟩ := exists_leadsBack hMax hLe hLimit hRows
    refine ⟨ps, _, fun qs => ⟨fun h => h.unique hBack, fun h => h ▸ hBack⟩, hDescend, hLast hPos,
      rfl, fun hDvd => ?_, fun hDvd found => ?_⟩
    · rw [atFirstRow, if_pos hDvd]
    · rw [atFirstRow, if_neg hDvd, first_around hOffset hLimit, if_pos hPos]
  · intro hBehind found
    have hPrev := prev_around_eq hOffset hLimit hRows found
    rw [if_pos ⟨by omega, hCount⟩] at hPrev
    have hBefore := prev_behind_around hOffset hLimit hRows hBehind hPrev
    exact ⟨_, hPrev, ⟨by omega, hBefore.1.2⟩, hBefore.2⟩

/-- Three pages before the seventh of ten rows, and the page before the twentieth of ten. -/
theorem way_back_from_seven :
    PageRequest.ofParams (some "7") none ⟨3, 5⟩ = ⟨7, 3, by decide⟩ ∧
      (∃ ps, LeadsBack ⟨3, 5⟩ 10 ⟨7, 3, by decide⟩ ps ∧ DescendFrom 7 ps ∧
        ps.getLast? = some ⟨0, 1⟩) ∧
      ∃ p, (around ⟨20, 3, by decide⟩ 0 10).prev = some p ∧ p.Holds 9 ∧
        p.offset + p.limit ≤ 20 := by
  have hSeven : PageRequest.ofParams (some "7") none ⟨3, 5⟩ = ⟨7, 3, by decide⟩ := by
    decide +kernel
  have hTwenty : PageRequest.ofParams (some "20") none ⟨3, 5⟩ = ⟨20, 3, by decide⟩ := by
    decide +kernel
  have hRows : 0 < 10 ∧ 10 < 2 ^ 63 := by decide
  obtain ⟨hBack, -⟩ := prev_links_retrace_rows _ _ _ hSeven hRows.1 hRows.2 (by decide)
  obtain ⟨-, hBehind⟩ := prev_links_retrace_rows _ _ _ hTwenty hRows.1 hRows.2 (by decide)
  obtain ⟨ps, final, hOnly, hDescend, hLast, -, -, hFirst⟩ := hBack (by decide) (by decide)
  refine ⟨hSeven, ⟨ps, (hOnly ps).mpr rfl, hDescend, ?_⟩, hBehind (by decide) 0⟩
  rw [hLast, hFirst (by decide) 0]
  rfl

end PageRanges

end Worklist
