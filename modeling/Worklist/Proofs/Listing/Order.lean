import Worklist.Listing.Items

/-!
# Work items in order

Numbers tell work items apart within a space only, so a listing can hold several items with one
number. There is one way to put items into the ascending order of their numbers that keeps those of
one number as they were, and listings use it.
-/

namespace Worklist.Listing

open Tracker (WorkItem)

variable {items listed xs ys : List WorkItem}

/-- The listed items are the given ones in the ascending order of their numbers, where items with
one number follow one another as they did. -/
structure OrderedByNumber (items listed : List WorkItem) : Prop where
  ascending : listed.Pairwise fun a b => a.number ≤ b.number
  stable : ∀ n, listed.filter (·.number = n) = items.filter (·.number = n)

/-! ### Sorting -/

theorem number_le_trans (a b c : WorkItem) (hab : decide (a.number ≤ b.number))
    (hbc : decide (b.number ≤ c.number)) : decide (a.number ≤ c.number) :=
  decide_eq_true (Int64.le_trans (of_decide_eq_true hab) (of_decide_eq_true hbc))

theorem number_le_total (a b : WorkItem) :
    decide (a.number ≤ b.number) || decide (b.number ≤ a.number) := by
  simpa using Int64.le_total a.number b.number

theorem ascending_sortByNumber (items : List WorkItem) :
    (sortByNumber items).Pairwise fun a b => a.number ≤ b.number :=
  (List.pairwise_mergeSort number_le_trans number_le_total items).imp of_decide_eq_true

theorem perm_sortByNumber (items : List WorkItem) : (sortByNumber items).Perm items :=
  List.mergeSort_perm items _

theorem length_sortByNumber (items : List WorkItem) :
    (sortByNumber items).length = items.length :=
  (perm_sortByNumber items).length_eq

/-- The items with one number are sorted as they are, so sorting keeps them as a sublist. -/
theorem filter_sortByNumber (items : List WorkItem) (n : Int64) :
    (sortByNumber items).filter (·.number = n) = items.filter (·.number = n) := by
  have hSame : (items.filter (·.number = n)).Pairwise
      fun a b => decide (a.number ≤ b.number) := by
    apply List.pairwise_of_forall_mem_list
    intro a ha b hb
    have hna := of_decide_eq_true (List.mem_filter.mp ha).2
    have hnb := of_decide_eq_true (List.mem_filter.mp hb).2
    exact decide_eq_true (Int64.le_of_eq (hna.trans hnb.symm))
  have hSub := List.sublist_mergeSort number_le_trans number_le_total hSame List.filter_sublist
  have hFiltered := hSub.filter (·.number = n)
  rw [List.filter_filter] at hFiltered
  simp only [Bool.and_self] at hFiltered
  have hLength := ((perm_sortByNumber items).filter (·.number = n)).length_eq
  exact (hFiltered.eq_of_length hLength.symm).symm

theorem orderedByNumber_sortByNumber (items : List WorkItem) :
    OrderedByNumber items (sortByNumber items) :=
  ⟨ascending_sortByNumber items, filter_sortByNumber items⟩

/-! ### There is one order -/

theorem mem_of_filter_number_eq (h : ∀ n, xs.filter (·.number = n) = ys.filter (·.number = n))
    {w : WorkItem} (hw : w ∈ xs) : w ∈ ys := by
  have hFilter : w ∈ xs.filter (·.number = w.number) :=
    List.mem_filter.mpr ⟨hw, decide_eq_true rfl⟩
  rw [h] at hFilter
  exact (List.mem_filter.mp hFilter).1

theorem head_number_le {x y : WorkItem} (hx : (x :: xs).Pairwise fun a b => a.number ≤ b.number)
    (h : ∀ n, (y :: ys).filter (·.number = n) = (x :: xs).filter (·.number = n)) :
    x.number ≤ y.number := by
  have hMem : y ∈ x :: xs := mem_of_filter_number_eq h List.mem_cons_self
  rcases List.mem_cons.mp hMem with rfl | hTail
  · exact Int64.le_rfl
  · exact (List.pairwise_cons.mp hx).1 y hTail

theorem eq_of_filter_number_eq (hx : xs.Pairwise fun a b => a.number ≤ b.number)
    (hy : ys.Pairwise fun a b => a.number ≤ b.number)
    (h : ∀ n, xs.filter (·.number = n) = ys.filter (·.number = n)) : xs = ys := by
  induction xs generalizing ys with
  | nil =>
    cases ys with
    | nil => rfl
    | cons y ys => cases mem_of_filter_number_eq (fun n => (h n).symm) List.mem_cons_self
  | cons x xs ih =>
    cases ys with
    | nil => cases mem_of_filter_number_eq h List.mem_cons_self
    | cons y ys =>
      -- Both heads have the least number, and of the items with that number they are the first.
      have hxy : x.number ≤ y.number := head_number_le hx fun n => (h n).symm
      have hyx : y.number ≤ x.number := head_number_le hy h
      have hNumber := Int64.le_antisymm hyx hxy
      have hHeads := h x.number
      simp only [List.filter_cons, hNumber, decide_true, if_true, List.cons.injEq] at hHeads
      obtain ⟨rfl, -⟩ := hHeads
      have hTails : ∀ n, xs.filter (·.number = n) = ys.filter (·.number = n) := by
        intro n
        have hn := h n
        by_cases hEq : x.number = n
        · simpa [List.filter_cons, hEq] using hn
        · simpa [List.filter_cons, hEq] using hn
      rw [ih hx.of_cons hy.of_cons hTails]

theorem orderedByNumber_iff : OrderedByNumber items listed ↔ listed = sortByNumber items := by
  constructor
  · intro h
    have hFilter : ∀ n, listed.filter (·.number = n) = (sortByNumber items).filter (·.number = n) :=
      fun n => (h.stable n).trans (filter_sortByNumber items n).symm
    exact eq_of_filter_number_eq h.ascending (ascending_sortByNumber items) hFilter
  · rintro rfl
    exact orderedByNumber_sortByNumber items

theorem sortByNumber_filter (p : WorkItem → Bool) (items : List WorkItem) :
    sortByNumber (items.filter p) = (sortByNumber items).filter p := by
  have hSwap : ∀ (xs : List WorkItem) (n : Int64),
      (xs.filter p).filter (·.number = n) = (xs.filter (·.number = n)).filter p := by
    intro xs n
    rw [List.filter_filter, List.filter_filter]
    exact List.filter_congr fun w _ => Bool.and_comm _ _
  refine (orderedByNumber_iff.mp ⟨(ascending_sortByNumber items).filter p, fun n => ?_⟩).symm
  rw [hSwap, filter_sortByNumber, hSwap]

theorem OrderedByNumber.length_eq (h : OrderedByNumber items listed) :
    listed.length = items.length := by
  rw [orderedByNumber_iff.mp h, length_sortByNumber]

end Worklist.Listing
