import Mathlib.Data.List.Forall2

/-!
# Lists

Lists whose elements correspond one by one, lists that are cut at an element or joined by a
separator, and lists in which an element is looked up.
-/

namespace Worklist

variable {α β : Type} {R : α → β → Prop} {xs : List α} {ys : List β}

theorem exists_left_of_mem (h : List.Forall₂ R xs ys) {y : β} (hy : y ∈ ys) :
    ∃ x ∈ xs, R x y := by
  induction h with
  | nil => cases hy
  | cons hxy _ ih =>
    rcases List.mem_cons.mp hy with rfl | hy
    · exact ⟨_, List.mem_cons_self, hxy⟩
    · obtain ⟨x, hx, hR⟩ := ih hy
      exact ⟨x, List.mem_cons_of_mem _ hx, hR⟩

theorem exists_right_of_mem (h : List.Forall₂ R xs ys) {x : α} (hx : x ∈ xs) :
    ∃ y ∈ ys, R x y :=
  exists_left_of_mem h.flip hx

theorem forall₂_congr_of_mem {S : α → β → Prop} (h : ∀ x ∈ xs, ∀ y, R x y ↔ S x y) :
    List.Forall₂ R xs ys ↔ List.Forall₂ S xs ys := by
  induction xs generalizing ys with
  | nil => rw [List.forall₂_nil_left_iff, List.forall₂_nil_left_iff]
  | cons x xs ih =>
    have hTail := fun y hy => h y (List.mem_cons_of_mem x hy)
    simp only [List.forall₂_cons_left_iff, h x List.mem_cons_self, ih hTail]

theorem forall₂_imp_of_mem {S : α → β → Prop} (h : List.Forall₂ R xs ys)
    (hImp : ∀ x ∈ xs, ∀ y, R x y → S x y) : List.Forall₂ S xs ys := by
  induction h with
  | nil => exact .nil
  | cons hxy _ ih =>
    have hTail := ih fun x hx => hImp x (List.mem_cons_of_mem _ hx)
    exact .cons (hImp _ List.mem_cons_self _ hxy) hTail

theorem exists_forall₂_iff : (∃ ys, List.Forall₂ R xs ys) ↔ ∀ x ∈ xs, ∃ y, R x y := by
  induction xs with
  | nil => simp
  | cons x xs ih =>
    rw [List.forall_mem_cons, ← ih]
    constructor
    · rintro ⟨_, hxy | ⟨hxy, hRest⟩⟩
      exact ⟨⟨_, hxy⟩, _, hRest⟩
    · rintro ⟨⟨y, hxy⟩, ys, hRest⟩
      exact ⟨y :: ys, .cons hxy hRest⟩

/-- A list is cut in one way at the first occurrence of an element. -/
theorem append_cons_inj_of_not_mem {a : α} {xs ys zs ws : List α} (hxs : a ∉ xs) (hys : a ∉ ys)
    (h : xs ++ a :: zs = ys ++ a :: ws) : xs = ys ∧ zs = ws := by
  induction xs generalizing ys with
  | nil =>
    cases ys with
    | nil => exact ⟨rfl, (List.cons.inj h).2⟩
    | cons y ys => exact absurd ((List.cons.inj h).1 ▸ List.mem_cons_self) hys
  | cons x xs ih =>
    cases ys with
    | nil => exact absurd ((List.cons.inj h).1 ▸ List.mem_cons_self) hxs
    | cons y ys =>
      obtain ⟨rfl, hRest⟩ := List.cons.inj h
      obtain ⟨rfl, hTail⟩ := ih (fun hMem => hxs (List.mem_cons_of_mem _ hMem))
        (fun hMem => hys (List.mem_cons_of_mem _ hMem)) hRest
      exact ⟨rfl, hTail⟩

/-- Every list but the first is joined with a separator in front. -/
theorem intercalate_cons (sep xs : List α) (lists : List (List α)) :
    sep.intercalate (xs :: lists) = xs ++ lists.flatMap (sep ++ ·) := by
  induction lists generalizing xs with
  | nil => rw [List.intercalate_singleton, List.flatMap_nil, List.append_nil]
  | cons ys lists ih =>
    rw [List.intercalate_cons_cons, ih, List.flatMap_cons]
    simp only [List.append_assoc]

/-- What is joined consists of what is in the separator and in the lists. -/
theorem mem_intercalate {sep : List α} {lists : List (List α)} {a : α}
    (h : a ∈ sep.intercalate lists) : a ∈ sep ∨ ∃ xs ∈ lists, a ∈ xs := by
  cases lists with
  | nil => cases h
  | cons xs lists =>
    rw [intercalate_cons] at h
    rcases List.mem_append.mp h with h | h
    · exact .inr ⟨xs, List.mem_cons_self, h⟩
    · obtain ⟨ys, hys, h⟩ := List.mem_flatMap.mp h
      rcases List.mem_append.mp h with h | h
      · exact .inl h
      · exact .inr ⟨ys, List.mem_cons_of_mem _ hys, h⟩

/-- Pieces with a separator in front of each, up to a closing element, are told apart one by one, if
each piece is told apart from every other in front of whatever may follow it. -/
theorem forall₂_of_flatMap_append {γ : Type} {piece : α → List γ} {sep : List γ} {close : γ}
    {R : α → α → Prop} {P : List γ → Prop} (hSep : ∀ us, P (sep ++ us))
    (hClose : ∀ us, P (close :: us)) (hNe : ∀ us vs, sep ++ us ≠ close :: vs)
    {xs ys : List α} {us vs : List γ}
    (hPiece : ∀ x ∈ xs, ∀ y ∈ ys, ∀ us vs, P us → P vs →
      piece x ++ us = piece y ++ vs → R x y ∧ us = vs)
    (h : xs.flatMap (sep ++ piece ·) ++ close :: us = ys.flatMap (sep ++ piece ·) ++ close :: vs) :
    List.Forall₂ R xs ys ∧ us = vs := by
  have hTail : ∀ (zs : List α) (us : List γ), P (zs.flatMap (sep ++ piece ·) ++ close :: us) := by
    intro zs us
    cases zs with
    | nil => exact hClose us
    | cons z zs =>
      simp only [List.flatMap_cons, List.append_assoc]
      exact hSep _
  induction xs generalizing ys with
  | nil =>
    cases ys with
    | nil => exact ⟨.nil, (List.cons.inj h).2⟩
    | cons y ys =>
      simp only [List.flatMap_nil, List.nil_append, List.flatMap_cons, List.append_assoc] at h
      exact absurd h.symm (hNe _ _)
  | cons x xs ih =>
    cases ys with
    | nil =>
      simp only [List.flatMap_nil, List.nil_append, List.flatMap_cons, List.append_assoc] at h
      exact absurd h (hNe _ _)
    | cons y ys =>
      simp only [List.flatMap_cons, List.append_assoc] at h
      obtain ⟨hxy, hRest⟩ := hPiece x List.mem_cons_self y List.mem_cons_self _ _ (hTail xs us)
        (hTail ys vs) (List.append_cancel_left h)
      obtain ⟨hPieces, hEnd⟩ := ih (fun x hx y hy => hPiece x (List.mem_cons_of_mem _ hx) y
        (List.mem_cons_of_mem _ hy)) hRest
      exact ⟨.cons hxy hPieces, hEnd⟩

theorem lookup_eq_none_iff [BEq α] [LawfulBEq α] {key : α} {pairs : List (α × β)} :
    pairs.lookup key = none ↔ key ∉ pairs.map (·.1) := by
  rw [List.lookup_eq_none_iff, List.mem_map]
  constructor
  · rintro h ⟨pair, hPair, rfl⟩
    simpa using h pair hPair
  · intro h pair hPair
    have hOther : key ≠ pair.1 := fun hEq => h ⟨pair, hPair, hEq.symm⟩
    simpa using hOther

theorem lookup_of_mem [BEq α] [LawfulBEq α] {key : α} {value : β} {pairs : List (α × β)}
    (hKeys : (pairs.map (·.1)).Nodup) (h : (key, value) ∈ pairs) :
    pairs.lookup key = some value := by
  induction pairs with
  | nil => cases h
  | cons pair rest ih =>
    obtain ⟨hFirst, hRest⟩ := List.nodup_cons.mp hKeys
    rcases List.mem_cons.mp h with rfl | h
    · exact List.lookup_cons_self
    · have hOther : key ≠ pair.1 := by
        rintro rfl
        exact hFirst (List.mem_map.mpr ⟨_, h, rfl⟩)
      rw [List.lookup_cons, beq_false_of_ne hOther]
      exact ih hRest h

/-- Among pairs with different keys exactly those that are there are found. -/
theorem lookup_eq_some_iff [BEq α] [LawfulBEq α] {key : α} {value : β} {pairs : List (α × β)}
    (hKeys : (pairs.map (·.1)).Nodup) :
    pairs.lookup key = some value ↔ (key, value) ∈ pairs := by
  refine ⟨fun h => ?_, lookup_of_mem hKeys⟩
  obtain ⟨before, behind, rfl, -⟩ := List.lookup_eq_some_iff.mp h
  exact List.mem_append_right _ List.mem_cons_self

/-- What is looked up does not depend on pairs that are left out with their keys. -/
theorem lookup_filter_of_pos [BEq α] [LawfulBEq α] (keep : α → Bool) {a : α} (h : keep a = true)
    (pairs : List (α × β)) : (pairs.filter fun pair => keep pair.1).lookup a = pairs.lookup a := by
  induction pairs with
  | nil => rfl
  | cons pair pairs ih =>
    obtain ⟨key, value⟩ := pair
    by_cases hKey : a = key
    · subst hKey
      rw [List.filter_cons, if_pos h, List.lookup_cons_self, List.lookup_cons_self]
    · have hSkip : ∀ tail : List (α × β), ((key, value) :: tail).lookup a = tail.lookup a := by
        intro tail
        rw [List.lookup_cons, beq_false_of_ne hKey]
      rw [hSkip, List.filter_cons]
      split_ifs
      · rw [hSkip]
        exact ih
      · exact ih

end Worklist
