import Mathlib.Data.List.DropRight
import Mathlib.Data.List.TakeWhile
import Mathlib.Tactic.ByContra
import Worklist.Text.Blank

/-!
# Blank texts

Nothing but blanks is left off a text, so nothing is left of it exactly if it is blank. What is left
has no blanks at its ends.
-/

namespace Worklist.Text

theorem trim_eq_nil_iff {cs : List Char} : trim cs = [] ↔ ∀ c ∈ cs, isBlank c = true := by
  rw [trim, trimEnd, List.reverse_eq_nil_iff, List.dropWhile_eq_nil_iff]
  constructor
  · intro h
    -- What is left at the start begins with a character that is not blank, so nothing is left.
    apply List.dropWhile_eq_nil_iff.mp
    cases hStart : trimStart cs with
    | nil => exact hStart
    | cons c rest =>
      have hBlank : isBlank c = true := h c (by simp [hStart])
      have hHead := List.head?_dropWhile_not isBlank cs
      rw [← trimStart, hStart] at hHead
      simp [hBlank] at hHead
  · intro h c hc
    rw [List.mem_reverse] at hc
    exact h c ((List.dropWhile_sublist isBlank).subset hc)

theorem trimStart_trim (cs : List Char) : trimStart (trim cs) = trim cs := by
  cases hStart : trimStart cs with
  | nil => simp [trim, hStart, trimEnd]
  | cons c rest =>
    have hHead := List.head?_dropWhile_not isBlank cs
    rw [← trimStart, hStart] at hHead
    have hPlain : isBlank c = false := by simpa using hHead
    rw [trim, hStart]
    -- The first character is not blank, so it is kept when the end is cut as well.
    have hPrefix : trimEnd (c :: rest) <+: c :: rest := List.rdropWhile_prefix isBlank _
    cases hEnd : trimEnd (c :: rest) with
    | nil => rfl
    | cons d left =>
      rw [hEnd, List.cons_prefix_cons] at hPrefix
      exact trimStart_cons_of_not_blank (hPrefix.1 ▸ hPlain) left

theorem trim_trim (cs : List Char) : trim (trim cs) = trim cs := by
  rw [trim, trimStart_trim, trim, trimEnd, trimEnd, List.reverse_reverse,
    List.dropWhile_idempotent isBlank]

/-- A text is what is left of it between blanks. -/
theorem exists_eq_trim (cs : List Char) :
    ∃ lead trail, cs = lead ++ (trim cs ++ trail) ∧ (∀ b ∈ lead, isBlank b = true) ∧
      ∀ b ∈ trail, isBlank b = true := by
  refine ⟨cs.takeWhile isBlank, (trimStart cs).rtakeWhile isBlank, ?_,
    fun b hb => List.mem_takeWhile_imp hb, fun b hb => List.mem_rtakeWhile_imp hb⟩
  have hEnd : trim cs ++ (trimStart cs).rtakeWhile isBlank = trimStart cs :=
    List.rdropWhile_append_rtakeWhile
  rw [hEnd, trimStart, List.takeWhile_append_dropWhile]

theorem trimStart_append_of_blank {lead : List Char} (h : ∀ c ∈ lead, isBlank c = true)
    (cs : List Char) : trimStart (lead ++ cs) = trimStart cs :=
  List.dropWhile_append_of_pos h

theorem trimEnd_append_of_blank {trail : List Char} (h : ∀ c ∈ trail, isBlank c = true)
    (cs : List Char) : trimEnd (cs ++ trail) = trimEnd cs := by
  rw [trimEnd, List.reverse_append, List.dropWhile_append_of_pos, trimEnd]
  intro c hc
  exact h c (List.mem_reverse.mp hc)

/-- Where something stands in front of a text that is not blank, it is kept as it is. -/
theorem trimEnd_append_of_exists {cs : List Char} (h : ∃ c ∈ cs, isBlank c = false)
    (lead : List Char) : trimEnd (lead ++ cs) = lead ++ trimEnd cs := by
  have hLeft : (cs.reverse.dropWhile isBlank).isEmpty = false := by
    obtain ⟨c, hc, hPlain⟩ := h
    rw [List.isEmpty_eq_false_iff]
    intro hNil
    have hBlank := List.dropWhile_eq_nil_iff.mp hNil c (List.mem_reverse.mpr hc)
    exact absurd hBlank (by rw [hPlain]; exact Bool.false_ne_true)
  rw [trimEnd, List.reverse_append, List.dropWhile_append, hLeft, if_neg Bool.false_ne_true,
    List.reverse_append, List.reverse_reverse, trimEnd]

/-- Nothing is left off a text that ends with something visible. -/
theorem trimEnd_append_of_visible {cs : List Char} (h : ∃ c ∈ cs.getLast?, isBlank c = false)
    (lead : List Char) : trimEnd (lead ++ cs) = lead ++ cs := by
  obtain ⟨c, hLast, hc⟩ := h
  obtain ⟨front, rfl⟩ := List.getLast?_eq_some_iff.mp hLast
  rw [← List.append_assoc, trimEnd_append_of_not_blank hc]

theorem trimEnd_sublist (cs : List Char) : (trimEnd cs).Sublist cs :=
  (List.rdropWhile_prefix isBlank cs).sublist

/-- Blanks around a text do not show in what is left of it. -/
theorem trim_append_of_blank {lead trail : List Char} (hLead : ∀ c ∈ lead, isBlank c = true)
    (hTrail : ∀ c ∈ trail, isBlank c = true) (cs : List Char) :
    trim (lead ++ (cs ++ trail)) = trim cs := by
  rw [trim, trimStart_append_of_blank hLead, trim]
  cases hStart : trimStart cs with
  | nil =>
    -- The text is blank itself.
    have hBlank : ∀ c ∈ cs, isBlank c = true := List.dropWhile_eq_nil_iff.mp hStart
    rw [trimStart_append_of_blank hBlank, ← List.append_nil trail,
      trimStart_append_of_blank hTrail]
    rfl
  | cons c rest =>
    have hAppend : trimStart (cs ++ trail) = trimStart cs ++ trail := by
      rw [trimStart, List.dropWhile_append, ← trimStart, hStart]
      rfl
    rw [hAppend, hStart, trimEnd_append_of_blank hTrail]

theorem head?_trim {cs : List Char} : ∀ c ∈ (trim cs).head?, isBlank c = false := by
  intro c hc
  rw [← trimStart_trim] at hc
  have hHead := List.head?_dropWhile_not isBlank (trim cs)
  rw [← trimStart, Option.mem_def.mp hc] at hHead
  simpa using hHead

theorem getLast?_trim {cs : List Char} : ∀ c ∈ (trim cs).getLast?, isBlank c = false := by
  intro c hc
  have hNe : trim cs ≠ [] := by
    rintro hNil
    rw [hNil] at hc
    cases hc
  rw [List.getLast?_eq_some_getLast hNe] at hc
  cases hc
  exact Bool.not_eq_true _ |>.mp (List.rdropWhile_last_not isBlank (trimStart cs) hNe)

/-- Nothing is left off a text that has no blanks at its ends. -/
theorem trim_eq_self {cs : List Char} (hHead : ∀ c ∈ cs.head?, isBlank c = false)
    (hLast : ∀ c ∈ cs.getLast?, isBlank c = false) : trim cs = cs := by
  rcases List.eq_nil_or_concat' cs with rfl | ⟨front, last, rfl⟩
  · rfl
  · have hStart : trimStart (front ++ [last]) = front ++ [last] := by
      cases front with
      | nil => exact trimStart_cons_of_not_blank (hHead last rfl) []
      | cons c rest => exact trimStart_cons_of_not_blank (hHead c rfl) _
    rw [trim, hStart, trimEnd_append_of_not_blank (hLast last List.getLast?_concat)]

theorem isBlank_of_isDigit {c : Char} (h : c.isDigit = true) : isBlank c = false := by
  by_contra hBlank
  simp only [Char.isDigit, Bool.and_eq_true, decide_eq_true_eq, UInt32.le_iff_toNat_le] at h
  have hLow : 48 ≤ c.toNat := h.1
  have hHigh : c.toNat ≤ 57 := h.2
  simp only [isBlank, Bool.not_eq_false, Bool.or_eq_true, Bool.and_eq_true, decide_eq_true_eq,
    beq_iff_eq] at hBlank
  omega

theorem trim_of_ends {a b : Char} (ha : isBlank a = false) (hb : isBlank b = false)
    (cs : List Char) : trim (a :: (cs ++ [b])) = a :: (cs ++ [b]) := by
  rw [trim, trimStart_cons_of_not_blank ha, ← List.cons_append, trimEnd_append_of_not_blank hb]

end Worklist.Text
