import Mathlib.Data.List.Destutter
import Mathlib.Data.List.Sort
import Mathlib.Data.String.Basic
import Worklist.Proofs.Filter.Truth

/-!
# Several values make a set

An attribute with several values is asked whether it has a value, whether it contains one, and
whether it has the same elements as a set of texts. None of this hangs on the order of the values or
on how often each of them stands there, so neither does the evaluation of an expression.

Two lists of texts have the same elements exactly if they are equal once they are sorted and every
text is left in once. This is a second way to compare them.
-/

namespace Worklist.Filter

/-! ### Lists of texts as sets -/

section Arranging

variable {xs ys : List String}

/-- The texts in ascending order, each of them once. -/
def arranged (xs : List String) : List String :=
  (xs.mergeSort fun a b => a ≤ b).destutter (· ≠ ·)

theorem mem_destutter_iff {s : String} : s ∈ xs.destutter (· ≠ ·) ↔ s ∈ xs := by
  have go : ∀ (ys : List String) (a : String), s ∈ ys.destutter' (· ≠ ·) a ↔ s ∈ a :: ys := by
    intro ys
    induction ys with
    | nil =>
      intro a
      rfl
    | cons b ys ih =>
      intro a
      by_cases hab : a = b
      · subst b
        rw [List.destutter'_cons_neg ys (not_not_intro rfl), ih]
        simp
      · rw [List.destutter'_cons_pos ys hab, List.mem_cons, ih, ← List.mem_cons]
  cases xs with
  | nil => rfl
  | cons x xs => exact go xs x

theorem mem_arranged_iff {s : String} : s ∈ arranged xs ↔ s ∈ xs := by
  rw [arranged, mem_destutter_iff, List.mem_mergeSort]

/-- Neighbours are in order, and they are different. -/
theorem arranged_ascending (xs : List String) : (arranged xs).Pairwise (· < ·) := by
  have hSorted : (arranged xs).Pairwise (· ≤ ·) :=
    (List.pairwise_mergeSort' (· ≤ ·) xs).sublist (List.destutter_sublist _ _)
  have hOrder := List.isChain_iff_forall_rel_of_append_cons_cons.mp hSorted.isChain
  have hDistinct := List.isChain_iff_forall_rel_of_append_cons_cons.mp
    (List.isChain_destutter (· ≠ ·) (xs.mergeSort fun a b => a ≤ b))
  apply List.isChain_iff_pairwise.mp
  apply List.isChain_iff_forall_rel_of_append_cons_cons.mpr
  intro a b before after hCut
  exact lt_of_le_of_ne (hOrder hCut) (hDistinct hCut)

theorem arranged_eq_iff : arranged xs = arranged ys ↔ ∀ s, s ∈ xs ↔ s ∈ ys := by
  constructor
  · intro h s
    rw [← mem_arranged_iff, h, mem_arranged_iff]
  · intro h
    apply (arranged_ascending xs).eq_of_mem_iff (arranged_ascending ys)
    intro s
    rw [mem_arranged_iff, mem_arranged_iff]
    exact h s

end Arranging

theorem isEmpty_of_same {α : Type} {xs ys : List α} (h : ∀ x, x ∈ xs ↔ x ∈ ys) :
    ys.isEmpty = xs.isEmpty := by
  rw [Bool.eq_iff_iff, List.isEmpty_iff, List.isEmpty_iff, List.eq_nil_iff_forall_not_mem,
    List.eq_nil_iff_forall_not_mem]
  exact forall_congr' fun x => not_congr (h x).symm

/-! ### What is alike -/

/-- Both values are the same, or both are lists with the same elements. -/
inductive Attribute.Alike : Attribute → Attribute → Prop where
  | refl (a : Attribute) : Alike a a
  | texts {xs ys : List String} : (∀ s, s ∈ xs ↔ s ∈ ys) → Alike (.texts xs) (.texts ys)
  | uuids {xs ys : List Uuid} : (∀ u, u ∈ xs ↔ u ∈ ys) → Alike (.uuids xs) (.uuids ys)

inductive Literal.Alike : Literal → Literal → Prop where
  | refl (l : Literal) : Alike l l
  | texts {xs ys : List String} : (∀ s, s ∈ xs ↔ s ∈ ys) → Alike (.texts xs) (.texts ys)

theorem Literal.Alike.symm {l l' : Literal} (h : l.Alike l') : l'.Alike l := by
  cases h with
  | refl => exact .refl _
  | texts h => exact .texts fun s => (h s).symm

/-- The records know the same attributes, and the values of each are alike. -/
def Record.Alike (r r' : Record) : Prop :=
  ∀ name, Option.Rel Attribute.Alike (r name) (r' name)

/-- The expressions are the same but for the sets of texts that attributes are compared with, where
they may have lists with the same elements. -/
inductive Expression.Alike : Expression → Expression → Prop where
  | literal (l : Literal) : Alike (.literal l) (.literal l)
  | field (name : String) : Alike (.field name) (.field name)
  | equals (name : String) {l l' : Literal} : l.Alike l' → Alike (.equals name l) (.equals name l')
  | isNull (name : String) : Alike (.isNull name) (.isNull name)
  | not {e e' : Expression} : Alike e e' → Alike (.not e) (.not e')
  | group (c : Connective) {es es' : List Expression} : List.Forall₂ Alike es es' →
      Alike (.group c es) (.group c es')

/-! ### Comparing and asking for a value -/

namespace Attribute

variable {a a' : Attribute} {l l' : Literal}

theorem Alike.symm (h : a.Alike a') : a'.Alike a := by
  cases h with
  | refl => exact .refl _
  | texts h => exact .texts fun s => (h s).symm
  | uuids h => exact .uuids fun u => (h u).symm

theorem Equal.of_alike_value (h : a.Equal l) (ha : a.Alike a') : a'.Equal l := by
  cases ha with
  | refl => exact h
  | texts hSame =>
    cases h with
    | memText hMem => exact .memText ((hSame _).mp hMem)
    | sameTexts hItems =>
      apply Equal.sameTexts
      intro s
      exact (hSame s).symm.trans (hItems s)
  | uuids hSame =>
    cases h with
    | memUuid hMem => exact .memUuid ((hSame _).mp hMem)
    | memUuidOfText hRead hMem => exact .memUuidOfText hRead ((hSame _).mp hMem)

theorem Equal.of_alike_literal (h : a.Equal l) (hl : l.Alike l') : a.Equal l' := by
  cases hl with
  | refl => exact h
  | texts hSame =>
    cases h with
    | sameTexts hItems =>
      apply Equal.sameTexts
      intro s
      exact (hItems s).trans (hSame s)

theorem equals_of_alike (ha : a.Alike a') (hl : l.Alike l') : a'.equals l' = a.equals l := by
  rw [Bool.eq_iff_iff, equals_iff, equals_iff]
  constructor
  · intro h
    exact (h.of_alike_value ha.symm).of_alike_literal hl.symm
  · intro h
    exact (h.of_alike_value ha).of_alike_literal hl

theorem isNull_of_alike (ha : a.Alike a') : a'.isNull = a.isNull := by
  cases ha with
  | refl => rfl
  | texts hSame => exact isEmpty_of_same hSame
  | uuids hSame => exact isEmpty_of_same hSame

end Attribute

/-! ### Evaluating -/

namespace Expression

variable {r r' : Record} {e e' : Expression} {c : Connective} {es es' : List Expression}

theorem Alike.refl (e : Expression) : e.Alike e := by
  induction e with
  | literal l => exact .literal l
  | field name => exact .field name
  | equals name l => exact .equals name (.refl l)
  | isNull name => exact .isNull name
  | not e ih => exact .not ih
  | group c members ih => exact .group c (List.forall₂_same.mpr ih)

/-- Both records are asked in vain for an attribute, or give values that are alike. -/
theorem lookup_of_alike (h : r.Alike r') (name : String) :
    (∃ err, lookup r name = .error err ∧ lookup r' name = .error err) ∨
      ∃ a a', a.Alike a' ∧ lookup r name = .ok a ∧ lookup r' name = .ok a' := by
  have hName := h name
  unfold lookup
  cases hr : r name with
  | none =>
    rw [hr] at hName
    cases hr' : r' name with
    | none => exact .inl ⟨_, rfl, rfl⟩
    | some a' =>
      rw [hr'] at hName
      cases hName
  | some a =>
    rw [hr] at hName
    cases hr' : r' name with
    | none =>
      rw [hr'] at hName
      cases hName
    | some a' =>
      rw [hr'] at hName
      cases hName with
      | some ha => exact .inr ⟨a, a', ha, rfl, rfl⟩

/-- Alike records give alike expressions the same truth value, or the same error. Induction on the
expression. -/
theorem evaluate_of_alike (hRecords : r.Alike r') (h : e.Alike e') :
    e'.evaluate r' = e.evaluate r := by
  induction e generalizing e' with
  | literal l =>
    cases h
    cases l with
    | bool b => rw [evaluate, evaluate]
    | text _ | uuid _ | number _ | texts _ => rw [evaluate, evaluate] <;> simp
  | field name =>
    cases h
    rw [evaluate, evaluate]
    rcases lookup_of_alike hRecords name with ⟨err, hr, hr'⟩ | ⟨a, a', ha, hr, hr'⟩
    · rw [hr, hr']
    · rw [hr, hr']
      -- A list is not boolean, whatever is in it.
      cases ha with
      | refl => rfl
      | texts _ => rfl
      | uuids _ => rfl
  | equals name l =>
    cases h with
    | equals _ hl =>
      rw [evaluate, evaluate]
      rcases lookup_of_alike hRecords name with ⟨err, hr, hr'⟩ | ⟨a, a', ha, hr, hr'⟩
      · rw [hr, hr']
        rfl
      · rw [hr, hr']
        exact congrArg Except.ok (Attribute.equals_of_alike ha hl)
  | isNull name =>
    cases h
    rw [evaluate, evaluate]
    rcases lookup_of_alike hRecords name with ⟨err, hr, hr'⟩ | ⟨a, a', ha, hr, hr'⟩
    · rw [hr, hr']
    · rw [hr, hr']
      exact congrArg Except.ok (Attribute.isNull_of_alike ha)
  | not e ih =>
    cases h with
    | not h => rw [evaluate, evaluate, ih h]
  | group c members ih =>
    cases h with
    | group _ hMembers =>
      cases hMembers with
      | nil => rw [evaluate, evaluate]
      | cons hHead hTail =>
        rw [evaluate_group (List.cons_ne_nil _ _), evaluate_group (List.cons_ne_nil _ _)]
        apply evaluateMembers_congr
        apply forall₂_imp_of_mem (.cons hHead hTail)
        intro e he e' hAlike
        exact ih e he hAlike

/-- What an expression says of a record does not hang on the order of the values of an attribute,
nor on that of the texts an attribute is compared with, and it does not matter how often one of them
is repeated. Two lists of texts are equal as sets exactly if they have the same elements, which is
the case exactly if they are equal when they are sorted and nothing in them is repeated. -/
theorem several_values_make_a_set :
    (∀ (r r' : Record) (e e' : Expression), r.Alike r' → e.Alike e' →
      e'.evaluate r' = e.evaluate r) ∧
    ∀ xs ys : List String,
      (sameElements xs ys = true ↔ ∀ s, s ∈ xs ↔ s ∈ ys) ∧
      (sameElements xs ys = true ↔ arranged xs = arranged ys) := by
  constructor
  · intro r r' e e' hRecords h
    exact evaluate_of_alike hRecords h
  · intro xs ys
    rw [arranged_eq_iff]
    exact ⟨sameElements_iff, sameElements_iff⟩

/-- A house with its colors and its owners. -/
def house (colors : List String) (owners : List Uuid) : Record := fun name =>
  if name = "colors" then some (.texts colors)
  else if name = "owners" then some (.uuids owners)
  else none

/-- A house that has just these colors, and one of whose owners is the second. -/
def painted (colors : List String) : Expression :=
  .group .all [.equals "colors" (.texts colors), .equals "owners" (.uuid (.repeated 2))]

theorem house_painted_anew :
    (painted ["red", "blue", "red"]).evaluate
        (house ["blue", "blue", "red"] [.repeated 2, .repeated 1, .repeated 2]) = .ok true ∧
      (Expression.field "owners").evaluate
        (house ["blue", "blue", "red"] [.repeated 2, .repeated 1, .repeated 2]) =
          .error (.notBoolean (.field "owners")) := by
  have hColors : ∀ s, s ∈ ["red", "blue"] ↔ s ∈ ["blue", "blue", "red"] := by grind
  have hWanted : ∀ s, s ∈ ["blue", "red"] ↔ s ∈ ["red", "blue", "red"] := by grind
  have hOwners : ∀ u : Uuid, u ∈ [.repeated 1, .repeated 2] ↔
      u ∈ [.repeated 2, .repeated 1, .repeated 2] := by grind
  have hHouses : (house ["red", "blue"] [.repeated 1, .repeated 2]).Alike
      (house ["blue", "blue", "red"] [.repeated 2, .repeated 1, .repeated 2]) := by
    intro name
    unfold house
    split_ifs
    · exact .some (.texts hColors)
    · exact .some (.uuids hOwners)
    · exact .none
  have hPainted : (painted ["blue", "red"]).Alike (painted ["red", "blue", "red"]) :=
    .group .all (.cons (.equals _ (.texts hWanted)) (.cons (.refl _) .nil))
  obtain ⟨hSame, -⟩ := several_values_make_a_set
  rw [hSame _ _ _ _ hHouses hPainted, hSame _ _ _ _ hHouses (.field "owners")]
  exact ⟨by cbv, by cbv⟩

end Expression

end Worklist.Filter
