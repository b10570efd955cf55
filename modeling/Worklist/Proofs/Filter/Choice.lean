import Worklist.Proofs.Filter.Composition
import Worklist.Proofs.Filter.Sites

/-!
# Choices

A field with a list of values is read as the group of alternatives that give the field each of the
values: both are refused for the same reason, or both are accepted and are evaluated alike. The
comparisons of a choice are the same whether they are made one by one or joined at the end.
-/

namespace Worklist.Filter

variable {t : FieldTable} {d : FieldDef} {key : String} {v : Json} {values : List Json}

/-! ### Comparisons -/

namespace Expression

variable {name : String} {ls : List Literal}

/-- A choice with one more comparison. -/
def orEquals (name : String) : Option Expression → Literal → Option Expression
  | none, l => some (.equals name l)
  | some (.group .any members), l => some (.group .any (members ++ [.equals name l]))
  | some e, l => some (.group .any [e, .equals name l])

theorem oneOf_concat (ls : List Literal) (l : Literal) :
    oneOf name (ls ++ [l]) = orEquals name (oneOf name ls) l := by
  match ls with
  | [] => rfl
  | [_] => rfl
  | _ :: _ :: _ => simp [oneOf, joinFlat, orEquals]

theorem foldl_orEquals (ls : List Literal) : ls.foldl (orEquals name) none = oneOf name ls := by
  induction ls using List.reverseRecOn with
  | nil => rfl
  | append_singleton ls l ih => rw [List.foldl_concat, ih, oneOf_concat]

/-- Comparisons are no groups, so that joining takes nothing apart. -/
theorem join_equals (c : Connective) (ls : List Literal) :
    join c (ls.map (.equals name)) = joinFlat c (ls.map (.equals name)) := by
  rw [join, List.flatMap_map]
  exact congrArg (joinFlat c) List.map_eq_flatMap.symm

theorem oneOf_eq_group (h : 2 ≤ ls.length) :
    oneOf name ls = some (.group .any (ls.map (.equals name))) := by
  match ls with
  | _ :: _ :: _ => rfl

end Expression

/-! ### Fields -/

/-- A value that stands for a literal if it stands for anything: neither null nor an operand. -/
def IsComparand (v : Json) : Prop :=
  v ≠ .null ∧ ∀ members, v ≠ .object members

/-- The alternatives that give the field each of the values. -/
def alternatives (key : String) (values : List Json) : List Json :=
  values.map fun v => .object [(key, v)]

theorem readField_comparand (h : IsComparand v) :
    readField t key v = (do
      let d ← t.resolve key
      let l ← d.literal key v
      return .equals d.target l) := by
  rw [readField]
  cases v with
  | null => exact absurd rfl h.1
  | object members => exact absurd rfl (h.2 members)
  | _ => rfl

theorem readField_oneOf :
    readField t key (.object [(inKey, .array values)]) = (do
      let d ← t.resolve key
      let ls ← readLiterals d key values
      match Expression.oneOf d.target ls with
      | some e => return e
      | none => throw (.invalidOperand inKey (.noValues key))) := by
  rw [readField]
  cases t.resolve key with
  | error err => rfl
  | ok d =>
    simp only [ok_bind, readOperand]
    cases readLiterals d key values <;> rfl

theorem readItems_alternatives (hKey : IsFieldKey key) (hField : t.resolve key = .ok d)
    (hValues : ∀ v ∈ values, IsComparand v) :
    readItems t .any (alternatives key values) =
      (readLiterals d key values).map (·.map (.equals d.target)) := by
  induction values with
  | nil => rw [alternatives, List.map_nil, readItems, readLiterals]; rfl
  | cons v rest ih =>
    obtain ⟨hFirst, hRest⟩ := List.forall_mem_cons.mp hValues
    have hTail := ih hRest
    rw [alternatives] at hTail
    rw [alternatives, List.map_cons, readItems_cons, readAt_field hKey,
      readField_comparand hFirst, hField, hTail, readLiterals, ok_bind]
    cases d.literal key v with
    | error err => rfl
    | ok l => cases readLiterals d key rest <;> rfl

/-- Without a field none of the alternatives is read, nor any value. -/
theorem readItems_alternatives_error {err : FilterError} (hKey : IsFieldKey key)
    (hField : t.resolve key = .error err) (hne : values ≠ [])
    (hValues : ∀ v ∈ values, IsComparand v) :
    readItems t .any (alternatives key values) = .error err := by
  cases values with
  | nil => exact absurd rfl hne
  | cons v rest =>
    have hFirst := hValues v List.mem_cons_self
    rw [alternatives, List.map_cons, readItems_cons, readAt_field hKey,
      readField_comparand hFirst, hField]
    rfl

/-! ### Choices and groups of alternatives -/

theorem oneOf_agrees_with_alternatives (hKey : IsFieldKey key) (hne : values ≠ [])
    (hValues : ∀ v ∈ values, IsComparand v) :
    (∃ err, ofJson t (.object [(key, .object [(inKey, .array values)])]) = .error err ∧
      ofJson t (.object [(Connective.any.key, .array (alternatives key values))]) = .error err) ∨
    ∃ e g, ofJson t (.object [(key, .object [(inKey, .array values)])]) = .ok e ∧
      ofJson t (.object [(Connective.any.key, .array (alternatives key values))]) = .ok g ∧
      (∀ r, e.evaluate r = g.evaluate r) ∧ (2 ≤ values.length → e = g) := by
  have hSome : alternatives key values ≠ [] := List.map_eq_nil_iff.not.mpr hne
  rw [← readAt_top, ← readAt_top, readAt_field hKey, readAt_group, readField_oneOf,
    readGroup_of_ne_nil hSome]
  cases hField : t.resolve key with
  | error err =>
    rw [readItems_alternatives_error hKey hField hne hValues]
    exact .inl ⟨err, rfl, rfl⟩
  | ok d =>
    rw [readItems_alternatives hKey hField hValues, ok_bind]
    cases hRead : readLiterals d key values with
    | error err => exact .inl ⟨err, rfl, rfl⟩
    | ok ls =>
      have hLength := (readLiterals_eq_ok_iff.mp hRead).length_eq
      have hLiterals : ls ≠ [] := by
        rw [← List.length_pos_iff, ← hLength, List.length_pos_iff]
        exact hne
      obtain ⟨e, hOne⟩ := Option.ne_none_iff_exists'.mp
        (Expression.oneOf_eq_none_iff.not.mpr hLiterals)
      refine .inr ⟨e, .group .any (ls.map (.equals d.target)), ?_, rfl, fun r => ?_, fun hTwo => ?_⟩
      · rw [ok_bind, hOne]
        rfl
      · rw [Expression.evaluate_joinFlat hOne,
          Expression.evaluate_group (List.map_eq_nil_iff.not.mpr hLiterals)]
      · rw [hLength] at hTwo
        exact Option.some.inj (hOne.symm.trans (Expression.oneOf_eq_group hTwo))

/-- Listing the values of a field says what the group of alternatives says, and is refused for the
same reason; from two values on both are the same expression. A choice consists of the comparisons
with its literals, joined, and also of these comparisons made one after the other. -/
theorem listed_values_are_alternatives :
    (∀ (t : FieldTable) (key : String) (values : List Json), IsFieldKey key → values ≠ [] →
      (∀ v ∈ values, IsComparand v) →
      (∃ err, ofJson t (.object [(key, .object [(inKey, .array values)])]) = .error err ∧
        ofJson t (.object [(Connective.any.key, .array (alternatives key values))]) = .error err) ∨
      ∃ e g, ofJson t (.object [(key, .object [(inKey, .array values)])]) = .ok e ∧
        ofJson t (.object [(Connective.any.key, .array (alternatives key values))]) = .ok g ∧
        (∀ r : Record, e.evaluate r = g.evaluate r) ∧ (2 ≤ values.length → e = g)) ∧
    ∀ (name : String) (ls : List Literal),
      Expression.oneOf name ls = Expression.join .any (ls.map (.equals name)) ∧
      Expression.oneOf name ls = ls.foldl (Expression.orEquals name) none :=
  ⟨fun _ _ _ hKey hne hValues => oneOf_agrees_with_alternatives hKey hne hValues,
    fun _ ls => ⟨(Expression.join_equals .any ls).symm, (Expression.foldl_orEquals ls).symm⟩⟩

/-- A label, and a set of labels. -/
def labelOrLabels : List Json :=
  [.string "ui", .strings ["ui", "api"]]

theorem labelOrLabels_are_alternatives :
    ∃ e, ofJson labelTable (.object [("label", .object [(inKey, .array labelOrLabels)])]) = .ok e ∧
      ofJson labelTable (.object [(Connective.any.key,
        .array (alternatives "label" labelOrLabels))]) = .ok e := by
  have hValues : ∀ v ∈ labelOrLabels, IsComparand v := by
    simp [labelOrLabels, IsComparand, Json.strings]
  have hRead : ofJson labelTable (.object [("label", .object [(inKey, .array labelOrLabels)])]) =
      .ok (.group .any
        [.equals "labels" (.text "ui"), .equals "labels" (.texts ["ui", "api"])]) := by
    cbv
  rcases listed_values_are_alternatives.1 labelTable "label" labelOrLabels (by decide)
    (List.cons_ne_nil _ _) hValues with ⟨err, hRefused, -⟩ | ⟨e, g, hList, hGroup, -, hSame⟩
  · cases hRead.symm.trans hRefused
  · obtain rfl := hSame (by decide)
    exact ⟨e, hList, hGroup⟩

end Worklist.Filter
