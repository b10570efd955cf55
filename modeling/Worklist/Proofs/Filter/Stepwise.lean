import Mathlib.Data.List.Basic
import Worklist.Proofs.Filter.Composition

/-!
# Composing step by step

A filter that is composed with some constraints and later with others is the filter that is composed
with all of them at once, if no conjunction stands directly within a conjunction. Where one does,
every step takes apart one level more, so the trees may differ; but they say the same unless an
empty conjunction comes to the surface.
-/

namespace Worklist.Filter

namespace Expression

/-- Whether an expression is a group of the given connective. -/
def isGroup (c : Connective) : Expression → Bool
  | .group d _ => d = c
  | _ => false

/-- An expression is not a group of the connective with such a group as a member. -/
def Flat (c : Connective) : Expression → Prop
  | .group d members => d = c → ∀ m ∈ members, m.isGroup c = false
  | _ => True

instance (c : Connective) : DecidablePred (Flat c) := fun e =>
  match e with
  | .group d members =>
    inferInstanceAs (Decidable (d = c → ∀ m ∈ members, m.isGroup c = false))
  | .literal _ | .field _ | .equals _ _ | .isNull _ | .not _ => inferInstanceAs (Decidable True)

/-- No empty group of the connective is part of an expression. -/
def Filled (c : Connective) (e : Expression) : Prop :=
  ∀ x ∈ e.parts, x ≠ .group c []

instance (c : Connective) : DecidablePred (Filled c) := fun e =>
  inferInstanceAs (Decidable (∀ x ∈ e.parts, x ≠ .group c []))

variable {c : Connective} {e m : Expression} {es xs ys : List Expression} {r : Record}

/-! ### Taking apart what was joined -/

/-- A group of the connective is taken apart, anything else is left alone. -/
theorem spliced_cases (c : Connective) (e : Expression) :
    e = .group c (spliced c e) ∨ e.isGroup c = false ∧ spliced c e = [e] := by
  cases e
  case group d members =>
    by_cases hEq : d = c
    · exact .inl (by rw [spliced, if_pos hEq, hEq])
    · exact .inr ⟨decide_eq_false hEq, if_neg hEq⟩
  all_goals exact .inr ⟨rfl, rfl⟩

theorem flat_of_isGroup_eq_false (h : e.isGroup c = false) : e.Flat c := by
  cases e
  case group d members => exact fun hEq => absurd hEq (of_decide_eq_false h)
  all_goals trivial

theorem Flat.isGroup_of_mem_spliced (h : e.Flat c) (hm : m ∈ spliced c e) :
    m.isGroup c = false := by
  rcases spliced_cases c e with hGroup | ⟨hNot, hSelf⟩
  · rw [hGroup] at h
    exact h rfl m hm
  · rw [hSelf] at hm
    exact List.mem_singleton.mp hm ▸ hNot

theorem flatMap_spliced_eq_self (h : ∀ e ∈ es, e.isGroup c = false) :
    es.flatMap (spliced c) = es := by
  have hSelf : ∀ e ∈ es, spliced c e = [e] := by
    intro e he
    rcases spliced_cases c e with hGroup | ⟨-, hSelf⟩
    · have hNot := h e he
      rw [hGroup] at hNot
      exact absurd rfl (of_decide_eq_false hNot)
    · exact hSelf
  rw [List.flatMap_congr hSelf, List.flatMap_singleton']

theorem flatMap_spliced_joinFlat (h : ∀ e ∈ es, e.isGroup c = false) :
    (joinFlat c es).toList.flatMap (spliced c) = es := by
  match es with
  | [] => rfl
  | [e] => exact flatMap_spliced_eq_self h
  | e :: e' :: rest => simp [joinFlat, spliced]

theorem flat_of_joinFlat (h : ∀ e ∈ es, e.isGroup c = false) (hJoin : joinFlat c es = some e) :
    e.Flat c := by
  match es with
  | [] => cases hJoin
  | [x] =>
    cases hJoin
    exact flat_of_isGroup_eq_false (h e List.mem_cons_self)
  | x :: y :: rest =>
    cases hJoin
    exact fun _ => h

theorem isGroup_of_mem_flatMap_spliced (h : ∀ e ∈ es, e.Flat c) :
    ∀ m ∈ es.flatMap (spliced c), m.isGroup c = false := by
  intro m hm
  obtain ⟨e, he, hm⟩ := List.mem_flatMap.mp hm
  exact (h e he).isGroup_of_mem_spliced hm

theorem join_flat (h : ∀ e ∈ es, e.Flat c) (hJoin : join c es = some e) : e.Flat c :=
  flat_of_joinFlat (isGroup_of_mem_flatMap_spliced h) hJoin

/-- What was joined before is joined as if it had not been. -/
theorem join_join_append (h : ∀ e ∈ xs, e.Flat c) (ys : List Expression) :
    join c ((join c xs).toList ++ ys) = join c (xs ++ ys) := by
  have hApart := flatMap_spliced_joinFlat (isGroup_of_mem_flatMap_spliced h)
  rw [join, List.flatMap_append, join, hApart, join, List.flatMap_append]

/-! ### Attributes -/

theorem flatMap_fields_spliced (c : Connective) (e : Expression) :
    (spliced c e).flatMap fields = e.fields := by
  rcases spliced_cases c e with hGroup | ⟨-, hSelf⟩
  · conv_rhs => rw [hGroup, fields, fieldsOf_eq_flatMap]
  · rw [hSelf, List.flatMap_singleton]

theorem flatMap_fields_joinFlat (c : Connective) (es : List Expression) :
    (joinFlat c es).toList.flatMap fields = es.flatMap fields := by
  match es with
  | [] => rfl
  | [e] => rfl
  | e :: e' :: rest =>
    simp only [joinFlat, Option.toList_some, List.flatMap_singleton, fields, fieldsOf_eq_flatMap]

/-- Joining asks about the same attributes in the same order. -/
theorem flatMap_fields_join (c : Connective) (es : List Expression) :
    (join c es).toList.flatMap fields = es.flatMap fields := by
  rw [join, flatMap_fields_joinFlat, List.flatMap_assoc]
  exact List.flatMap_congr fun e _ => flatMap_fields_spliced c e

/-! ### Evaluating in steps -/

theorem Filled.ne_nil (h : e.Filled c) : e ≠ .group c [] :=
  h e (mem_parts_self e)

theorem Filled.of_mem_spliced (h : e.Filled c) (hm : m ∈ spliced c e) : m.Filled c := by
  rcases spliced_cases c e with hGroup | ⟨-, hSelf⟩
  · intro x hx
    apply h x
    rw [hGroup]
    exact mem_parts_group.mpr (.inr ⟨m, hm, hx⟩)
  · rw [hSelf] at hm
    exact List.mem_singleton.mp hm ▸ h

theorem filled_of_joinFlat (h : ∀ e ∈ es, e.Filled c) (hJoin : joinFlat c es = some e) :
    e.Filled c := by
  match es with
  | [] => cases hJoin
  | [x] =>
    cases hJoin
    exact h e List.mem_cons_self
  | x :: y :: rest =>
    cases hJoin
    intro z hz
    rcases mem_parts_group.mp hz with rfl | ⟨m, hm, hz⟩
    · simp
    · exact h m hm z hz

theorem join_filled (h : ∀ e ∈ es, e.Filled c) (hJoin : join c es = some e) : e.Filled c := by
  refine filled_of_joinFlat (fun m hm => ?_) hJoin
  obtain ⟨e, he, hm⟩ := List.mem_flatMap.mp hm
  exact (h e he).of_mem_spliced hm

/-- There is something to evaluate unless nothing is joined, and it is evaluated as what was joined,
one after the other. -/
theorem map_evaluate_join (h : ∀ e ∈ es, e.Filled c) :
    (join c es).map (evaluate r) = if es = [] then none else some (evaluateMembers r c es) := by
  have hne : ∀ e ∈ es, e ≠ .group c [] := fun e he => (h e he).ne_nil
  cases hJoin : join c es with
  | none => rw [if_pos ((join_eq_none_iff hne).mp hJoin), Option.map_none]
  | some e =>
    have hSome : es ≠ [] := by
      rintro rfl
      cases hJoin
    rw [if_neg hSome, Option.map_some, evaluate_join hne hJoin]

theorem evaluateMembers_toList (f : Option Expression) :
    evaluateMembers r c f.toList = (f.map (evaluate r)).getD (.ok (!c.decisive)) := by
  cases f with
  | none => rfl
  | some e => exact evaluateMembers_singleton

/-- What is joined stands for its parts in a group. -/
theorem evaluateMembers_join_append (h : ∀ e ∈ xs, e.Filled c) (ys : List Expression) :
    evaluateMembers r c ((join c xs).toList ++ ys) = evaluateMembers r c (xs ++ ys) := by
  have hJoined : evaluateMembers r c (join c xs).toList = evaluateMembers r c xs := by
    rw [evaluateMembers_toList, map_evaluate_join h]
    split
    · rename_i hNil
      rw [hNil]
      rfl
    · rfl
  rw [evaluateMembers_append, evaluateMembers_append, hJoined]

theorem join_append_eq_nil_iff (h : ∀ e ∈ xs, e.Filled c) :
    (join c xs).toList ++ ys = [] ↔ xs ++ ys = [] := by
  have hNone := join_eq_none_iff fun e he => (h e he).ne_nil
  rw [List.append_eq_nil_iff, List.append_eq_nil_iff, Option.toList_eq_nil_iff, hNone]

end Expression

open Expression

/-! ### Compositions -/

/-- Two filters are both missing, or they have the same truth values and the same errors. -/
def Agree (f g : Option Expression) : Prop :=
  ∀ r : Record, f.map (evaluate r) = g.map (evaluate r)

variable {base f g : Option Expression} {xs ys : List Expression} {steps : List (List Expression)}

theorem conjoin_conjoin (h : ∀ e ∈ base.toList ++ xs, e.Flat .all) (ys : List Expression) :
    conjoin (conjoin base xs) ys = conjoin base (xs ++ ys) := by
  rw [conjoin, conjoin, join_join_append h, List.append_assoc]
  rfl

theorem foldl_conjoin (h : ∀ e ∈ base.toList ++ xs ++ steps.flatten, e.Flat .all) :
    steps.foldl conjoin (conjoin base xs) = conjoin base (xs ++ steps.flatten) := by
  induction steps generalizing xs with
  | nil => rw [List.foldl_nil, List.flatten_nil, List.append_nil]
  | cons ys steps ih =>
    have hFirst : ∀ e ∈ base.toList ++ xs, e.Flat .all :=
      fun e he => h e (List.mem_append_left _ he)
    rw [List.flatten_cons, ← List.append_assoc] at h
    rw [List.foldl_cons, conjoin_conjoin hFirst, ih (by simpa using h), List.flatten_cons,
      List.append_assoc]

theorem conjoin_filled (h : ∀ e ∈ base.toList ++ xs, e.Filled .all) :
    ∀ e ∈ (conjoin base xs).toList, e.Filled .all :=
  fun _ he => join_filled h (Option.mem_toList.mp he)

theorem map_evaluate_conjoin (h : ∀ e ∈ base.toList ++ xs, e.Filled .all) (r : Record) :
    (conjoin base xs).map (evaluate r) =
      if base.toList ++ xs = [] then none else some (evaluateMembers r .all (base.toList ++ xs)) :=
  map_evaluate_join h

theorem agree_conjoin_conjoin (h : ∀ e ∈ base.toList ++ xs ++ ys, e.Filled .all) :
    Agree (conjoin (conjoin base xs) ys) (conjoin base (xs ++ ys)) := by
  intro r
  have hOnce : ∀ e ∈ base.toList ++ (xs ++ ys), e.Filled .all := by
    rwa [← List.append_assoc]
  rw [List.forall_mem_append] at h
  have hSteps : ∀ e ∈ (conjoin base xs).toList ++ ys, e.Filled .all :=
    List.forall_mem_append.mpr ⟨conjoin_filled h.1, h.2⟩
  rw [map_evaluate_conjoin hSteps, map_evaluate_conjoin hOnce, ← List.append_assoc]
  simp only [conjoin, join_append_eq_nil_iff h.1, evaluateMembers_join_append h.1]

/-- What is composed with the same constraints goes on to agree. -/
theorem Agree.conjoin (h : Agree f g) (hf : ∀ e ∈ f.toList ++ ys, e.Filled .all)
    (hg : ∀ e ∈ g.toList ++ ys, e.Filled .all) : Agree (conjoin f ys) (conjoin g ys) := by
  intro r
  have hNil : f.toList = [] ↔ g.toList = [] := by
    rw [Option.toList_eq_nil_iff, Option.toList_eq_nil_iff, ← Option.map_eq_none_iff, h r,
      Option.map_eq_none_iff]
  rw [map_evaluate_conjoin hf, map_evaluate_conjoin hg]
  simp only [List.append_eq_nil_iff, hNil, evaluateMembers_append, evaluateMembers_toList, h r]

/-- Every step keeps what it agrees with, however the trees come to differ on the way. -/
theorem Agree.foldl_conjoin (h : Agree f (Filter.conjoin base xs))
    (hf : ∀ e ∈ f.toList, e.Filled .all)
    (hAll : ∀ e ∈ base.toList ++ xs ++ steps.flatten, e.Filled .all) :
    Agree (steps.foldl Filter.conjoin f) (Filter.conjoin base (xs ++ steps.flatten)) := by
  induction steps generalizing f xs with
  | nil => simpa using h
  | cons ys steps ih =>
    have hParts := hAll
    rw [List.flatten_cons, ← List.append_assoc, List.forall_mem_append, List.forall_mem_append]
      at hParts
    obtain ⟨⟨hxs, hys⟩, hRest⟩ := hParts
    have hStep : ∀ e ∈ f.toList ++ ys, e.Filled .all := List.forall_mem_append.mpr ⟨hf, hys⟩
    have hNext : Agree (Filter.conjoin f ys) (Filter.conjoin base (xs ++ ys)) := by
      intro r
      rw [h.conjoin hStep (List.forall_mem_append.mpr ⟨conjoin_filled hxs, hys⟩) r]
      exact agree_conjoin_conjoin (List.forall_mem_append.mpr ⟨hxs, hys⟩) r
    rw [List.flatten_cons, ← List.append_assoc]
    refine ih hNext (conjoin_filled hStep) ?_
    simpa using hAll

/-- Composing in two steps, or in any number of them, gives the tree of composing at once if all
that is composed is flat. The tree is flat again and asks about the attributes of its parts in
order. If what is composed is not flat, then composing in steps may give another tree, but one with
the same truth values and errors on all records, as long as no empty conjunction is part of
anything. -/
theorem composing_in_steps_is_composing_at_once (base : Option Expression)
    (xs ys : List Expression) (steps : List (List Expression)) :
    ((∀ e ∈ base.toList ++ xs ++ ys, e.Flat .all) →
      conjoin (conjoin base xs) ys = conjoin base (xs ++ ys) ∧
      (∀ e ∈ conjoin base (xs ++ ys), e.Flat .all) ∧
      (conjoin base (xs ++ ys)).toList.flatMap fields =
        (base.toList ++ xs ++ ys).flatMap fields) ∧
    ((∀ e ∈ base.toList ++ xs ++ ys, e.Filled .all) →
      Agree (conjoin (conjoin base xs) ys) (conjoin base (xs ++ ys))) ∧
    ((∀ e ∈ base.toList ++ xs ++ steps.flatten, e.Flat .all) →
      steps.foldl conjoin (conjoin base xs) = conjoin base (xs ++ steps.flatten)) ∧
    ((∀ e ∈ base.toList ++ xs ++ steps.flatten, e.Filled .all) →
      Agree (steps.foldl conjoin (conjoin base xs)) (conjoin base (xs ++ steps.flatten))) := by
  refine ⟨fun h => ⟨?_, ?_, ?_⟩, agree_conjoin_conjoin, foldl_conjoin, fun h => ?_⟩
  · rw [List.forall_mem_append] at h
    exact conjoin_conjoin h.1 ys
  · rw [List.append_assoc] at h
    exact fun e he => join_flat h he
  · rw [conjoin, flatMap_fields_join, List.append_assoc]
  · exact Agree.foldl_conjoin (fun _ => rfl)
      (conjoin_filled (List.forall_mem_append.mp h).1) h

/-- Two conditions, bracketed once more than needed. -/
def bracketed : Expression :=
  .group .all [.group .all [.isNull "area", .isNull "labels"]]

/-- A flat filter and flat constraints, and a filter that is not flat: the steps take off its outer
brackets and then the inner ones, while composing at once leaves the inner ones. -/
theorem bracketed_in_steps :
    (conjoin (conjoin (some (.isNull "area")) [.group .all [.isNull "labels", .isNull "state"]])
        [.isNull "creator"]).toList.flatMap fields = ["area", "labels", "state", "creator"] ∧
    [[.isNull "creator"], [.isNull "parent"]].foldl conjoin
        (conjoin (some (.isNull "area")) [.group .all [.isNull "labels", .isNull "state"]]) =
      some (.group .all [.isNull "area", .isNull "labels", .isNull "state", .isNull "creator",
        .isNull "parent"]) ∧
    conjoin (conjoin (some bracketed) []) [.isNull "state"] ≠
      conjoin (some bracketed) [.isNull "state"] ∧
    Agree (conjoin (conjoin (some bracketed) []) [.isNull "state"])
      (conjoin (some bracketed) [.isNull "state"]) := by
  obtain ⟨hTwo, -, hMore, -⟩ := composing_in_steps_is_composing_at_once (some (.isNull "area"))
    [.group .all [.isNull "labels", .isNull "state"]] [.isNull "creator"]
    [[.isNull "creator"], [.isNull "parent"]]
  obtain ⟨-, hFilled, -⟩ := composing_in_steps_is_composing_at_once (some bracketed) []
    [.isNull "state"] []
  obtain ⟨hSame, -, hFields⟩ := hTwo (by decide)
  refine ⟨?_, hMore (by decide), by decide, hFilled (by decide)⟩
  rw [hSame, hFields]
  rfl

end Worklist.Filter
