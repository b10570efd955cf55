import Worklist.Filter.Composition
import Worklist.Proofs.Filter.Evaluation

/-!
# Compositions mean conjunctions

Taking groups apart and joining their members does not change what is evaluated, errors included.
So a composition wants exactly the records that meet the user's filter and every constraint, as long
as these can be evaluated.
-/

namespace Worklist.Filter

namespace Expression

variable {r : Record} {c : Connective} {e : Expression} {es : List Expression}

/-! ### Joining -/

theorem evaluateMembers_spliced (h : e ≠ .group c []) :
    evaluateMembers r c (spliced c e) = e.evaluate r := by
  unfold spliced
  split
  case h_1 d members =>
    split
    case isTrue hEq =>
      subst hEq
      have hne : members ≠ [] := by
        rintro rfl
        exact h rfl
      exact (evaluate_group hne).symm
    case isFalse => exact evaluateMembers_singleton
  case h_2 => exact evaluateMembers_singleton

theorem evaluateMembers_flatMap_spliced (h : ∀ e ∈ es, e ≠ .group c []) :
    evaluateMembers r c (es.flatMap (spliced c)) = evaluateMembers r c es := by
  induction es with
  | nil => rfl
  | cons e rest ih =>
    have he := evaluateMembers_spliced (r := r) (h e List.mem_cons_self)
    have hRest := ih fun x hx => h x (List.mem_cons_of_mem e hx)
    rw [List.flatMap_cons, evaluateMembers_append, he, hRest, evaluateMembers]

theorem spliced_ne_nil (h : e ≠ .group c []) : spliced c e ≠ [] := by
  unfold spliced
  split
  case h_1 d members =>
    split
    case isTrue hEq =>
      subst hEq
      rintro rfl
      exact h rfl
    case isFalse => exact List.cons_ne_nil _ _
  case h_2 => exact List.cons_ne_nil _ _

theorem evaluate_joinFlat (h : joinFlat c es = some e) : e.evaluate r = evaluateMembers r c es := by
  match es with
  | [] => cases h
  | [x] =>
    cases h
    exact evaluateMembers_singleton.symm
  | x :: y :: rest =>
    cases h
    exact evaluate_group (List.cons_ne_nil _ _)

theorem join_eq_none_iff (h : ∀ e ∈ es, e ≠ .group c []) : join c es = none ↔ es = [] := by
  rw [join, joinFlat_eq_none_iff, List.flatMap_eq_nil_iff]
  constructor
  · intro hAll
    cases es with
    | nil => rfl
    | cons e rest =>
      have he := h e List.mem_cons_self
      exact absurd (hAll e List.mem_cons_self) (spliced_ne_nil he)
  · rintro rfl e he
    cases he

theorem evaluate_join (h : ∀ e ∈ es, e ≠ .group c []) (hJoin : join c es = some e) :
    e.evaluate r = evaluateMembers r c es := by
  rw [evaluate_joinFlat hJoin, evaluateMembers_flatMap_spliced h]

/-- Joining gives an expression unless there is nothing to join. The expression is evaluated as the
group of what was joined, to the same truth value or the same error. -/
theorem joined_is_evaluated_as_group (c : Connective) (es : List Expression)
    (h : ∀ e ∈ es, e ≠ .group c []) :
    (join c es = none ↔ es = []) ∧
    (es ≠ [] → ∃ e, join c es = some e ∧
      ∀ r : Record, e.evaluate r = (Expression.group c es).evaluate r) := by
  refine ⟨join_eq_none_iff h, fun hne => ?_⟩
  have hSome : join c es ≠ none := fun hNone => hne ((join_eq_none_iff h).mp hNone)
  obtain ⟨e, hJoin⟩ := Option.ne_none_iff_exists'.mp hSome
  exact ⟨e, hJoin, fun r => (evaluate_join h hJoin).trans (evaluate_group hne).symm⟩

/-- A member that settles a choice, and one that asks for an attribute. -/
def settledParts : List Expression :=
  [.group .any [.literal (.bool true), .isNull "colour"], .isNull "colour"]

/-- The same behind a member that cannot be evaluated. -/
def faultyParts : List Expression :=
  .group .all [.literal (.bool true), .group .any []] :: settledParts

theorem faultyParts_joined :
    (∃ e, join .all faultyParts = some e ∧
      e.evaluate (fun _ => none) = .error (.emptyGroup .any)) ∧
    ∃ e, join .any settledParts = some e ∧ e.evaluate (fun _ => none) = .ok true := by
  have hAll : ∀ e ∈ faultyParts, e ≠ .group .all [] := by decide
  have hAny : ∀ e ∈ settledParts, e ≠ .group .any [] := by decide
  obtain ⟨e, hJoin, hEvaluate⟩ := (joined_is_evaluated_as_group .all faultyParts hAll).2 (by decide)
  obtain ⟨e', hJoin', hEvaluate'⟩ :=
    (joined_is_evaluated_as_group .any settledParts hAny).2 (by decide)
  refine ⟨⟨e, hJoin, (hEvaluate _).trans ?_⟩, e', hJoin', (hEvaluate' _).trans ?_⟩
  · cbv
  · cbv

theorem Settled.ne_group_nil (h : e.Settled r) : e ≠ .group c [] := by
  rintro rfl
  exact not_settled_group_nil h

/-! ### Choices -/

/-- A record meets a choice if its attribute equals one of the literals. -/
theorem evaluate_oneOf {name : String} {ls : List Literal} {a : Attribute}
    (h : oneOf name ls = some e) (hr : r name = some a) :
    e.evaluate r = .ok (ls.any a.equals) := by
  have hSettled : ∀ x ∈ ls.map (Expression.equals name), x.Settled r := by
    intro x hx
    obtain ⟨l, -, rfl⟩ := List.mem_map.mp hx
    exact .equals hr l
  have hMeets : (fun l => (Expression.equals name l).meets r) = a.equals := by
    funext l
    exact meets_equals hr l
  rw [evaluate_joinFlat h, evaluateMembers_of_settled hSettled, truth_any_meets, List.any_map]
  simp only [Function.comp_def, hMeets]

end Expression

/-! ### Compositions -/

/-- Whether a record meets a filter. Every record meets a missing one. -/
def meetsFilter (r : Record) : Option Expression → Bool
  | none => true
  | some e => e.meets r

namespace Composition

/-- Whether a composition leaves a record. -/
def wants (r : Record) : Composition → Bool
  | .unfiltered => true
  | .filter e => e.meets r
  | .emptyResult => false

/-- The record gives the expression of the composition, if there is one, a truth value. -/
def Settled (r : Record) (c : Composition) : Prop :=
  ∀ e, c.expression? = some e → e.Settled r

theorem ofExpression?_settled {r : Record} {f : Option Expression}
    (h : ∀ e, f = some e → e.Settled r) : (ofExpression? f).Settled r := by
  cases f with
  | none => rintro e ⟨⟩
  | some e => exact h

theorem wants_ofExpression? (r : Record) (f : Option Expression) :
    (ofExpression? f).wants r = meetsFilter r f := by
  cases f <;> rfl

theorem wants_join {r : Record} {es : List Expression} (h : ∀ e ∈ es, e.Settled r) :
    (ofExpression? (Expression.join .all es)).wants r = es.all (·.meets r) ∧
      (ofExpression? (Expression.join .all es)).Settled r := by
  have hne : ∀ e ∈ es, e ≠ .group .all [] := fun e he => (h e he).ne_group_nil
  cases hJoin : Expression.join .all es with
  | none =>
    have hNil := (Expression.join_eq_none_iff hne).mp hJoin
    subst hNil
    exact ⟨rfl, by rintro e ⟨⟩⟩
  | some e =>
    have hEval : e.evaluate r = .ok (es.all (·.meets r)) := by
      rw [Expression.evaluate_join hne hJoin, Expression.evaluateMembers_of_settled h,
        Expression.truth_all_meets]
    refine ⟨?_, ?_⟩
    · simp only [ofExpression?, wants, Expression.meets, hEval]
    · rintro x ⟨⟩
      exact ⟨_, hEval⟩

end Composition

/-! ### Composing step by step -/

namespace Composer

variable {r : Record} {c : Composer}

/-- Whether the constraints so far leave a record. -/
def wants (r : Record) (c : Composer) : Bool :=
  !c.empty && c.parts.all (·.meets r)

/-- The record gives every part so far a truth value. -/
def Settled (r : Record) (c : Composer) : Prop :=
  ∀ e ∈ c.parts, e.Settled r

theorem ofBase_settled {base : Option Expression} (h : ∀ e, base = some e → e.Settled r) :
    (ofBase base).Settled r := by
  intro e he
  exact h e (Option.mem_toList.mp he)

theorem wants_ofBase (base : Option Expression) : (ofBase base).wants r = meetsFilter r base := by
  cases base <;> simp [ofBase, wants, meetsFilter]

theorem Settled.and {e : Expression} (h : c.Settled r) (he : e.Settled r) :
    (c.and e).Settled r := by
  unfold Composer.and
  split
  · exact h
  · intro x hx
    rcases List.mem_append.mp hx with hx | hx
    · exact h x hx
    · rw [List.mem_singleton.mp hx]
      exact he

theorem wants_and (e : Expression) : (c.and e).wants r = (c.wants r && e.meets r) := by
  unfold Composer.and wants
  split
  · rename_i hEmpty
    simp [hEmpty]
  · simp [Bool.and_assoc]

theorem Settled.nothing (h : c.Settled r) : c.nothing.Settled r :=
  h

theorem wants_nothing : c.nothing.wants r = false := by
  simp [Composer.nothing, wants]

section Choice

variable {name : String} {a : Attribute} (hr : r name = some a)
include hr

theorem Settled.andOneOf (h : c.Settled r) (ls : List Literal) :
    (c.andOneOf name ls).Settled r := by
  unfold Composer.andOneOf
  split
  · rename_i constraint hOne
    exact h.and ⟨_, Expression.evaluate_oneOf hOne hr⟩
  · exact h.nothing

/-- A choice without literals is met by no record, as is the sentinel that stands for it. -/
theorem wants_andOneOf (ls : List Literal) :
    (c.andOneOf name ls).wants r = (c.wants r && ls.any a.equals) := by
  unfold Composer.andOneOf
  split
  · rename_i constraint hOne
    have hMeets : constraint.meets r = ls.any a.equals := by
      simp only [Expression.meets, Expression.evaluate_oneOf hOne hr]
    rw [wants_and, hMeets]
  · rename_i hOne
    rw [wants_nothing, Expression.oneOf_eq_none_iff.mp hOne]
    simp

end Choice

/-! ### The sentinel -/

theorem empty_and (e : Expression) : (c.and e).empty = c.empty := by
  unfold Composer.and
  split
  · rfl
  · rfl

theorem empty_andOneOf (name : String) (ls : List Literal) :
    (c.andOneOf name ls).empty = (c.empty || ls.isEmpty) := by
  unfold Composer.andOneOf
  split
  · rename_i constraint hOne
    have hne : ls ≠ [] := by
      rintro rfl
      cases hOne
    rw [empty_and, List.isEmpty_eq_false_iff.mpr hne, Bool.or_false]
  · rename_i hOne
    rw [Expression.oneOf_eq_none_iff.mp hOne, List.isEmpty_nil, Bool.or_true]
    rfl

theorem finish_eq_emptyResult_iff : c.finish = .emptyResult ↔ c.empty = true := by
  unfold Composer.finish
  split
  · rename_i hEmpty
    exact ⟨fun _ => hEmpty, fun _ => rfl⟩
  · rename_i hEmpty
    refine ⟨?_, fun h => absurd h hEmpty⟩
    cases Expression.join .all c.parts <;> rintro ⟨⟩

theorem Settled.finish (h : c.Settled r) : c.finish.Settled r := by
  unfold Composer.finish
  split
  · rintro e ⟨⟩
  · exact (Composition.wants_join h).2

theorem wants_finish (h : c.Settled r) : c.finish.wants r = c.wants r := by
  unfold Composer.finish
  split
  · rename_i hEmpty
    simp [Composition.wants, wants, hEmpty]
  · rename_i hEmpty
    rw [(Composition.wants_join h).1]
    simp [wants, hEmpty]

end Composer

end Worklist.Filter
