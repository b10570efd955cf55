import Worklist.Proofs.Filter.Expression
import Worklist.Proofs.Lists

/-!
# Truth values

An expression is settled by a record if evaluating it gives a truth value. On settled members a
group means what its connective says, whatever the order of the members. A sound expression is
settled by every record that knows the attributes it asks about.
-/

namespace Worklist.Filter

/-- The truth value of a group whose members have the given ones. -/
def Connective.truth : Connective → List Bool → Bool
  | .all, bs => bs.all id
  | .any, bs => bs.any id

theorem lookup_eq_ok_iff {r : Record} {name : String} {a : Attribute} :
    lookup r name = .ok a ↔ r name = some a := by
  unfold lookup
  cases r name <;> simp

theorem lookup_eq_error_iff {r : Record} {name : String} {err : FilterError} :
    lookup r name = .error err ↔ r name = none ∧ err = .unknownAttribute name := by
  unfold lookup
  cases r name <;> simp [eq_comm]

namespace Expression

/-- The record gives the expression a truth value. -/
def Settled (r : Record) (e : Expression) : Prop :=
  ∃ b, e.evaluate r = .ok b

/-- Whether a record meets an expression. It does not if the expression cannot be evaluated. -/
def meets (r : Record) (e : Expression) : Bool :=
  match e.evaluate r with
  | .ok b => b
  | .error _ => false

variable {r : Record} {c : Connective} {e : Expression} {es : List Expression}

theorem meets_iff : e.meets r = true ↔ e.evaluate r = .ok true := by
  unfold meets
  cases e.evaluate r <;> simp

theorem Settled.evaluate_eq (h : e.Settled r) : e.evaluate r = .ok (e.meets r) := by
  obtain ⟨b, hb⟩ := h
  simp only [meets, hb]

theorem Settled.not (h : e.Settled r) : (Expression.not e).Settled r :=
  ⟨!e.meets r, by rw [evaluate, h.evaluate_eq]; rfl⟩

theorem meets_not (h : e.Settled r) : (Expression.not e).meets r = !e.meets r := by
  have hNot : (Expression.not e).evaluate r = .ok (!e.meets r) := by
    rw [evaluate, h.evaluate_eq]
    rfl
  simp only [meets, hNot]

/-! ### Groups -/

theorem evaluate_group (h : es ≠ []) :
    (Expression.group c es).evaluate r = evaluateMembers r c es := by
  cases es with
  | nil => exact absurd rfl h
  | cons e rest => rw [evaluate]; simp

theorem not_settled_group_nil : ¬(Expression.group c []).Settled r := by
  rintro ⟨b, hb⟩
  rw [evaluate] at hb
  cases hb

/-- The members behind `xs` are looked at only if those settle nothing. -/
theorem evaluateMembers_append (xs ys : List Expression) :
    evaluateMembers r c (xs ++ ys) = (do
      let b ← evaluateMembers r c xs
      if b = c.decisive then return b else evaluateMembers r c ys) := by
  induction xs with
  | nil => cases c <;> rfl
  | cons e rest ih =>
    simp only [List.cons_append, evaluateMembers, bind_assoc, ih]
    congr
    funext b
    by_cases hb : b = c.decisive
    · simp [hb]
    · simp [hb]

/-- Members that evaluate alike one by one, be it on different records, do so together. -/
theorem evaluateMembers_congr {r' : Record} {es' : List Expression}
    (h : List.Forall₂ (fun e e' => evaluate r' e' = evaluate r e) es es') :
    evaluateMembers r' c es' = evaluateMembers r c es := by
  induction h with
  | nil => rfl
  | cons hHead _ ih => rw [evaluateMembers, evaluateMembers, hHead, ih]

theorem evaluateMembers_singleton : evaluateMembers r c [e] = e.evaluate r := by
  simp only [evaluateMembers]
  cases h : e.evaluate r with
  | error err => rfl
  | ok b => cases c <;> cases b <;> rfl

theorem evaluateMembers_of_settled (h : ∀ e ∈ es, e.Settled r) :
    evaluateMembers r c es = .ok (c.truth (es.map (·.meets r))) := by
  induction es with
  | nil => cases c <;> rfl
  | cons e rest ih =>
    have he := (h e List.mem_cons_self).evaluate_eq
    have hRest := ih fun x hx => h x (List.mem_cons_of_mem e hx)
    rw [evaluateMembers, he, hRest]
    cases c <;> cases hb : e.meets r <;>
      simp [Connective.decisive, Connective.truth, hb, bind, Except.bind, pure, Except.pure]

theorem Settled.group (hne : es ≠ []) (h : ∀ e ∈ es, e.Settled r) :
    (Expression.group c es).Settled r :=
  ⟨_, (evaluate_group hne).trans (evaluateMembers_of_settled h)⟩

theorem meets_group (hne : es ≠ []) (h : ∀ e ∈ es, e.Settled r) :
    (Expression.group c es).meets r = c.truth (es.map (·.meets r)) := by
  simp only [meets, evaluate_group hne, evaluateMembers_of_settled h]

theorem truth_all_meets :
    Connective.truth .all (es.map (·.meets r)) = es.all (·.meets r) := by
  simp [Connective.truth, List.all_map]

theorem truth_any_meets :
    Connective.truth .any (es.map (·.meets r)) = es.any (·.meets r) := by
  simp [Connective.truth, List.any_map]

/-! ### Comparisons -/

theorem evaluate_equals {name : String} {a : Attribute} (h : r name = some a) (l : Literal) :
    (Expression.equals name l).evaluate r = .ok (a.equals l) := by
  rw [evaluate, lookup_eq_ok_iff.mpr h]
  rfl

theorem evaluate_isNull {name : String} {a : Attribute} (h : r name = some a) :
    (Expression.isNull name).evaluate r = .ok a.isNull := by
  rw [evaluate, lookup_eq_ok_iff.mpr h]
  rfl

theorem Settled.equals {name : String} {a : Attribute} (h : r name = some a) (l : Literal) :
    (Expression.equals name l).Settled r :=
  ⟨_, evaluate_equals h l⟩

theorem meets_equals {name : String} {a : Attribute} (h : r name = some a) (l : Literal) :
    (Expression.equals name l).meets r = a.equals l := by
  simp only [meets, evaluate_equals h]

/-- Soundness leaves only one way to fail: an attribute that the record does not know. -/
theorem Sound.settled {asks : String → Option Literal → Prop} (h : Sound asks e)
    (hKnown : ∀ name l, asks name l → (r name).isSome) : e.Settled r := by
  induction h with
  | equals ha =>
    obtain ⟨a, hr⟩ := Option.isSome_iff_exists.mp (hKnown _ _ ha)
    exact ⟨_, evaluate_equals hr _⟩
  | isNull ha =>
    obtain ⟨a, hr⟩ := Option.isSome_iff_exists.mp (hKnown _ _ ha)
    exact ⟨_, evaluate_isNull hr⟩
  | not _ ih => exact ih.not
  | group hne _ ih => exact .group hne ih

/-! ### Selecting -/

theorem select_of_settled {α : Type} (record : α → Record) {xs : List α}
    (h : ∀ x ∈ xs, e.Settled (record x)) :
    e.select record xs = .ok (xs.filter fun x => e.meets (record x)) := by
  induction xs with
  | nil => rfl
  | cons x rest ih =>
    have hx := (h x List.mem_cons_self).evaluate_eq
    have hRest := ih fun y hy => h y (List.mem_cons_of_mem x hy)
    rw [select, hx, hRest]
    cases hb : e.meets (record x) <;> simp [hb, bind, Except.bind, pure, Except.pure]

end Expression

end Worklist.Filter
