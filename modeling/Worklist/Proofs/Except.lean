import Mathlib

/-!
# Results of steps that may fail

What is known of the steps when the whole is known to have succeeded or failed.
-/

namespace Worklist

variable {ε α β : Type}

theorem ok_bind (a : α) (f : α → Except ε β) : (Except.ok a >>= f) = f a :=
  rfl

theorem bind_eq_ok_iff {x : Except ε α} {f : α → Except ε β} {b : β} :
    (x >>= f) = .ok b ↔ ∃ a, x = .ok a ∧ f a = .ok b := by
  cases x with
  | error e => simp [bind, Except.bind]
  | ok a => simp [bind, Except.bind]

theorem bind_eq_error_iff {x : Except ε α} {f : α → Except ε β} {e : ε} :
    (x >>= f) = .error e ↔ x = .error e ∨ ∃ a, x = .ok a ∧ f a = .error e := by
  cases x with
  | error e => simp [bind, Except.bind]
  | ok a => simp [bind, Except.bind]

theorem map_eq_ok_iff {x : Except ε α} {f : α → β} {b : β} :
    x.map f = .ok b ↔ ∃ a, x = .ok a ∧ f a = b := by
  cases x with
  | error e => simp [Except.map]
  | ok a => simp [Except.map]

theorem map_eq_error_iff {x : Except ε α} {f : α → β} {e : ε} :
    x.map f = .error e ↔ x = .error e := by
  cases x with
  | error e => simp [Except.map]
  | ok a => simp [Except.map]

theorem mapError_eq_ok_iff {δ : Type} {x : Except ε α} {f : ε → δ} {a : α} :
    x.mapError f = .ok a ↔ x = .ok a := by
  cases x with
  | error e => simp [Except.mapError]
  | ok a => simp [Except.mapError]

theorem mapError_eq_error_iff {δ : Type} {x : Except ε α} {f : ε → δ} {d : δ} :
    x.mapError f = .error d ↔ ∃ e, x = .error e ∧ f e = d := by
  cases x with
  | error e => simp [Except.mapError]
  | ok a => simp [Except.mapError]

theorem map_mapError {δ : Type} (x : Except ε α) (f : α → β) (g : ε → δ) :
    (x.mapError g).map f = (x.map f).mapError g := by
  cases x with
  | error e => rfl
  | ok a => rfl

/-- Steps are made in order, and the first that fails is the reason why all of them fail. -/
theorem mapM_eq_error_iff {f : α → Except ε β} {xs : List α} {e : ε} :
    xs.mapM f = .error e ↔ ∃ before x after, xs = before ++ x :: after ∧
      (∀ y ∈ before, ∃ b, f y = .ok b) ∧ f x = .error e := by
  induction xs with
  | nil =>
    constructor
    · rintro ⟨⟩
    · rintro ⟨before, x, after, hEq, -⟩
      cases before <;> cases hEq
  | cons first rest ih =>
    rw [List.mapM_cons]
    cases hFirst : f first with
    | error e' =>
      constructor
      · rintro ⟨⟩
        exact ⟨[], first, rest, rfl, List.forall_mem_nil _, hFirst⟩
      · rintro ⟨before, x, after, hEq, hBefore, hx⟩
        cases before with
        | nil =>
          cases hEq
          cases hFirst.symm.trans hx
          rfl
        | cons y before =>
          cases hEq
          obtain ⟨b, hb⟩ := hBefore _ List.mem_cons_self
          cases hFirst.symm.trans hb
    | ok b =>
      have hRest : (do let bs ← rest.mapM f; return b :: bs) = .error e ↔
          rest.mapM f = .error e := by
        cases rest.mapM f <;> simp [bind, Except.bind, pure, Except.pure]
      rw [ok_bind, hRest, ih]
      constructor
      · rintro ⟨before, x, after, rfl, hBefore, hx⟩
        exact ⟨first :: before, x, after, rfl,
          List.forall_mem_cons.mpr ⟨⟨b, hFirst⟩, hBefore⟩, hx⟩
      · rintro ⟨before, x, after, hEq, hBefore, hx⟩
        cases before with
        | nil =>
          cases hEq
          cases hFirst.symm.trans hx
        | cons y before =>
          cases hEq
          exact ⟨before, x, after, rfl, (List.forall_mem_cons.mp hBefore).2, hx⟩

end Worklist
