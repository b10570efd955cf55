import Worklist.Proofs.Except
import Worklist.Proofs.Filter.Composition

/-!
# Runs of a composer

A composition is made step by step. Whatever the order of the steps, the outcome is the sentinel
exactly if some step cannot be met; otherwise it is the user's filter conjoined with the constraints
of the steps. So it leaves the records that meet the filter and every step.
-/

namespace Worklist.Filter

namespace Composer

/-- A step of a composition. -/
inductive Step where
  /-- Adds a constraint. -/
  | and (constraint : Expression)
  /-- Adds the constraint that an attribute has one of several values. -/
  | andOneOf (name : String) (values : List Literal)
  /-- Notes that nothing can satisfy the constraints. -/
  | nothing

namespace Step

/-- Takes a step. -/
def apply (c : Composer) : Step → Composer
  | .and constraint => c.and constraint
  | .andOneOf name values => c.andOneOf name values
  | .nothing => c.nothing

/-- The step cannot be met by any record. -/
def Impossible : Step → Prop
  | .and _ => False
  | .andOneOf _ values => values = []
  | .nothing => True

instance : DecidablePred Impossible
  | .and _ => inferInstanceAs (Decidable False)
  | .andOneOf _ values => inferInstanceAs (Decidable (values = []))
  | .nothing => inferInstanceAs (Decidable True)

/-- The constraint that a step adds, if it can be met. -/
def constraint? : Step → Option Expression
  | .and constraint => some constraint
  | .andOneOf name values => Expression.oneOf name values
  | .nothing => none

/-- The record meets the step. -/
def Holds (r : Record) : Step → Prop
  | .and constraint => constraint.evaluate r = .ok true
  | .andOneOf name values => ∃ a, r name = some a ∧ ∃ l ∈ values, a.equals l = true
  | .nothing => False

variable {r : Record} {c : Composer} {s : Step} {e : Expression}

theorem Impossible.not_holds (h : s.Impossible) : ¬s.Holds r := by
  cases s with
  | and constraint => exact absurd h id
  | andOneOf name values =>
    have hNil : values = [] := h
    rintro ⟨a, -, l, hl, -⟩
    rw [hNil] at hl
    cases hl
  | nothing => exact id

theorem constraint?_eq_none_iff : s.constraint? = none ↔ s.Impossible := by
  cases s with
  | and constraint => simp [constraint?, Impossible]
  | andOneOf name values => exact Expression.oneOf_eq_none_iff
  | nothing => simp [constraint?, Impossible]

/-- A record on which a choice can be evaluated knows the attribute that is chosen from. -/
theorem known_of_settled_oneOf {name : String} {ls : List Literal}
    (h : Expression.oneOf name ls = some e) (hSettled : e.Settled r) : ∃ a, r name = some a := by
  obtain ⟨b, hb⟩ := hSettled
  rw [Expression.evaluate_joinFlat h] at hb
  cases ls with
  | nil => cases h
  | cons l rest =>
    rw [List.map_cons, Expression.evaluateMembers] at hb
    obtain ⟨first, hFirst, -⟩ := bind_eq_ok_iff.mp hb
    rw [Expression.evaluate] at hFirst
    obtain ⟨a, ha, -⟩ := map_eq_ok_iff.mp hFirst
    exact ⟨a, lookup_eq_ok_iff.mp ha⟩

theorem meets_constraint_iff (h : s.constraint? = some e) (hSettled : e.Settled r) :
    e.meets r = true ↔ s.Holds r := by
  cases s with
  | and constraint =>
    cases h
    exact Expression.meets_iff
  | andOneOf name values =>
    have hOne : Expression.oneOf name values = some e := h
    obtain ⟨a, ha⟩ := known_of_settled_oneOf hOne hSettled
    rw [Expression.meets_iff, Expression.evaluate_oneOf hOne ha]
    simp [Holds, ha, List.any_eq_true]
  | nothing => cases h

/-! ### One step -/

theorem empty_apply_iff : (s.apply c).empty = true ↔ c.empty = true ∨ s.Impossible := by
  cases s with
  | and constraint => simp [apply, Impossible, empty_and]
  | andOneOf name values => simp [apply, Impossible, empty_andOneOf]
  | nothing => simp [apply, Impossible, Composer.nothing]

theorem parts_apply (hc : c.empty = false) (hs : ¬s.Impossible) :
    (s.apply c).parts = c.parts ++ s.constraint?.toList := by
  cases s with
  | and constraint => simp [apply, Composer.and, hc, constraint?]
  | andOneOf name values =>
    cases hOne : Expression.oneOf name values with
    | none => exact absurd (Expression.oneOf_eq_none_iff.mp hOne) hs
    | some e => simp [apply, Composer.andOneOf, Composer.and, hc, constraint?, hOne]
  | nothing => exact absurd trivial hs

end Step

/-- Takes steps from the user's filter on. -/
def run (base : Option Expression) (steps : List Step) : Composer :=
  steps.foldl Step.apply (ofBase base)

variable {c : Composer} {steps : List Step}

theorem empty_foldl_apply_iff :
    (steps.foldl Step.apply c).empty = true ↔ c.empty = true ∨ ∃ s ∈ steps, s.Impossible := by
  induction steps generalizing c with
  | nil => simp
  | cons s rest ih =>
    rw [List.foldl_cons, ih, Step.empty_apply_iff]
    simp only [List.mem_cons, exists_eq_or_imp, or_assoc]

theorem parts_foldl_apply (hc : c.empty = false) (h : ∀ s ∈ steps, ¬s.Impossible) :
    (steps.foldl Step.apply c).parts = c.parts ++ steps.filterMap Step.constraint? := by
  induction steps generalizing c with
  | nil => simp
  | cons s rest ih =>
    have hs := h s List.mem_cons_self
    have hEmpty : (s.apply c).empty = false := by
      rw [Bool.eq_false_iff, Ne, Step.empty_apply_iff, hc]
      simpa using hs
    rw [List.foldl_cons, ih hEmpty fun x hx => h x (List.mem_cons_of_mem s hx),
      Step.parts_apply hc hs, List.filterMap_cons]
    cases s.constraint? <;> simp

theorem finish_run_eq_emptyResult_iff {base : Option Expression} :
    (run base steps).finish = .emptyResult ↔ ∃ s ∈ steps, s.Impossible := by
  rw [finish_eq_emptyResult_iff, run, empty_foldl_apply_iff]
  simp [ofBase]

/-- Without an impossible step the outcome is that of conjoining everything at once. -/
theorem finish_run {base : Option Expression} (h : ∀ s ∈ steps, ¬s.Impossible) :
    (run base steps).finish =
      .ofExpression? (conjoin base (steps.filterMap Step.constraint?)) := by
  have hEmpty : ¬(run base steps).empty = true := by
    rw [run, empty_foldl_apply_iff]
    simpa [ofBase] using h
  rw [finish, if_neg hEmpty, run, parts_foldl_apply rfl h]
  rfl

/-- On a record that every constraint can be evaluated on, the outcome is the conjunction. -/
theorem wants_finish_run {r : Record} {base : Option Expression}
    (hBase : ∀ e ∈ base, e.Settled r)
    (hSteps : ∀ s ∈ steps, ∀ e ∈ s.constraint?, e.Settled r) :
    ((run base steps).finish.wants r = true ↔
      (∀ e ∈ base, e.evaluate r = .ok true) ∧ ∀ s ∈ steps, s.Holds r) ∧
    (run base steps).finish.Settled r := by
  by_cases hImpossible : ∃ s ∈ steps, s.Impossible
  · rw [finish_run_eq_emptyResult_iff.mpr hImpossible]
    obtain ⟨s, hs, hNot⟩ := hImpossible
    refine ⟨⟨fun h => (nomatch h), fun h => absurd (h.2 s hs) hNot.not_holds⟩, ?_⟩
    rintro e ⟨⟩
  · have hPossible : ∀ s ∈ steps, ¬s.Impossible := fun s hs hNot => hImpossible ⟨s, hs, hNot⟩
    have hSettled : ∀ e ∈ base.toList ++ steps.filterMap Step.constraint?, e.Settled r := by
      intro e he
      rcases List.mem_append.mp he with he | he
      · exact hBase e (Option.mem_toList.mp he)
      · obtain ⟨s, hs, hConstraint⟩ := List.mem_filterMap.mp he
        exact hSteps s hs e hConstraint
    obtain ⟨hWants, hOutcome⟩ := Composition.wants_join hSettled
    rw [finish_run hPossible, conjoin]
    refine ⟨?_, hOutcome⟩
    rw [hWants, List.all_append, Bool.and_eq_true, List.all_eq_true, List.all_eq_true]
    refine and_congr ?_ ?_
    · simp only [Option.mem_toList, Expression.meets_iff]
      rfl
    · constructor
      · intro h s hs
        cases hConstraint : s.constraint? with
        | none => exact absurd (Step.constraint?_eq_none_iff.mp hConstraint) (hPossible s hs)
        | some e =>
          have hMem := List.mem_filterMap.mpr ⟨s, hs, hConstraint⟩
          exact (Step.meets_constraint_iff hConstraint (hSteps s hs e hConstraint)).mp (h e hMem)
      · intro h e he
        obtain ⟨s, hs, hConstraint⟩ := List.mem_filterMap.mp he
        exact (Step.meets_constraint_iff hConstraint (hSteps s hs e hConstraint)).mpr (h s hs)

/-- The outcome of composing is the sentinel exactly if some step is impossible, and then whatever
follows. Otherwise it is the filter conjoined with the constraints of the steps in order. A record
on which all of these can be evaluated is left exactly if it meets the filter and every step. -/
theorem composing_means_conjunction (base : Option Expression) (steps : List Step) :
    ((run base steps).finish = .emptyResult ↔ ∃ s ∈ steps, s.Impossible) ∧
    (∀ more, (run base steps).finish = .emptyResult →
      (run base (steps ++ more)).finish = .emptyResult) ∧
    ((∀ s ∈ steps, ¬s.Impossible) → (run base steps).finish =
      .ofExpression? (conjoin base (steps.filterMap Step.constraint?))) ∧
    ∀ r : Record, (∀ e ∈ base, e.Settled r) →
      (∀ s ∈ steps, ∀ e ∈ s.constraint?, e.Settled r) →
      ((run base steps).finish.wants r = true ↔
        (∀ e ∈ base, e.evaluate r = .ok true) ∧ ∀ s ∈ steps, s.Holds r) ∧
      (run base steps).finish.Settled r := by
  refine ⟨finish_run_eq_emptyResult_iff, ?_, finish_run, fun r => wants_finish_run⟩
  intro more h
  obtain ⟨s, hs, hNot⟩ := finish_run_eq_emptyResult_iff.mp h
  exact finish_run_eq_emptyResult_iff.mpr ⟨s, List.mem_append_left more hs, hNot⟩

/-- Open bugs and tasks, whose state is asked for once more. -/
def openBugsAndTasks : List Step :=
  [.andOneOf "type" [.text "bug", .text "task"],
    .and (.group .all [.equals "state" (.text "open"), .not (.isNull "state")])]

/-- An open bug. -/
def openBug : Record := fun name =>
  if name = "state" then some (.text "open") else if name = "type" then some (.text "bug") else none

theorem openBug_is_left :
    (run (some (.not (.isNull "type"))) openBugsAndTasks).finish =
      .filter (.group .all [.not (.isNull "type"),
        .group .any [.equals "type" (.text "bug"), .equals "type" (.text "task")],
        .equals "state" (.text "open"), .not (.isNull "state")]) ∧
    (run (some (.not (.isNull "type"))) openBugsAndTasks).finish.wants openBug = true := by
  obtain ⟨-, -, hFinish, hWants⟩ :=
    composing_means_conjunction (some (.not (.isNull "type"))) openBugsAndTasks
  have hTyped : (Expression.not (.isNull "type")).evaluate openBug = .ok true := by
    cbv
  have hSettled : ∀ s ∈ openBugsAndTasks, ∀ e ∈ s.constraint?, e.Settled openBug := by
    refine List.forall_mem_cons.mpr ⟨?_, List.forall_mem_singleton.mpr ?_⟩
    · rintro e ⟨⟩
      exact ⟨true, by cbv⟩
    · rintro e ⟨⟩
      exact ⟨true, by cbv⟩
  have hHolds : ∀ s ∈ openBugsAndTasks, s.Holds openBug := by
    refine List.forall_mem_cons.mpr ⟨?_, List.forall_mem_singleton.mpr ?_⟩
    · exact ⟨.text "bug", rfl, .text "bug", List.mem_cons_self, by decide⟩
    · change Expression.evaluate openBug _ = .ok true
      cbv
  refine ⟨hFinish (by decide), (hWants openBug ?_ hSettled).1.mpr ⟨?_, hHolds⟩⟩
  · rintro e ⟨⟩
    exact ⟨true, hTyped⟩
  · rintro e ⟨⟩
    exact hTyped

end Composer

end Worklist.Filter
