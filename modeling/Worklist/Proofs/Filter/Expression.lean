import Worklist.Filter.Evaluate

/-!
# Expressions as trees

An induction principle whose case for groups speaks of all members at once, the parts of an
expression in the order in which they are written, and the expressions that have nothing wrong with
their shape: no group is empty, no literal or attribute stands on its own, and every question about
an attribute is one that may be asked.

What may be asked is left open. Readers and writers of filters ask for different conditions.
-/

namespace Worklist.Filter

namespace Expression

@[elab_as_elim, induction_eliminator]
theorem treeInduction {motive : Expression → Prop}
    (literal : ∀ l, motive (.literal l)) (field : ∀ name, motive (.field name))
    (equals : ∀ name l, motive (.equals name l)) (isNull : ∀ name, motive (.isNull name))
    (not : ∀ e, motive e → motive (.not e))
    (group : ∀ c members, (∀ e ∈ members, motive e) → motive (.group c members))
    (e : Expression) : motive e := by
  refine @Expression.rec motive (fun es => ∀ e ∈ es, motive e)
    literal field equals isNull not group ?_ ?_ e
  · intro e he
    cases he
  · intro first rest hFirst hRest e he
    rcases List.mem_cons.mp he with rfl | he
    · exact hFirst
    · exact hRest e he

mutual

/-- The parts of an expression: itself, then the parts of what it is made of, in order. -/
def parts : Expression → List Expression
  | .not e => .not e :: parts e
  | .group c members => .group c members :: partsOf members
  | e => [e]

/-- The parts of several expressions. -/
def partsOf : List Expression → List Expression
  | [] => []
  | e :: rest => parts e ++ partsOf rest

end

theorem fieldsOf_eq_flatMap (es : List Expression) : fieldsOf es = es.flatMap fields := by
  induction es with
  | nil => rfl
  | cons e rest ih => rw [fieldsOf, ih, List.flatMap_cons]

theorem joinFlat_eq_none_iff {c : Connective} {es : List Expression} :
    joinFlat c es = none ↔ es = [] := by
  match es with
  | [] => simp [joinFlat]
  | [x] => simp [joinFlat]
  | x :: y :: rest => simp [joinFlat]

theorem oneOf_eq_none_iff {name : String} {ls : List Literal} : oneOf name ls = none ↔ ls = [] := by
  rw [oneOf, joinFlat_eq_none_iff, List.map_eq_nil_iff]

/-- An expression of sound shape. `asks name (some l)` has to hold where the attribute is compared
with the literal, and `asks name none` where it is asked for having no value. -/
inductive Sound (asks : String → Option Literal → Prop) : Expression → Prop where
  | equals {name : String} {l : Literal} : asks name (some l) → Sound asks (.equals name l)
  | isNull {name : String} : asks name none → Sound asks (.isNull name)
  | not {e : Expression} : Sound asks e → Sound asks (.not e)
  | group {c : Connective} {members : List Expression} : members ≠ [] →
      (∀ e ∈ members, Sound asks e) → Sound asks (.group c members)

theorem mem_partsOf {x : Expression} {es : List Expression} :
    x ∈ partsOf es ↔ ∃ e ∈ es, x ∈ e.parts := by
  induction es with
  | nil => simp [partsOf]
  | cons e rest ih => simp [partsOf, ih]

theorem mem_parts_self (e : Expression) : e ∈ e.parts := by
  cases e <;> simp [parts]

theorem mem_parts_not {x e : Expression} :
    x ∈ (Expression.not e).parts ↔ x = .not e ∨ x ∈ e.parts := by
  rw [parts, List.mem_cons]

theorem mem_parts_group {x : Expression} {c : Connective} {es : List Expression} :
    x ∈ (Expression.group c es).parts ↔ x = .group c es ∨ ∃ m ∈ es, x ∈ m.parts := by
  rw [parts, List.mem_cons, mem_partsOf]

variable {asks : String → Option Literal → Prop} {e x : Expression}

theorem Sound.mono {asks' : String → Option Literal → Prop} (h : Sound asks e)
    (hAsks : ∀ name l, asks name l → asks' name l) : Sound asks' e := by
  induction h with
  | equals ha => exact .equals (hAsks _ _ ha)
  | isNull ha => exact .isNull (hAsks _ _ ha)
  | not _ ih => exact .not ih
  | group hne _ ih => exact .group hne ih

theorem Sound.of_mem_parts (h : Sound asks e) (hx : x ∈ e.parts) : Sound asks x := by
  induction h with
  | equals ha =>
    rw [List.mem_singleton.mp hx]
    exact .equals ha
  | isNull ha =>
    rw [List.mem_singleton.mp hx]
    exact .isNull ha
  | not h ih =>
    rcases List.mem_cons.mp hx with rfl | hx
    · exact .not h
    · exact ih hx
  | group hne h ih =>
    rcases List.mem_cons.mp hx with rfl | hx
    · exact .group hne h
    · obtain ⟨m, hm, hx⟩ := mem_partsOf.mp hx
      exact ih m hm hx

theorem Sound.asks_of_mem_fields (h : Sound asks e) {name : String} (hName : name ∈ e.fields) :
    ∃ l, asks name l := by
  induction h with
  | equals ha =>
    rw [List.mem_singleton.mp hName]
    exact ⟨_, ha⟩
  | isNull ha =>
    rw [List.mem_singleton.mp hName]
    exact ⟨_, ha⟩
  | not _ ih => exact ih hName
  | group _ _ ih =>
    rw [fields, fieldsOf_eq_flatMap] at hName
    obtain ⟨m, hm, hName⟩ := List.mem_flatMap.mp hName
    exact ih m hm hName

end Expression

end Worklist.Filter
