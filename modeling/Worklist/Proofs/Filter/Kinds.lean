import Worklist.Proofs.Filter.Evaluation
import Worklist.Proofs.Filter.Reading

/-!
# Kinds

A field states the kind of its attribute. The literals that a filter compares the attribute with are
of this kind, and so are the values of a record that keeps to the field; hence no comparison fails
because value and literal do not go together.
-/

namespace Worklist.Filter

variable {t : FieldTable} {d : FieldDef} {a : Attribute} {l : Literal} {e : Expression}

/-! ### Expressions that keep to a table -/

/-- The expression has nothing wrong with its shape. It asks only about attributes of the table, and
compares them only with literals that their field admits. -/
structure Expression.WellFormed (t : FieldTable) (e : Expression) : Prop where
  group_ne_nil : ∀ c, .group c [] ∉ e.parts
  not_literal : ∀ l, .literal l ∉ e.parts
  not_field : ∀ name, .field name ∉ e.parts
  describes : ∀ name ∈ e.fields, ∃ d ∈ t, d.target = name
  admits : ∀ name l, .equals name l ∈ e.parts → ∃ d ∈ t, d.target = name ∧ d.Admits l

theorem Expression.Sound.wellFormed (h : e.Sound t.Describes) : e.WellFormed t where
  group_ne_nil c hPart := by
    cases h.of_mem_parts hPart with
    | group hne => exact hne rfl
  not_literal l hPart := nomatch h.of_mem_parts hPart
  not_field name hPart := nomatch h.of_mem_parts hPart
  describes name hName := by
    obtain ⟨l, d, hd, hTarget, -⟩ := h.asks_of_mem_fields hName
    exact ⟨d, hd, hTarget⟩
  admits name l hPart := by
    cases h.of_mem_parts hPart with
    | equals hAsks =>
      obtain ⟨d, hd, hTarget, hAdmits⟩ := hAsks
      exact ⟨d, hd, hTarget, hAdmits l rfl⟩

theorem Expression.Sound.settled_of_known {r : Record} (h : e.Sound t.Describes)
    (hKnown : ∀ d ∈ t, (r d.target).isSome) : e.Settled r := by
  refine h.settled ?_
  rintro name l ⟨d, hd, rfl, -⟩
  exact hKnown d hd

/-! ### Values and literals -/

/-- The pairs of a value and a literal of which some are equal. -/
def Attribute.Comparable : Attribute → Literal → Prop
  | .text _, .text _ | .text _, .uuid _ | .uuid _, .uuid _ | .uuid _, .text _
  | .number _, .number _ | .bool _, .bool _ | .texts _, .text _ | .texts _, .texts _
  | .uuids _, .uuid _ | .uuids _, .text _ => True
  | _, _ => False

/-- A value that the attribute of the field may have: none, or one of the field's kind. -/
def FieldDef.Holds (d : FieldDef) : Attribute → Prop
  | .null => True
  | .text _ => d.kind = .text ∧ d.multi = false
  | .uuid _ => d.kind = .uuid ∧ d.multi = false
  | .number _ => d.kind = .number ∧ d.multi = false
  | .bool _ => d.kind = .bool ∧ d.multi = false
  | .texts _ => d.kind = .text ∧ d.multi = true
  | .uuids _ => d.kind = .uuid ∧ d.multi = true

/-- The kind of the field leaves only pairs in which value and literal have it, and a set of texts
stands only beside several texts. -/
theorem FieldDef.comparable_of_admits (ha : d.Holds a) (hl : d.Admits l) :
    a = .null ∨ a.Comparable l := by
  cases a with
  | null => exact .inl rfl
  | _ =>
    right
    cases l <;> simp_all [Holds, Admits, Attribute.Comparable]

end Worklist.Filter
