import Worklist.Filter.Field
import Worklist.Proofs.Text.Numeral
import Worklist.Proofs.Uuid

/-!
# Literals of a field

A field admits the literals of its kind, and sets of texts only if it has several values. These are
the literals that values given for the field can stand for, and each of them is written as a value
that stands for it.
-/

namespace Worklist.Filter.FieldDef

/-- A literal that attributes of the field can be compared with. -/
def Admits (d : FieldDef) : Literal → Prop
  | .text _ => d.kind = .text
  | .uuid _ => d.kind = .uuid
  | .number _ => d.kind = .number
  | .bool _ => d.kind = .bool
  | .texts _ => d.kind = .text ∧ d.multi = true

variable {d : FieldDef} {l : Literal} {key : String} {v : Json}

theorem literal_eq_ok_iff : d.literal key v = .ok l ↔ d.literal? v = some l := by
  unfold literal
  cases d.literal? v <;> simp

theorem admits_of_literal? (h : d.literal? v = some l) : d.Admits l := by
  unfold literal? at h
  split at h
  case h_1 hKind =>
    cases h
    exact hKind
  case h_2 hKind =>
    split at h
    case isTrue hMulti =>
      obtain ⟨items, -, rfl⟩ := Option.map_eq_some_iff.mp h
      exact ⟨hKind, hMulti⟩
    case isFalse => cases h
  case h_3 hKind =>
    obtain ⟨u, -, rfl⟩ := Option.map_eq_some_iff.mp h
    exact hKind
  case h_4 hKind =>
    obtain ⟨n, -, rfl⟩ := Option.map_eq_some_iff.mp h
    exact hKind
  case h_5 hKind =>
    obtain ⟨n, -, rfl⟩ := Option.map_eq_some_iff.mp h
    exact hKind
  case h_6 hKind =>
    cases h
    exact hKind
  case h_7 hKind =>
    split at h
    · cases h
      exact hKind
    · split at h
      · cases h
        exact hKind
      · cases h
  case h_8 => cases h

theorem mapM_text?_strings (items : List String) :
    (items.map Json.string).mapM text? = some items := by
  induction items with
  | nil => rfl
  | cons s rest ih =>
    rw [List.map_cons, List.mapM_cons, ih]
    rfl

theorem literal?_toJson (h : d.Admits l) : d.literal? l.toJson = some l := by
  cases l with
  | text s =>
    have hKind : d.kind = .text := h
    simp [literal?, Literal.toJson, hKind]
  | uuid u =>
    have hKind : d.kind = .uuid := h
    simp [literal?, Literal.toJson, hKind, Uuid.parse?_text]
  | number n =>
    have hKind : d.kind = .number := h
    simp [literal?, Literal.toJson, Json.int, hKind, Text.toInt64?_toInt]
  | bool b =>
    have hKind : d.kind = .bool := h
    simp [literal?, Literal.toJson, hKind]
  | texts items =>
    obtain ⟨hKind, hMulti⟩ := h
    simp only [literal?, Literal.toJson, Json.strings, hKind, if_pos hMulti, mapM_text?_strings,
      Option.map_some]

end Worklist.Filter.FieldDef
