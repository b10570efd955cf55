import Worklist.Proofs.Filter.Kinds
import Worklist.Tracker.Fields

/-!
# Work items as records

The table of fields, the attributes of work items and the comparisons of the evaluator agree: a work
item has every attribute that the table describes, with a value that the field holds.
-/

namespace Worklist.Tracker

open Worklist.Filter (Attribute Expression FieldDef FieldTable Literal Record)

theorem holds_orNull {α : Type} {field : FieldDef} {wrap : α → Attribute}
    (h : ∀ x, field.Holds (wrap x)) (value : Option α) : field.Holds (orNull wrap value) := by
  cases value with
  | none => exact trivial
  | some x => exact h x

/-- A work item keeps to the table: it has the attribute of every field, with a value that the field
may have. -/
theorem holds_record (w : WorkItem) {field : FieldDef} (h : field ∈ workItemFields) :
    ∃ a, w.record field.target = some a ∧ field.Holds a := by
  have hAll : ∀ field ∈ workItemFields, ∃ a, w.record field.target = some a ∧ field.Holds a := by
    simp only [workItemFields, List.forall_mem_cons]
    refine ⟨⟨_, rfl, rfl, rfl⟩, ⟨_, rfl, rfl, rfl⟩, ⟨_, rfl, rfl, rfl⟩, ⟨_, rfl, rfl, rfl⟩,
      ⟨_, rfl, rfl, rfl⟩, ⟨_, rfl, ?iteration⟩, ⟨_, rfl, ?area⟩, ⟨_, rfl, rfl, rfl⟩,
      ⟨_, rfl, rfl, rfl⟩, ⟨_, rfl, ?creator⟩, ⟨_, rfl, rfl, rfl⟩, ⟨_, rfl, rfl, rfl⟩, ?none⟩
    case none => exact fun _ hNone => nomatch hNone
    -- The attributes that may be missing are left.
    all_goals
      apply holds_orNull
      exact fun _ => ⟨rfl, rfl⟩
  exact hAll field h

theorem isSome_record (w : WorkItem) {field : FieldDef} (h : field ∈ workItemFields) :
    (w.record field.target).isSome := by
  obtain ⟨a, ha, -⟩ := holds_record w h
  rw [ha, Option.isSome_some]

/-- The work item has a value for the attribute that a filter compares with the literal: none at
all, or one that goes with the literal. -/
theorem comparable_record {e : Expression} {name : String} {l : Literal}
    (h : e.WellFormed workItemFields) (hPart : .equals name l ∈ e.parts) (w : WorkItem) :
    ∃ d ∈ workItemFields, d.target = name ∧ d.Admits l ∧
      ∃ a, w.record name = some a ∧ d.Holds a ∧ (a = .null ∨ a.Comparable l) := by
  obtain ⟨d, hd, rfl, hAdmits⟩ := h.admits name l hPart
  obtain ⟨a, ha, hHolds⟩ := holds_record w hd
  exact ⟨d, hd, rfl, hAdmits, a, ha, hHolds, FieldDef.comparable_of_admits hHolds hAdmits⟩

/-- The expression of an accepted filter keeps to the table, so it has a truth value on every record
that knows the attributes of the table. Work items know theirs, and no comparison of an accepted
filter is one of a work item's value with a literal of another kind. -/
theorem accepted_filters_are_well_typed :
    (∀ (t : FieldTable) (v : Json) (e : Expression), Filter.ofJson t v = .ok e →
      e.WellFormed t ∧
        ∀ r : Record, (∀ d ∈ t, (r d.target).isSome) → ∃ b, e.evaluate r = .ok b) ∧
    ∀ (v : Json) (e : Expression) (w : WorkItem), Filter.ofJson workItemFields v = .ok e →
      (∃ b, e.evaluate w.record = .ok b) ∧
        ∀ name l, .equals name l ∈ e.parts →
          ∃ d ∈ workItemFields, d.target = name ∧ d.Admits l ∧
            ∃ a, w.record name = some a ∧ d.Holds a ∧ (a = .null ∨ a.Comparable l) := by
  constructor
  · intro t v e h
    have hSound := Filter.sound_of_ofJson h
    exact ⟨hSound.wellFormed, fun r hKnown => hSound.settled_of_known hKnown⟩
  · intro v e w h
    have hSound := Filter.sound_of_ofJson h
    have hSettled := hSound.settled_of_known fun d hd => isSome_record w hd
    exact ⟨hSettled, fun name l hPart => comparable_record hSound.wellFormed hPart w⟩

/-- An item with a label that is planned nowhere. -/
def unplanned : WorkItem where
  id := .repeated 0
  space := .repeated 1
  number := 7
  typeName := "task"
  title := "unplanned"
  state := "new"
  iteration := none
  area := none
  assignees := []
  creator := none
  labels := ["ui"]
  parent := none
  createdAt := none
  updatedAt := none

/-- A filter for items without a label, which it compares with a text and with a set. -/
def unlabelled : Json :=
  .object [("label", .object [("$IN", .array [.string "ui", .strings ["ui", "api"]])]),
    ("negate", .bool true)]

/-- What `unlabelled` asks for. -/
def neitherLabel : Expression :=
  .not (.group .any [.equals labelsAttribute (.text "ui"),
    .equals labelsAttribute (.texts ["ui", "api"])])

theorem unlabelled_is_well_typed :
    Filter.ofJson workItemFields unlabelled = .ok neitherLabel ∧
      neitherLabel.WellFormed workItemFields ∧
      (∃ b, neitherLabel.evaluate unplanned.record = .ok b) ∧
      ∃ d ∈ workItemFields, d.target = labelsAttribute ∧ d.Admits (.texts ["ui", "api"]) ∧
        ∃ a, unplanned.record labelsAttribute = some a ∧ d.Holds a ∧
          (a = .null ∨ a.Comparable (.texts ["ui", "api"])) := by
  have hRead : Filter.ofJson workItemFields unlabelled = .ok neitherLabel := by
    cbv
  obtain ⟨hTyped, -⟩ := accepted_filters_are_well_typed.1 _ _ _ hRead
  obtain ⟨hSettled, hCompared⟩ := accepted_filters_are_well_typed.2 _ _ unplanned hRead
  refine ⟨hRead, hTyped, hSettled, hCompared _ _ ?_⟩
  simp [neitherLabel, Expression.parts, Expression.partsOf]

end Worklist.Tracker
