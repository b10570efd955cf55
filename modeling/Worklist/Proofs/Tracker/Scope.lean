import Worklist.CommandLine.Run
import Worklist.Proofs.Filter.Composition
import Worklist.Proofs.Tracker.Record

/-!
# What listings show

Every attribute that the table of fields describes is one that every work item has. So a filter that
was read has a truth value on every work item, and the constraints of a listing leave exactly the
items that meet the filter and that the listing shows.
-/

namespace Worklist.Tracker

open Worklist.Filter (Composer Composition Expression Literal meetsFilter)

variable {d : Dataset} {w : WorkItem} {f : Option Expression}

/-! ### Filters of users -/

theorem settled_of_parse {s : String} (w : WorkItem)
    (h : Filter.parse workItemFields s = .ok f) (e : Expression) (he : f = some e) :
    e.Settled w.record := by
  subst he
  exact (Filter.sound_of_parse h).settled_of_known fun d hd => isSome_record w hd

theorem record_space (w : WorkItem) : w.record spaceAttribute = some (.uuid w.space) :=
  rfl

theorem record_state (w : WorkItem) : w.record stateAttribute = some (.text w.state) :=
  rfl

theorem record_iteration (w : WorkItem) :
    w.record iterationAttribute = some (orNull .text w.iteration) :=
  rfl

theorem record_type (w : WorkItem) : w.record typeAttribute = some (.text w.typeName) :=
  rfl

/-! ### Constraints -/

theorem settled_inSpace (space : Uuid) : (inSpace space).Settled w.record :=
  .equals (record_space w) _

theorem meets_inSpace (space : Uuid) :
    (inSpace space).meets w.record = decide (w.space = space) := by
  rw [inSpace, Expression.meets_equals (record_space w)]
  rfl

theorem settled_notClosed : notClosed.Settled w.record :=
  .not (.equals (record_state w) _)

theorem meets_notClosed : notClosed.meets w.record = decide (w.state ≠ closedState) := by
  rw [notClosed, Expression.meets_not (.equals (record_state w) _),
    Expression.meets_equals (record_state w), decide_not]
  rfl

theorem any_equals_text (s : String) (texts : List String) :
    (texts.map Literal.text).any (Filter.Attribute.text s).equals = decide (s ∈ texts) := by
  rw [List.any_map, Bool.eq_iff_iff]
  simp [Filter.Attribute.equals]

/-- An item that is planned nowhere has none of the iterations. -/
theorem any_equals_iteration (iteration : Option String) (iterations : List String) :
    (iterations.map Literal.text).any (orNull .text iteration).equals =
      decide (∃ it ∈ iteration, it ∈ iterations) := by
  cases iteration with
  | none => simp [orNull, Filter.Attribute.equals]
  | some it =>
    rw [orNull, any_equals_text]
    simp

theorem mem_plannerTypes {name : String} :
    name ∈ d.plannerTypes ↔
      ∃ ty ∈ d.workItemTypes, ty.plannerItem = true ∧ ty.name = name := by
  simp [Dataset.plannerTypes, and_assoc]

/-! ### Scopes -/

/-- The item is on the backlog of the space: it is not closed, planned in one of the backlog
iterations of the space and of a type that is planned. -/
structure OnBacklog (d : Dataset) (space : Uuid) (w : WorkItem) : Prop where
  space_eq : w.space = space
  not_closed : w.state ≠ closedState
  planned : ∃ it ∈ w.iteration, it ∈ d.backlogIterations space
  type_planned : ∃ ty ∈ d.workItemTypes, ty.plannerItem = true ∧ ty.name = w.typeName

theorem onBacklog_iff {space : Uuid} :
    OnBacklog d space w ↔ ((w.space = space ∧ w.state ≠ closedState) ∧
      ∃ it ∈ w.iteration, it ∈ d.backlogIterations space) ∧ w.typeName ∈ d.plannerTypes := by
  rw [mem_plannerTypes]
  constructor
  · intro h
    exact ⟨⟨⟨h.space_eq, h.not_closed⟩, h.planned⟩, h.type_planned⟩
  · rintro ⟨⟨⟨hSpace, hState⟩, hPlanned⟩, hType⟩
    exact ⟨hSpace, hState, hPlanned, hType⟩

instance (d : Dataset) (space : Uuid) : DecidablePred (OnBacklog d space) := fun _ =>
  decidable_of_iff' _ onBacklog_iff

/-- The items that a listing shows to a user without a filter: all of them, those of a space, or
the backlog of a space. -/
def Shows (d : Dataset) : (space : Option Uuid) → (backlog : Bool) → WorkItem → Prop
  | none, _, _ => True
  | some space, false, w => w.space = space
  | some space, true, w => OnBacklog d space w

instance (d : Dataset) : (space : Option Uuid) → (backlog : Bool) →
    DecidablePred (Shows d space backlog)
  | none, _ => fun _ => inferInstanceAs (Decidable True)
  | some space, false => fun w => inferInstanceAs (Decidable (w.space = space))
  | some space, true => fun w => inferInstanceAs (Decidable (OnBacklog d space w))

theorem wants_backlogScope (hf : ∀ e, f = some e → e.Settled w.record) (space : Uuid) :
    (d.backlogScope f space).wants w.record =
        (meetsFilter w.record f && decide (OnBacklog d space w)) ∧
      (d.backlogScope f space).Settled w.record := by
  have hSpace := (Composer.ofBase_settled hf).and (settled_inSpace space)
  have hState := hSpace.and settled_notClosed
  have hIteration := hState.andOneOf (record_iteration w) ((d.backlogIterations space).map .text)
  have hType := hIteration.andOneOf (record_type w) (d.plannerTypes.map .text)
  refine ⟨?_, hType.finish⟩
  rw [Dataset.backlogScope, backlog, Composer.wants_finish hType,
    Composer.wants_andOneOf (record_type w), Composer.wants_andOneOf (record_iteration w),
    Composer.wants_and, Composer.wants_and, Composer.wants_ofBase, meets_inSpace,
    meets_notClosed, any_equals_iteration, any_equals_text, Bool.eq_iff_iff]
  simp only [Bool.and_eq_true, decide_eq_true_eq, onBacklog_iff, and_assoc]

/-- The backlog is the sentinel if nothing is planned: there is no iteration for it or no type. -/
theorem backlogScope_eq_emptyResult_iff {space : Uuid} :
    d.backlogScope f space = .emptyResult ↔
      d.backlogIterations space = [] ∨ d.plannerTypes = [] := by
  rw [Dataset.backlogScope, backlog, Composer.finish_eq_emptyResult_iff, Composer.empty_andOneOf,
    Composer.empty_andOneOf, Composer.empty_and, Composer.empty_and]
  simp [Composer.ofBase]

theorem backlogIterations_of_no_root {space : Uuid} (h : d.rootIteration? space = none) :
    d.backlogIterations space = [] := by
  rw [Dataset.backlogIterations, h]

theorem plannerTypes_eq_nil_iff :
    d.plannerTypes = [] ↔ ∀ ty ∈ d.workItemTypes, ty.plannerItem = false := by
  simp [Dataset.plannerTypes]

theorem not_onBacklog {space : Uuid} (h : d.backlogIterations space = [] ∨ d.plannerTypes = []) :
    ¬ OnBacklog d space w := by
  intro hBacklog
  rcases h with h | h
  · obtain ⟨it, -, hIt⟩ := hBacklog.planned
    rw [h] at hIt
    cases hIt
  · have hType := mem_plannerTypes.mpr hBacklog.type_planned
    rw [h] at hType
    cases hType

theorem wants_spaceScope (hf : ∀ e, f = some e → e.Settled w.record) (space : Uuid) :
    (spaceScope f space).wants w.record =
        (meetsFilter w.record f && decide (w.space = space)) ∧
      (spaceScope f space).Settled w.record := by
  have hParts : ∀ e ∈ f.toList ++ [inSpace space], e.Settled w.record := by
    intro e he
    rcases List.mem_append.mp he with he | he
    · exact hf e (Option.mem_toList.mp he)
    · rw [List.mem_singleton.mp he]
      exact settled_inSpace space
  obtain ⟨hWants, hSettled⟩ := Composition.wants_join hParts
  refine ⟨?_, hSettled⟩
  rw [spaceScope, Filter.conjoin, hWants, List.all_append]
  cases f <;> simp [meetsFilter, meets_inSpace]

/-- The constraints of a listing mean what the listing shows, whatever the user's filter is. -/
theorem wants_listScope (hf : ∀ e, f = some e → e.Settled w.record) (space : Option Uuid)
    (backlog : Bool) :
    (CommandLine.listScope d space backlog f).wants w.record =
        (meetsFilter w.record f && decide (Shows d space backlog w)) ∧
      (CommandLine.listScope d space backlog f).Settled w.record := by
  match space, backlog with
  | none, backlog =>
    have hShown : decide (Shows d none backlog w) = true := decide_eq_true trivial
    refine ⟨?_, Composition.ofExpression?_settled hf⟩
    rw [hShown, Bool.and_true]
    exact Composition.wants_ofExpression? _ _
  | some space, false => exact wants_spaceScope hf space
  | some space, true => exact wants_backlogScope hf space

end Worklist.Tracker
