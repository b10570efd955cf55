import Worklist.Filter.Writer
import Worklist.Proofs.Filter.Evaluation
import Worklist.Proofs.Filter.Reading
import Worklist.Tracker.Fields

/-!
# Written filters read back

A filter that is written for an expression is read as the normal form of that expression, in which a
negation that is negated again stands in a group of its own. The normal form names the same
attributes and has the same truth value, or the same error, on every record.

Nothing is written for an expression with an empty group or with a literal or attribute on its own;
the error is about the first such part.
-/

namespace Worklist.Filter

namespace Expression

/-! ### Normal forms -/

mutual

/-- The normal form of an expression: a negation under a negation is put into a group. -/
def normal : Expression → Expression
  | .not (.not e) => .not (.group .all [normal (.not e)])
  | .not e => .not (normal e)
  | .group c members => .group c (normals members)
  | e => e

/-- The normal forms of several expressions. -/
def normals : List Expression → List Expression
  | [] => []
  | e :: rest => normal e :: normals rest

end

theorem normals_eq_map (es : List Expression) : normals es = es.map normal := by
  induction es with
  | nil => rfl
  | cons e rest ih => rw [normals, ih, List.map_cons]

theorem normal_not {e : Expression} (h : ∀ x, e ≠ .not x) :
    (Expression.not e).normal = .not e.normal := by
  rw [normal]
  exact h

/-- An expression is a negation of a negation, a negation of something else, or no negation. -/
theorem eq_not_or (e : Expression) : (∃ x, e = .not x) ∨ ∀ x, e ≠ .not x := by
  cases e with
  | not x => exact .inl ⟨x, rfl⟩
  | _ => exact .inr (by rintro x ⟨⟩)

theorem fields_normal (e : Expression) : e.normal.fields = e.fields := by
  induction e with
  | not e ih =>
    rcases e.eq_not_or with ⟨x, rfl⟩ | hPlain
    · simp only [normal, fields, fieldsOf, List.append_nil] at ih ⊢
      exact ih
    · rw [normal_not hPlain, fields, fields, ih]
  | group c members ih =>
    rw [normal, normals_eq_map, fields, fields, fieldsOf_eq_flatMap, fieldsOf_eq_flatMap,
      List.flatMap_map]
    exact List.flatMap_congr ih
  | _ => rfl

theorem evaluate_normal (r : Record) (e : Expression) : e.normal.evaluate r = e.evaluate r := by
  induction e with
  | not e ih =>
    rcases e.eq_not_or with ⟨x, rfl⟩ | hPlain
    · rw [normal, evaluate, evaluate_group (List.cons_ne_nil _ _), evaluateMembers_singleton, ih]
      rfl
    · rw [normal_not hPlain, evaluate, evaluate, ih]
  | group c members ih =>
    rw [normal, normals_eq_map]
    by_cases hne : members = []
    · rw [hne]
      rfl
    · have hMap : members.map normal ≠ [] := fun hNil => hne (List.map_eq_nil_iff.mp hNil)
      rw [evaluate_group hMap, evaluate_group hne]
      exact evaluateMembers_congr (List.forall₂_map_right_iff.mpr (List.forall₂_same.mpr ih))
  | _ => rfl

end Expression

/-! ### Expressions that a table can say -/

/-- The attribute is a key of the table, and no reserved one. The field that goes by it stands for
this very attribute and admits the literal. -/
def FieldTable.Resolves (t : FieldTable) (name : String) (l : Option Literal) : Prop :=
  IsFieldKey name ∧ ∃ d, t.get? name = some d ∧ d.target = name ∧ ∀ x ∈ l, d.Admits x

variable {t : FieldTable} {name key : String} {l : Literal} {v : Json} {e body : Expression}

theorem readField_toJson {d : FieldDef} (hd : t.get? name = some d) (h : d.Admits l) :
    readField t name l.toJson = .ok (.equals d.target l) := by
  have hResolve := FieldTable.resolve_eq_ok_iff.mpr hd
  have hLiteral : d.literal name l.toJson = .ok l :=
    FieldDef.literal_eq_ok_iff.mpr (FieldDef.literal?_toJson h)
  rw [readField, hResolve]
  cases l with
  | _ =>
    simp only [Literal.toJson, Json.int, Json.strings] at hLiteral ⊢
    simp [bind, Except.bind, hLiteral, pure, Except.pure]

theorem readField_null {d : FieldDef} (hd : t.get? name = some d) :
    readField t name .null = .ok (.isNull d.target) := by
  rw [readField, FieldTable.resolve_eq_ok_iff.mpr hd]
  rfl

/-! ### What is written -/

namespace Expression

/-- The negation mark of what is written for an expression, if there is one. -/
def marks : Expression → List (String × Json)
  | .not _ => [(negateKey, .bool true)]
  | _ => []

/-- The expression whose negation mark is written behind the predicate `body`. -/
def marked : Expression → Expression → Expression
  | .not _, body => .not body
  | _, body => body

theorem readObject_marks (e : Expression) (location : String)
    (h : readMember t key v = .ok (.predicate body)) :
    readObject t location ((key, v) :: e.marks) = .ok (e.marked body) := by
  have hNegate : readMember t negateKey (.bool true) = .ok (.negation true) :=
    readMember_negateKey_eq_ok_iff.mpr ⟨true, rfl, rfl⟩
  cases e with
  | not x =>
    refine readObject_eq_ok_iff.mpr ⟨[.predicate body, .negation true], ?_, rfl⟩
    exact readMembers_eq_ok_iff.mpr (.cons h (.cons hNegate .nil))
  | _ =>
    refine readObject_eq_ok_iff.mpr ⟨[.predicate body], ?_, rfl⟩
    exact readMembers_eq_ok_iff.mpr (.cons h .nil)

/-- What is written for an expression: one predicate, then the negation mark of the expression. The
predicate is read as `body`. -/
structure Writes (t : FieldTable) (e : Expression) (key : String) (v : Json)
    (body : Expression) : Prop where
  key_ne : key ≠ negateKey
  toMembers_eq : e.toMembers = .ok ((key, v) :: e.marks)
  read : readMember t key v = .ok (.predicate body)
  normal_eq : e.normal = e.marked body

theorem Writes.readObject_eq (h : e.Writes t key v body) (location : String) :
    readObject t location ((key, v) :: e.marks) = .ok e.normal := by
  rw [readObject_marks e location h.read, h.normal_eq]

theorem Writes.not_plain (h : e.Writes t key v body) (hPlain : ∀ x, e ≠ .not x) :
    (Expression.not e).Writes t key v body := by
  have hMarks : e.marks = [] := by
    cases e with
    | not x => exact absurd rfl (hPlain x)
    | _ => rfl
  have hMarked : e.marked body = body := by
    cases e with
    | not x => exact absurd rfl (hPlain x)
    | _ => rfl
  refine ⟨h.key_ne, ?_, h.read, ?_⟩
  · have hLookup : List.lookup negateKey [(key, v)] = none := by
      simp [List.lookup, beq_eq_false_iff_ne.mpr h.key_ne.symm]
    rw [toMembers, h.toMembers_eq, hMarks]
    simp [Except.map, markNegated, hLookup, marks]
  · rw [normal_not hPlain, h.normal_eq, hMarked]
    rfl

/-- Behind a negation mark there is no room for another one. -/
theorem Writes.not_not {x : Expression} (h : (Expression.not x).Writes t key v body) :
    (Expression.not (.not x)).Writes t Connective.all.key
      (.array [.object ((key, v) :: (Expression.not x).marks)])
      (.group .all [(Expression.not x).normal]) := by
  refine ⟨Connective.all.key_ne_negateKey, ?_, ?_, rfl⟩
  · have hLookup : List.lookup negateKey [(key, v), (negateKey, .bool true)] =
        some (.bool true) := by
      simp [List.lookup, beq_eq_false_iff_ne.mpr h.key_ne.symm]
    rw [toMembers, h.toMembers_eq]
    simp [Except.map, markNegated, hLookup, marks]
  · have hItems := readItems_eq_ok_iff.mpr
      (.cons ⟨_, rfl, h.readObject_eq Connective.all.key⟩ .nil)
    have hGroup := readGroup_eq_ok_iff.mpr ⟨_, _, rfl, List.cons_ne_nil _ _, hItems, rfl⟩
    rw [readMember_key, hGroup]
    rfl

theorem toItems_reads_back {c : Connective} {es : List Expression}
    (h : ∀ e ∈ es, ∃ key v body, e.Writes t key v body) :
    ∃ items, toItems es = .ok items ∧ readItems t c items = .ok (es.map normal) ∧
      (es ≠ [] → items ≠ []) := by
  induction es with
  | nil => exact ⟨[], rfl, by rw [readItems, List.map_nil], fun hne => absurd rfl hne⟩
  | cons e rest ih =>
    obtain ⟨key, v, body, he⟩ := h e List.mem_cons_self
    obtain ⟨items, hItems, hRead, -⟩ := ih fun x hx => h x (List.mem_cons_of_mem e hx)
    refine ⟨.object ((key, v) :: e.marks) :: items, ?_, ?_, fun _ => List.cons_ne_nil _ _⟩
    · rw [toItems, he.toMembers_eq, hItems]
      rfl
    · rw [readItems, he.readObject_eq, hRead]
      rfl

theorem Sound.writes (h : e.Sound t.Resolves) : ∃ key v body, e.Writes t key v body := by
  induction h with
  | @equals name l ha =>
    obtain ⟨hKey, d, hd, hTarget, hAdmits⟩ := ha
    refine ⟨name, l.toJson, .equals name l, hKey.1, rfl, ?_, rfl⟩
    rw [readMember_field hKey, readField_toJson hd (hAdmits l rfl), hTarget]
    rfl
  | @isNull name ha =>
    obtain ⟨hKey, d, hd, hTarget, -⟩ := ha
    refine ⟨name, .null, .isNull name, hKey.1, rfl, ?_, rfl⟩
    rw [readMember_field hKey, readField_null hd, hTarget]
    rfl
  | @not e _ ih =>
    obtain ⟨key, v, body, he⟩ := ih
    rcases e.eq_not_or with ⟨x, rfl⟩ | hPlain
    · exact ⟨_, _, _, he.not_not⟩
    · exact ⟨key, v, body, he.not_plain hPlain⟩
  | @group c members hne _ ih =>
    obtain ⟨items, hItems, hRead, hItemsNe⟩ := toItems_reads_back (c := c) ih
    have hGroup := readGroup_eq_ok_iff.mpr ⟨items, _, rfl, hItemsNe hne, hRead, rfl⟩
    refine ⟨c.key, .array items, .group c (members.map normal), c.key_ne_negateKey, ?_, ?_, ?_⟩
    · cases members with
      | nil => exact absurd rfl hne
      | cons x xs =>
        rw [toMembers, hItems]
        · rfl
        · exact hne
    · rw [readMember_key, hGroup]
      rfl
    · rw [normal, normals_eq_map]
      rfl

theorem Sound.toJson_reads_back (h : e.Sound t.Resolves) :
    ∃ v, e.toJson = .ok v ∧ ofJson t v = .ok e.normal := by
  obtain ⟨key, v, body, he⟩ := h.writes
  refine ⟨.object ((key, v) :: e.marks), ?_, he.readObject_eq topLocation⟩
  rw [toJson, he.toMembers_eq]
  rfl

/-! ### What cannot be written -/

/-- What is wrong with an expression itself, apart from its parts. -/
def fault? : Expression → Option FilterError
  | .literal l => some (.unrenderable (.literal l))
  | .field name => some (.unrenderable (.field name))
  | .group c [] => some (.emptyGroup c)
  | _ => none

theorem toMembers_eq_ok_iff_of_error_iff {o : Option FilterError}
    (h : ∀ err, e.toMembers = .error err ↔ o = some err) :
    (∃ members, e.toMembers = .ok members) ↔ o = none := by
  cases hm : e.toMembers with
  | error err => simp [(h err).mp hm]
  | ok members =>
    cases o with
    | none => simp
    | some err =>
      have hErr := (h err).mpr rfl
      rw [hm] at hErr
      cases hErr

theorem toItems_eq_error_iff {es : List Expression} {err : FilterError}
    (h : ∀ e ∈ es, ∀ err, e.toMembers = .error err ↔ e.parts.findSome? fault? = some err) :
    toItems es = .error err ↔ (partsOf es).findSome? fault? = some err := by
  induction es with
  | nil => simp [toItems, partsOf]
  | cons e rest ih =>
    have he := h e List.mem_cons_self
    have hRest := ih fun x hx => h x (List.mem_cons_of_mem e hx)
    have hOk := toMembers_eq_ok_iff_of_error_iff he
    rw [toItems, bind_eq_error_iff, partsOf, List.findSome?_append, Option.or_eq_some_iff, he,
      ← hOk]
    simp only [bind_eq_error_iff, hRest]
    constructor
    · rintro (hFirst | ⟨members, hMembers, hLater | ⟨items, -, hItems⟩⟩)
      · exact .inl hFirst
      · exact .inr ⟨⟨members, hMembers⟩, hLater⟩
      · cases hItems
    · rintro (hFirst | ⟨⟨members, hMembers⟩, hLater⟩)
      · exact .inl hFirst
      · exact .inr ⟨members, hMembers, .inl hLater⟩

theorem toMembers_eq_error_iff (e : Expression) (err : FilterError) :
    e.toMembers = .error err ↔ e.parts.findSome? fault? = some err := by
  induction e generalizing err with
  | not e ih =>
    rw [toMembers, map_eq_error_iff, ih, parts, List.findSome?_cons]
    rfl
  | group c members ih =>
    cases members with
    | nil => simp [toMembers, parts, partsOf, fault?]
    | cons x xs =>
      rw [toMembers, map_eq_error_iff, toItems_eq_error_iff ih, parts, List.findSome?_cons]
      · rfl
      · exact List.cons_ne_nil x xs
  | _ => simp [toMembers, parts, fault?]

theorem toJson_eq_error_iff (e : Expression) (err : FilterError) :
    e.toJson = .error err ↔ e.parts.findSome? fault? = some err := by
  rw [toJson, map_eq_error_iff, toMembers_eq_error_iff]

end Expression

/-! ### The law of writing and reading -/

/-- What the table can say is written and read back as its normal form, which has the same meaning.
An expression that cannot be written has a faulty part, and the error is about the first one. -/
theorem written_reads_back_as_normal :
    (∀ (t : FieldTable) (e : Expression), e.Sound t.Resolves →
      ∃ v, e.toJson = .ok v ∧ ofJson t v = .ok e.normal ∧ e.normal.fields = e.fields ∧
        ∀ r, e.normal.evaluate r = e.evaluate r) ∧
    ∀ (e : Expression) (err : FilterError),
      e.toJson = .error err ↔ e.parts.findSome? Expression.fault? = some err := by
  constructor
  · intro t e h
    obtain ⟨v, hWrite, hRead⟩ := h.toJson_reads_back
    exact ⟨v, hWrite, hRead, e.fields_normal, fun r => e.evaluate_normal r⟩
  · exact Expression.toJson_eq_error_iff

/-- Items with no label but `ui` and items that are not planned, under two negations. -/
def twiceNegated : Expression :=
  .not (.not (.group .any [.equals Tracker.labelsAttribute (.texts ["ui"]),
    .isNull Tracker.iterationAttribute]))

theorem twiceNegated_reads_back :
    twiceNegated.Sound (FieldTable.Resolves Tracker.workItemFields) ∧
      ∃ v, twiceNegated.toJson = .ok v ∧
        ofJson Tracker.workItemFields v = .ok twiceNegated.normal ∧
        twiceNegated.normal.fields = twiceNegated.fields ∧
        ∀ r, twiceNegated.normal.evaluate r = twiceNegated.evaluate r := by
  have hSound : twiceNegated.Sound (FieldTable.Resolves Tracker.workItemFields) := by
    refine .not (.not (.group (List.cons_ne_nil _ _) ?_))
    intro e he
    rcases List.mem_cons.mp he with rfl | he
    · refine .equals ⟨by decide, ⟨["label"], Tracker.labelsAttribute, .text, true⟩, rfl, rfl, ?_⟩
      rintro x ⟨⟩
      exact ⟨rfl, rfl⟩
    · rcases List.mem_cons.mp he with rfl | he
      · refine .isNull ⟨by decide, ⟨["iteration"], Tracker.iterationAttribute, .text, false⟩,
          rfl, rfl, ?_⟩
        rintro x ⟨⟩
      · cases he
  exact ⟨hSound, written_reads_back_as_normal.1 _ _ hSound⟩

end Worklist.Filter
