import Worklist.Proofs.Filter.Faults
import Worklist.Proofs.Uuid

/-!
# What expressions mean

An expression without faults means what its connectives mean in classical logic: a conjunction holds
if all members do, a disjunction if some member does, a negation if its operand does not. Evaluation
finds this truth value although it does not look at every member, so that the order of the members,
members that are repeated and groups within groups of the same connective make no difference.
-/

namespace Worklist.Filter

theorem sameElements_iff {xs ys : List String} :
    sameElements xs ys = true ↔ ∀ s, s ∈ xs ↔ s ∈ ys := by
  simp only [sameElements, Bool.and_eq_true, List.all_eq_true, List.contains_iff_mem]
  exact ⟨fun h s => ⟨h.1 s, h.2 s⟩, fun h => ⟨fun s => (h s).mp, fun s => (h s).mpr⟩⟩

namespace Attribute

variable {a : Attribute} {l : Literal}

/-- The value of an attribute equals a literal: they are the same, a text names the identifier on
the other side, or one of several values does so. Several texts equal a set with the same
elements. -/
inductive Equal : Attribute → Literal → Prop where
  | text (s : String) : Equal (.text s) (.text s)
  | uuid (u : Uuid) : Equal (.uuid u) (.uuid u)
  | number (n : Int64) : Equal (.number n) (.number n)
  | bool (b : Bool) : Equal (.bool b) (.bool b)
  | textOfUuid {s : String} {u : Uuid} : Uuid.parse? s = some u → Equal (.text s) (.uuid u)
  | uuidOfText {u : Uuid} {t : String} : Uuid.parse? t = some u → Equal (.uuid u) (.text t)
  | memText {items : List String} {t : String} : t ∈ items → Equal (.texts items) (.text t)
  | sameTexts {items wanted : List String} : (∀ s, s ∈ items ↔ s ∈ wanted) →
      Equal (.texts items) (.texts wanted)
  | memUuid {items : List Uuid} {u : Uuid} : u ∈ items → Equal (.uuids items) (.uuid u)
  | memUuidOfText {items : List Uuid} {u : Uuid} {t : String} : Uuid.parse? t = some u →
      u ∈ items → Equal (.uuids items) (.text t)

/-- The attribute is null or holds no values. -/
def Absent (a : Attribute) : Prop :=
  a = .null ∨ a = .texts [] ∨ a = .uuids []

theorem equals_iff : a.equals l = true ↔ a.Equal l := by
  constructor
  · intro h
    cases a with
    | null => cases l <;> cases h
    | text s =>
      cases l with
      | text t => exact beq_iff_eq.mp h ▸ .text s
      | uuid u => exact .textOfUuid (beq_iff_eq.mp h)
      | number _ | bool _ | texts _ => cases h
    | uuid u =>
      cases l with
      | text t => exact .uuidOfText (beq_iff_eq.mp h)
      | uuid v => exact beq_iff_eq.mp h ▸ .uuid u
      | number _ | bool _ | texts _ => cases h
    | number n =>
      cases l with
      | number m => exact beq_iff_eq.mp h ▸ .number n
      | text _ | uuid _ | bool _ | texts _ => cases h
    | bool b =>
      cases l with
      | bool c => exact beq_iff_eq.mp h ▸ .bool b
      | text _ | uuid _ | number _ | texts _ => cases h
    | texts items =>
      cases l with
      | text t => exact .memText (List.contains_iff_mem.mp h)
      | texts wanted => exact .sameTexts (sameElements_iff.mp h)
      | uuid _ | number _ | bool _ => cases h
    | uuids items =>
      cases l with
      | text t =>
        obtain ⟨u, hRead, hMem⟩ := (Option.any_eq_true _ _).mp h
        exact .memUuidOfText hRead (List.contains_iff_mem.mp hMem)
      | uuid u => exact .memUuid (List.contains_iff_mem.mp h)
      | number _ | bool _ | texts _ => cases h
  · intro h
    cases h <;> simp_all [equals, sameElements_iff]

theorem isNull_iff : a.isNull = true ↔ a.Absent := by
  cases a <;> simp [isNull, Absent]

end Attribute

namespace Expression

variable {r : Record} {c : Connective} {e e' x : Expression} {es : List Expression}

/-- The expression is true of a record. -/
def Holds (r : Record) : Expression → Prop
  | .literal l => l = .bool true
  | .field name => r name = some (.bool true)
  | .equals name l => ∃ a, r name = some a ∧ a.Equal l
  | .isNull name => ∃ a, r name = some a ∧ a.Absent
  | .not e => ¬Holds r e
  | .group .all members => ∀ e, ∀ (_ : e ∈ members), Holds r e
  | .group .any members => ∃ e, ∃ (_ : e ∈ members), Holds r e

theorem holds_all : (Expression.group .all es).Holds r ↔ ∀ e ∈ es, e.Holds r := by
  rw [Holds]

theorem holds_any : (Expression.group .any es).Holds r ↔ ∃ e ∈ es, e.Holds r := by
  rw [Holds]
  simp only [exists_prop]

/-- The expression can be evaluated on the record throughout: it has no empty groups, what stands on
its own is boolean or null, and the record knows every attribute. -/
structure Sensible (r : Record) (e : Expression) : Prop where
  group_ne_nil : ∀ c, .group c [] ∉ e.parts
  literal_eq : ∀ l, .literal l ∈ e.parts → ∃ b, l = .bool b
  field_eq : ∀ name, .field name ∈ e.parts → r name = some .null ∨ ∃ b, r name = some (.bool b)
  known : ∀ name ∈ e.fields, ∃ a, r name = some a

theorem sensible_iff : e.Sensible r ↔ ∀ x ∈ e.parts, ∀ err, ¬x.Fault r err := by
  constructor
  · rintro h x hx err (⟨hAsked, hNone⟩ | _ | hLiteral | ⟨hSome, hNull, hBool⟩)
    · obtain ⟨a, ha⟩ := h.known _ (mem_fields_iff.mpr ⟨x, hx, hAsked⟩)
      rw [hNone] at ha
      cases ha
    · exact h.group_ne_nil _ hx
    · obtain ⟨b, hb⟩ := h.literal_eq _ hx
      exact hLiteral b hb
    · rcases h.field_eq _ hx with hEq | ⟨b, hEq⟩
      · exact hNull (Option.some.inj (hSome.symm.trans hEq))
      · exact hBool b (Option.some.inj (hSome.symm.trans hEq))
  · intro h
    refine ⟨fun c hc => h _ hc _ (.emptyGroup c), fun l hl => ?_, fun name hName => ?_,
      fun name hName => ?_⟩
    · by_contra hLiteral
      exact h _ hl _ (.literal (not_exists.mp hLiteral))
    · cases hSome : r name with
      | none => exact absurd (Fault.unknown rfl hSome) (h _ hName _)
      | some a =>
        by_contra hKind
        obtain ⟨hNull, hBool⟩ := not_or.mp hKind
        exact h _ hName _ (.field hSome (by simpa using hNull) (by simpa using hBool))
    · obtain ⟨x, hx, hAsked⟩ := mem_fields_iff.mp hName
      by_contra hUnknown
      exact h x hx _ (.unknown hAsked (by simpa [Option.eq_none_iff_forall_ne_some] using hUnknown))

theorem sensible_not_iff : (Expression.not e).Sensible r ↔ e.Sensible r := by
  simp only [sensible_iff, mem_parts_not, forall_eq_or_imp]
  refine and_iff_right fun err hFault => ?_
  cases hFault with
  | unknown hAsked _ => cases hAsked

theorem sensible_group_iff :
    (Expression.group c es).Sensible r ↔ es ≠ [] ∧ ∀ e ∈ es, e.Sensible r := by
  simp only [sensible_iff, mem_parts_group, forall_eq_or_imp]
  refine and_congr ?_ ?_
  · constructor
    · rintro h rfl
      exact h _ (.emptyGroup c)
    · intro hne err hFault
      cases hFault with
      | unknown hAsked _ => cases hAsked
      | emptyGroup => exact hne rfl
  · exact ⟨fun h e he x hx => h x ⟨e, he, hx⟩, fun h x ⟨e, he, hx⟩ => h e he x hx⟩

theorem Sensible.settled (h : e.Sensible r) : e.Settled r := by
  cases hEvaluate : e.evaluate r with
  | ok b => exact ⟨b, hEvaluate⟩
  | error err =>
    obtain ⟨x, hReaches, hFault⟩ := exists_fault_of_error hEvaluate
    exact absurd hFault (sensible_iff.mp h x hReaches.mem_parts err)

theorem Sensible.meets_iff (h : e.Sensible r) : e.meets r = true ↔ e.Holds r := by
  induction e with
  | literal l =>
    obtain ⟨b, rfl⟩ := h.literal_eq l (mem_parts_self _)
    simp [meets, evaluate, Holds]
  | field name =>
    rcases h.field_eq name (mem_parts_self _) with hNull | ⟨b, hBool⟩
    · simp [meets, evaluate, lookup, Holds, hNull, bind, Except.bind, pure, Except.pure]
    · simp [meets, evaluate, lookup, Holds, hBool, bind, Except.bind, pure, Except.pure]
  | equals name l =>
    obtain ⟨a, ha⟩ := h.known name (List.mem_singleton.mpr rfl)
    simp [meets_equals ha, Holds, ha, Attribute.equals_iff]
  | isNull name =>
    obtain ⟨a, ha⟩ := h.known name (List.mem_singleton.mpr rfl)
    simp [meets, evaluate_isNull ha, Holds, ha, Attribute.isNull_iff]
  | not e ih =>
    have hInner := sensible_not_iff.mp h
    rw [meets_not hInner.settled, Holds, ← ih hInner]
    simp
  | group c members ih =>
    obtain ⟨hne, hMembers⟩ := sensible_group_iff.mp h
    rw [meets_group hne fun e he => (hMembers e he).settled]
    cases c with
    | all =>
      rw [truth_all_meets, List.all_eq_true, holds_all]
      exact forall₂_congr fun e he => ih e he (hMembers e he)
    | any =>
      rw [truth_any_meets, List.any_eq_true, holds_any]
      exact exists_congr fun e => and_congr_right fun he => ih e he (hMembers e he)

/-! ### Rearranging -/

/-- One expression is made from another by changing the order of the members of groups, by repeating
members, and by making members a group of their own, or the other way round, at any place. -/
inductive Rearranged : Expression → Expression → Prop where
  | refl (e : Expression) : Rearranged e e
  | symm {e e' : Expression} : Rearranged e e' → Rearranged e' e
  | trans {e e' e'' : Expression} : Rearranged e e' → Rearranged e' e'' → Rearranged e e''
  | permuted {c : Connective} {xs ys : List Expression} : xs.Perm ys →
      Rearranged (.group c xs) (.group c ys)
  | repeated {c : Connective} {e : Expression} {es : List Expression} : e ∈ es →
      Rearranged (.group c es) (.group c (e :: es))
  | regrouped {c : Connective} {xs ys zs : List Expression} : ys ≠ [] →
      Rearranged (.group c (xs ++ ys ++ zs)) (.group c (xs ++ .group c ys :: zs))
  | not {e e' : Expression} : Rearranged e e' → Rearranged (.not e) (.not e')
  | member {c : Connective} {xs ys : List Expression} {e e' : Expression} : Rearranged e e' →
      Rearranged (.group c (xs ++ e :: ys)) (.group c (xs ++ e' :: ys))

theorem Rearranged.sensible_iff (h : Rearranged e e') : e.Sensible r ↔ e'.Sensible r := by
  induction h with
  | refl e => rfl
  | symm _ ih => exact ih.symm
  | trans _ _ ih ih' => exact ih.trans ih'
  | permuted hPerm =>
    simp only [sensible_group_iff, hPerm.mem_iff, ne_eq, ← List.length_eq_zero_iff, hPerm.length_eq]
  | @repeated c e es hMem =>
    simp only [sensible_group_iff, List.forall_mem_cons]
    constructor
    · rintro ⟨-, hMembers⟩
      exact ⟨List.cons_ne_nil _ _, hMembers e hMem, hMembers⟩
    · rintro ⟨-, -, hMembers⟩
      exact ⟨List.ne_nil_of_mem hMem, hMembers⟩
  | @regrouped c xs ys zs hne =>
    simp only [sensible_group_iff, List.forall_mem_append, List.forall_mem_cons]
    simp [hne, and_assoc]
  | not _ ih => rw [sensible_not_iff, sensible_not_iff, ih]
  | member _ ih =>
    simp only [sensible_group_iff, List.forall_mem_append, List.forall_mem_cons, ih]
    simp

theorem Rearranged.holds_iff (h : Rearranged e e') : e.Holds r ↔ e'.Holds r := by
  induction h with
  | refl e => rfl
  | symm _ ih => exact ih.symm
  | trans _ _ ih ih' => exact ih.trans ih'
  | @permuted c xs ys hPerm =>
    cases c <;> simp only [holds_all, holds_any, hPerm.mem_iff]
  | @repeated c e es hMem =>
    cases c with
    | all =>
      rw [holds_all, holds_all, List.forall_mem_cons]
      exact (and_iff_right_of_imp fun h => h e hMem).symm
    | any =>
      simp only [holds_any, List.exists_mem_cons_iff]
      exact (or_iff_right_of_imp fun h => ⟨e, hMem, h⟩).symm
  | @regrouped c xs ys zs _ =>
    cases c with
    | all => simp only [holds_all, List.forall_mem_append, List.forall_mem_cons, and_assoc]
    | any => simp [holds_any, or_and_right, exists_or]
  | not _ ih => rw [Holds, Holds, ih]
  | @member c xs ys e e' _ ih =>
    cases c with
    | all => simp only [holds_all, List.forall_mem_append, List.forall_mem_cons, ih]
    | any => simp [holds_any, or_and_right, exists_or, ih]

theorem Sensible.evaluate_rearranged (h : e.Sensible r) (hRearranged : Rearranged e e') :
    e'.evaluate r = e.evaluate r := by
  have h' := hRearranged.sensible_iff.mp h
  rw [h.settled.evaluate_eq, h'.settled.evaluate_eq]
  congr 1
  rw [Bool.eq_iff_iff, h'.meets_iff, h.meets_iff, hRearranged.holds_iff]

/-! ### Selecting -/

section Selecting

open Classical

theorem select_of_sensible {α : Type} (record : α → Record) {xs : List α}
    (h : ∀ x ∈ xs, e.Sensible (record x)) :
    e.select record xs = .ok (xs.filter fun x => e.Holds (record x)) := by
  rw [select_of_settled record fun x hx => (h x hx).settled]
  refine congrArg _ (List.filter_congr fun x hx => ?_)
  rw [Bool.eq_iff_iff, (h x hx).meets_iff, decide_eq_true_iff]

/-- Evaluating an expression without faults gives what it means in classical logic. Rearranging it
makes no difference. Of several things it selects those of which it holds, in their order, and its
negation selects the others. -/
theorem evaluation_is_classical :
    (∀ (r : Record) (e : Expression), e.Sensible r →
      (∃ b, e.evaluate r = .ok b ∧ (b = true ↔ e.Holds r)) ∧
      ∀ e', Rearranged e e' → e'.evaluate r = e.evaluate r) ∧
    ∀ (α : Type) (record : α → Record) (e : Expression) (xs : List α),
      (∀ x ∈ xs, e.Sensible (record x)) →
      e.select record xs = .ok (xs.filter fun x => e.Holds (record x)) ∧
      (Expression.not e).select record xs = .ok (xs.filter fun x => ¬e.Holds (record x)) := by
  constructor
  · intro r e h
    exact ⟨⟨e.meets r, h.settled.evaluate_eq, h.meets_iff⟩, fun e' => h.evaluate_rearranged⟩
  · intro α record e xs h
    refine ⟨select_of_sensible record h, ?_⟩
    rw [select_of_sensible record fun x hx => sensible_not_iff.mpr (h x hx)]
    simp only [Holds]

end Selecting

/-- A thing with an owner, who is given as a text, with labels, and without a date. -/
def chair : Record := fun name =>
  if name = "owner" then some (.text "\x7bAAAAAAAA-AAAA-AAAA-AAAA-AAAAAAAAAAAA\x7d")
  else if name = "labels" then some (.texts ["red", "old", "red"])
  else if name = "sold" then some (.bool false)
  else if name = "date" then some .null
  else none

/-- There is a date, there is none, or a literal holds. -/
def datedOrNot : List Expression :=
  [.field "date", .isNull "date", .literal (.bool false)]

/-- What is unsold, belongs to someone, and has two labels. -/
def unsold : Expression :=
  .group .all [.not (.field "sold"), .equals "owner" (.uuid (.repeated 10)),
    .equals "labels" (.texts ["old", "red"]), .group .any datedOrNot]

/-- The same with the labels asked for twice, the last members in a group, and the choice in another
order. -/
def unsoldToo : Expression :=
  .group .all [.not (.field "sold"), .group .all [.equals "labels" (.texts ["old", "red"]),
    .equals "owner" (.uuid (.repeated 10)), .equals "labels" (.texts ["old", "red"]),
    .group .any datedOrNot.reverse]]

theorem rearranged_unsold : Rearranged unsold unsoldToo := by
  have hChoice : Rearranged (.group .any datedOrNot) (.group .any datedOrNot.reverse) :=
    .permuted (List.reverse_perm _).symm
  have hRepeated : Rearranged unsold (.group .all (.equals "labels" (.texts ["old", "red"]) ::
      [.not (.field "sold"), .equals "owner" (.uuid (.repeated 10)),
        .equals "labels" (.texts ["old", "red"]), .group .any datedOrNot])) :=
    .repeated (by simp)
  have hGrouped : Rearranged _ (.group .all ([.not (.field "sold")] ++
      .group .all [.equals "labels" (.texts ["old", "red"]), .equals "owner" (.uuid (.repeated 10)),
        .equals "labels" (.texts ["old", "red"]), .group .any datedOrNot] :: [])) :=
    .regrouped (List.cons_ne_nil _ _)
  have hInner : Rearranged (.group .all ([.equals "labels" (.texts ["old", "red"]),
      .equals "owner" (.uuid (.repeated 10)), .equals "labels" (.texts ["old", "red"])] ++
        .group .any datedOrNot :: [])) _ :=
    .member hChoice
  refine hRepeated.trans (.trans (.permuted ?_) (hGrouped.trans (.member hInner)))
  exact .swap _ _ _

theorem sensible_unsold : unsold.Sensible chair := by
  refine ⟨fun c hc => ?_, fun l hl => ?_, fun name hName => ?_, fun name hName => ?_⟩
  · simp [unsold, datedOrNot, parts, partsOf] at hc
  · simp [unsold, datedOrNot, parts, partsOf] at hl
    exact ⟨false, hl⟩
  · simp [unsold, datedOrNot, parts, partsOf] at hName
    rcases hName with rfl | rfl
    · exact .inr ⟨false, rfl⟩
    · exact .inl rfl
  · simp [unsold, datedOrNot, fields, fieldsOf] at hName
    rcases hName with rfl | rfl | rfl | rfl
    all_goals exact ⟨_, rfl⟩

theorem holds_unsold : unsold.Holds chair := by
  have hOwner : Uuid.parse? "\x7bAAAAAAAA-AAAA-AAAA-AAAA-AAAAAAAAAAAA\x7d" =
      some (.repeated 10) := by
    decide +kernel
  have hUnsold : (Expression.not (.field "sold")).Holds chair := by
    simp [Holds, chair]
  have hLabels : (Expression.equals "labels" (.texts ["old", "red"])).Holds chair := by
    rw [Holds]
    exact ⟨_, rfl, .sameTexts (by grind)⟩
  have hChoice : (Expression.group .any datedOrNot).Holds chair := by
    refine holds_any.mpr ⟨.isNull "date", by simp [datedOrNot], ?_⟩
    rw [Holds]
    exact ⟨_, rfl, .inl rfl⟩
  have hOwned : (Expression.equals "owner" (.uuid (.repeated 10))).Holds chair := by
    rw [Holds]
    exact ⟨_, rfl, .textOfUuid hOwner⟩
  refine holds_all.mpr ?_
  simp only [List.forall_mem_cons]
  exact ⟨hUnsold, hOwned, hLabels, hChoice, List.forall_mem_nil _⟩

theorem chair_is_unsold :
    unsold.evaluate chair = .ok true ∧ unsoldToo.evaluate chair = .ok true ∧
      unsold.select id [chair, chair] = .ok [chair, chair] ∧
      (Expression.not unsold).select id [chair, chair] = .ok [] := by
  obtain ⟨hTruth, hSelected⟩ := evaluation_is_classical
  obtain ⟨⟨b, hb, hHolds⟩, hSame⟩ := hTruth chair unsold sensible_unsold
  obtain rfl : b = true := hHolds.mpr holds_unsold
  obtain ⟨hKept, hOthers⟩ := hSelected Record id unsold [chair, chair] fun x hx => by
    have hEq : x = chair := by simpa using hx
    rw [hEq]
    exact sensible_unsold
  refine ⟨hb, (hSame _ rearranged_unsold).trans hb, ?_, ?_⟩
  · rw [hKept]
    simp [holds_unsold]
  · rw [hOthers]
    simp [holds_unsold]

end Expression

end Worklist.Filter
