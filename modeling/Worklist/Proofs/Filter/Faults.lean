import Worklist.Proofs.Except
import Worklist.Proofs.Filter.Evaluation

/-!
# Faults

What can be wrong with a part of an expression on its own, and when evaluating the expression shows
it. Evaluation comes to a part unless a member in front of it settles a group that it stands in. It
fails exactly if it comes to a part with a fault, and then with the error of this fault. A fault
behind a member that settles the group stays hidden.
-/

namespace Worklist.Filter

namespace Expression

variable {r : Record} {c : Connective} {e x : Expression} {es before rest : List Expression}
  {err : FilterError}

/-- The attribute that a part asks for itself. -/
def asked? : Expression → Option String
  | .field name | .equals name _ | .isNull name => some name
  | .literal _ | .not _ | .group _ _ => none

/-- What is wrong with a part on its own: it asks for an attribute that the record does not know, it
is a group without members, or it is a literal or an attribute that is not boolean. -/
inductive Fault (r : Record) : Expression → FilterError → Prop where
  | unknown {e : Expression} {name : String} : e.asked? = some name → r name = none →
      Fault r e (.unknownAttribute name)
  | emptyGroup (c : Connective) : Fault r (.group c []) (.emptyGroup c)
  | literal {l : Literal} : (∀ b, l ≠ .bool b) → Fault r (.literal l) (.notBoolean (.literal l))
  | field {name : String} {a : Attribute} : r name = some a → a ≠ .null → (∀ b, a ≠ .bool b) →
      Fault r (.field name) (.notBoolean (.field name))

/-- Evaluation of an expression comes to one of its parts. -/
inductive Reaches (r : Record) : Expression → Expression → Prop where
  | self (e : Expression) : Reaches r e e
  | not {e x : Expression} : Reaches r e x → Reaches r (.not e) x
  | member {c : Connective} {before after : List Expression} {e x : Expression} :
      (∀ d ∈ before, d.evaluate r = .ok (!c.decisive)) → Reaches r e x →
      Reaches r (.group c (before ++ e :: after)) x

/-- A part stands in a group behind a member that settles the group. -/
def Hides (r : Record) (e x : Expression) : Prop :=
  ∃ c before m after, .group c (before ++ m :: after) ∈ e.parts ∧ x ∈ m.parts ∧
    ∃ d ∈ before, d.evaluate r = .ok c.decisive

theorem Reaches.mem_parts (h : e.Reaches r x) : x ∈ e.parts := by
  induction h with
  | self e => exact mem_parts_self e
  | not _ ih => exact mem_parts_not.mpr (.inr ih)
  | member _ _ ih =>
    exact mem_parts_group.mpr (.inr ⟨_, List.mem_append_right _ List.mem_cons_self, ih⟩)

theorem mem_fields_iff {name : String} :
    name ∈ e.fields ↔ ∃ x ∈ e.parts, x.asked? = some name := by
  induction e with
  | literal l => simp [fields, parts, asked?]
  | field name' => simp [fields, parts, asked?, eq_comm]
  | equals name' l => simp [fields, parts, asked?, eq_comm]
  | isNull name' => simp [fields, parts, asked?, eq_comm]
  | not e ih => simp [fields, parts, asked?, ih]
  | group c members ih =>
    simp only [fields, fieldsOf_eq_flatMap, List.mem_flatMap, mem_parts_group]
    constructor
    · rintro ⟨m, hm, hName⟩
      obtain ⟨x, hx, hAsked⟩ := (ih m hm).mp hName
      exact ⟨x, .inr ⟨m, hm, hx⟩, hAsked⟩
    · rintro ⟨x, rfl | ⟨m, hm, hx⟩, hAsked⟩
      · cases hAsked
      · exact ⟨m, hm, (ih m hm).mpr ⟨x, hx, hAsked⟩⟩

/-! ### Groups -/

/-- The first member that cannot be evaluated makes the group fail, unless a member in front of it
settles the group. -/
theorem evaluateMembers_eq_error_iff : evaluateMembers r c es = .error err ↔
    ∃ before m after, es = before ++ m :: after ∧
      (∀ d ∈ before, d.evaluate r = .ok (!c.decisive)) ∧ m.evaluate r = .error err := by
  induction es with
  | nil => simp [evaluateMembers]
  | cons e rest ih =>
    rw [evaluateMembers, bind_eq_error_iff]
    constructor
    · rintro (hError | ⟨b, hb, hRest⟩)
      · exact ⟨[], e, rest, rfl, List.forall_mem_nil _, hError⟩
      · split at hRest
        · cases hRest
        · rename_i hNot
          obtain ⟨before, m, after, rfl, hBefore, hError⟩ := ih.mp hRest
          have he : e.evaluate r = .ok (!c.decisive) := by
            rw [hb, Bool.eq_not_of_ne hNot]
          exact ⟨e :: before, m, after, rfl, List.forall_mem_cons.mpr ⟨he, hBefore⟩, hError⟩
    · rintro ⟨before, m, after, hEq, hBefore, hError⟩
      cases before with
      | nil =>
        obtain ⟨rfl, -⟩ := List.cons.inj hEq
        exact .inl hError
      | cons d before =>
        obtain ⟨rfl, rfl⟩ := List.cons.inj hEq
        obtain ⟨he, hBefore⟩ := List.forall_mem_cons.mp hBefore
        refine .inr ⟨_, he, ?_⟩
        rw [if_neg (by simp)]
        exact ih.mpr ⟨before, m, after, rfl, hBefore, hError⟩

/-- A group that has a truth value has looked at the members in front of `rest` and was not settled
by them, or it was settled by one of them. -/
theorem passed_or_settled {b : Bool} (h : evaluateMembers r c (before ++ rest) = .ok b) :
    ((∀ d ∈ before, d.evaluate r = .ok (!c.decisive)) ∧ evaluateMembers r c rest = .ok b) ∨
      ∃ d ∈ before, d.evaluate r = .ok c.decisive := by
  induction before with
  | nil => exact .inl ⟨List.forall_mem_nil _, h⟩
  | cons e before ih =>
    rw [List.cons_append, evaluateMembers, bind_eq_ok_iff] at h
    obtain ⟨v, hv, hRest⟩ := h
    by_cases hSettles : v = c.decisive
    · exact .inr ⟨e, List.mem_cons_self, hSettles ▸ hv⟩
    · rw [if_neg hSettles] at hRest
      have he : e.evaluate r = .ok (!c.decisive) := by
        rw [hv, Bool.eq_not_of_ne hSettles]
      rcases ih hRest with ⟨hPassed, hOk⟩ | ⟨d, hd, hDecisive⟩
      · exact .inl ⟨List.forall_mem_cons.mpr ⟨he, hPassed⟩, hOk⟩
      · exact .inr ⟨d, List.mem_cons_of_mem e hd, hDecisive⟩

/-! ### Faults and errors -/

theorem Fault.evaluate_eq (h : x.Fault r err) : x.evaluate r = .error err := by
  cases h with
  | @unknown _ name hAsked hNone =>
    cases x <;> cases hAsked <;> simp [evaluate, lookup, hNone, bind, Except.bind, Except.map]
  | emptyGroup c => rw [evaluate]
  | @literal l hl => cases l <;> simp_all [evaluate]
  | @field name a ha hNull hBool =>
    cases a <;> simp_all [evaluate, lookup, bind, Except.bind, throw, throwThe, MonadExceptOf.throw]

theorem Reaches.evaluate_eq_error (h : e.Reaches r x) (hFault : x.Fault r err) :
    e.evaluate r = .error err := by
  induction h with
  | self _ => exact hFault.evaluate_eq
  | not _ ih => rw [evaluate, ih hFault]; rfl
  | member hBefore _ ih =>
    rw [evaluate_group (List.append_ne_nil_of_right_ne_nil _ (List.cons_ne_nil _ _)),
      evaluateMembers_eq_error_iff]
    exact ⟨_, _, _, rfl, hBefore, ih hFault⟩

theorem exists_fault_of_error (h : e.evaluate r = .error err) :
    ∃ x, e.Reaches r x ∧ x.Fault r err := by
  induction e generalizing err with
  | literal l =>
    refine ⟨_, .self _, ?_⟩
    cases l <;> cases h <;> exact .literal (by simp)
  | field name =>
    refine ⟨_, .self _, ?_⟩
    rw [evaluate, bind_eq_error_iff] at h
    rcases h with hLookup | ⟨a, ha, hKind⟩
    · obtain ⟨hNone, rfl⟩ := lookup_eq_error_iff.mp hLookup
      exact .unknown rfl hNone
    · have hSome := lookup_eq_ok_iff.mp ha
      cases a <;> cases hKind <;> exact .field hSome (by simp) (by simp)
  | equals name l =>
    refine ⟨_, .self _, ?_⟩
    rw [evaluate, map_eq_error_iff, lookup_eq_error_iff] at h
    obtain ⟨hNone, rfl⟩ := h
    exact .unknown rfl hNone
  | isNull name =>
    refine ⟨_, .self _, ?_⟩
    rw [evaluate, map_eq_error_iff, lookup_eq_error_iff] at h
    obtain ⟨hNone, rfl⟩ := h
    exact .unknown rfl hNone
  | not e ih =>
    rw [evaluate, map_eq_error_iff] at h
    obtain ⟨x, hReaches, hFault⟩ := ih h
    exact ⟨x, .not hReaches, hFault⟩
  | group c members ih =>
    cases members with
    | nil =>
      rw [evaluate] at h
      cases h
      exact ⟨_, .self _, .emptyGroup c⟩
    | cons first others =>
      rw [evaluate_group (List.cons_ne_nil _ _), evaluateMembers_eq_error_iff] at h
      obtain ⟨before, m, after, hEq, hBefore, hError⟩ := h
      have hMem : m ∈ first :: others := hEq ▸ List.mem_append_right _ List.mem_cons_self
      obtain ⟨x, hReaches, hFault⟩ := ih m hMem hError
      rw [hEq]
      exact ⟨x, .member hBefore hReaches, hFault⟩

theorem reaches_or_hides {b : Bool} (h : e.evaluate r = .ok b) (hx : x ∈ e.parts) :
    e.Reaches r x ∨ e.Hides r x := by
  induction e generalizing b with
  | literal l => exact .inl (List.mem_singleton.mp hx ▸ .self _)
  | field name => exact .inl (List.mem_singleton.mp hx ▸ .self _)
  | equals name l => exact .inl (List.mem_singleton.mp hx ▸ .self _)
  | isNull name => exact .inl (List.mem_singleton.mp hx ▸ .self _)
  | not e ih =>
    rcases mem_parts_not.mp hx with rfl | hPart
    · exact .inl (.self _)
    rw [evaluate, map_eq_ok_iff] at h
    obtain ⟨b, hb, -⟩ := h
    rcases ih hb hPart with hReaches | ⟨c, before, m, after, hGroup, hHidden⟩
    · exact .inl (.not hReaches)
    · exact .inr ⟨c, before, m, after, mem_parts_not.mpr (.inr hGroup), hHidden⟩
  | group c members ih =>
    rcases mem_parts_group.mp hx with rfl | ⟨m, hm, hPart⟩
    · exact .inl (.self _)
    obtain ⟨before, after, rfl⟩ := List.append_of_mem hm
    rw [evaluate_group (List.ne_nil_of_mem hm)] at h
    -- The member with the part was looked at, or one in front of it settled the group.
    rcases passed_or_settled h with ⟨hPassed, hRest⟩ | hSettled
    · rw [evaluateMembers, bind_eq_ok_iff] at hRest
      obtain ⟨v, hv, -⟩ := hRest
      rcases ih m hm hv hPart with hReaches | ⟨c', before', m', after', hGroup, hHidden⟩
      · exact .inl (.member hPassed hReaches)
      · exact .inr ⟨c', before', m', after', mem_parts_group.mpr (.inr ⟨m, hm, hGroup⟩), hHidden⟩
    · exact .inr ⟨c, before, m, after, mem_parts_self _, hPart, hSettled⟩

/-- Evaluation fails exactly if it comes to a part with a fault, and then with the error of this
fault. So an expression with a fault anywhere is neither met nor refused, unless the fault is hidden
behind a member that settles a group. An attribute that the record does not know, a group without
members and a literal on its own that is not boolean are faults. -/
theorem faults_are_errors_unless_hidden (r : Record) (e : Expression) :
    (∀ err, e.evaluate r = .error err ↔ ∃ x, e.Reaches r x ∧ x.Fault r err) ∧
    (∀ x ∈ e.parts, ∀ err, x.Fault r err →
      (∃ err', e.evaluate r = .error err') ∨ e.Hides r x) ∧
    ((∃ name ∈ e.fields, r name = none) ∨ (∃ c, .group c [] ∈ e.parts) ∨
      (∃ l, .literal l ∈ e.parts ∧ ∀ b, l ≠ .bool b) → ∃ x ∈ e.parts, ∃ err, x.Fault r err) := by
  refine ⟨?_, ?_, ?_⟩
  · intro err
    exact ⟨exists_fault_of_error, fun ⟨x, hReaches, hFault⟩ => hReaches.evaluate_eq_error hFault⟩
  · intro x hx err hFault
    cases hEvaluate : e.evaluate r with
    | error err' => exact .inl ⟨err', rfl⟩
    | ok b =>
      refine .inr ((reaches_or_hides hEvaluate hx).resolve_left fun hReaches => ?_)
      rw [hReaches.evaluate_eq_error hFault] at hEvaluate
      cases hEvaluate
  · rintro (⟨name, hName, hNone⟩ | ⟨c, hc⟩ | ⟨l, hl, hBool⟩)
    · obtain ⟨x, hx, hAsked⟩ := mem_fields_iff.mp hName
      exact ⟨x, hx, _, .unknown hAsked hNone⟩
    · exact ⟨_, hc, _, .emptyGroup c⟩
    · exact ⟨_, hl, _, .literal hBool⟩

/-- A record without attributes. -/
def noAttributes : Record :=
  fun _ => none

/-- A conjunction that asks for an attribute twice, once behind a member that settles a choice. -/
def askedTwice : Expression :=
  .group .all [.group .any [.literal (.bool true), .isNull "colour"], .not (.isNull "colour")]

theorem askedTwice_fails :
    askedTwice.evaluate noAttributes = .error (.unknownAttribute "colour") ∧
    ((∃ err, askedTwice.evaluate noAttributes = .error err) ∨
      askedTwice.Hides noAttributes (.isNull "colour")) ∧
    ∃ x ∈ askedTwice.parts, ∃ err, x.Fault noAttributes err := by
  obtain ⟨hError, hHidden, hFaulty⟩ := faults_are_errors_unless_hidden noAttributes askedTwice
  have hFault : (Expression.isNull "colour").Fault noAttributes (.unknownAttribute "colour") :=
    .unknown rfl rfl
  have hFirst : ∀ d ∈ [Expression.group .any [.literal (.bool true), .isNull "colour"]],
      d.evaluate noAttributes = .ok (!Connective.all.decisive) := by
    refine List.forall_mem_singleton.mpr ?_
    cbv
  refine ⟨(hError _).mpr ⟨_, .member hFirst (.not (.self _)), hFault⟩,
    hHidden _ (by decide) _ hFault, hFaulty (.inl ⟨"colour", by decide, rfl⟩)⟩

/-- Expressions that ask for an attribute that the record does not know, that have a group without
members, or that hold a literal on its own, have a truth value all the same. -/
theorem hidden_faults_are_accepted :
    ("colour" ∈ (Expression.group .all [.literal (.bool false), .isNull "colour"]).fields ∧
      noAttributes "colour" = none ∧
      (Expression.group .all [.literal (.bool false), .isNull "colour"]).evaluate noAttributes =
        .ok false) ∧
    (.group .all [] ∈ (Expression.group .any [.literal (.bool true), .group .all []]).parts ∧
      (Expression.group .any [.literal (.bool true), .group .all []]).evaluate noAttributes =
        .ok true) ∧
    (.literal (.text "red") ∈
        (Expression.group .any [.literal (.bool true), .literal (.text "red")]).parts ∧
      (Expression.group .any [.literal (.bool true), .literal (.text "red")]).evaluate
        noAttributes = .ok true) := by
  refine ⟨⟨by decide, rfl, ?_⟩, ⟨by decide, ?_⟩, by decide, ?_⟩
  · cbv
  · cbv
  · cbv

end Expression

end Worklist.Filter
