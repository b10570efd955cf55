import Worklist.Filter.Reader
import Worklist.Proofs.Except
import Worklist.Proofs.Filter.Expression
import Worklist.Proofs.Filter.Literal
import Worklist.Proofs.Json.Tree
import Worklist.Proofs.Lists
import Worklist.Proofs.Text.Blank

/-!
# What the readers of filters accept

One law for each reader says when it succeeds and with what. The law of a member splits the keys
into those of groups, the negation mark, other operators and keys of fields; the laws of lists say
that every element is read by itself.

From the laws follows the shape of what is read: the expression of an accepted filter is sound, and
asks only about attributes that the table describes.
-/

namespace Worklist.Filter

variable {t : FieldTable} {key location : String} {v : Json} {e : Expression} {c : Connective}

/-! ### Keys -/

/-- A key that is left to fields: neither an operator nor the negation mark. -/
def IsFieldKey (key : String) : Prop :=
  key ≠ negateKey ∧ key.toList.head? ≠ some '$'

instance : DecidablePred IsFieldKey := fun key =>
  inferInstanceAs (Decidable (key ≠ negateKey ∧ key.toList.head? ≠ some '$'))

theorem Connective.head?_key (c : Connective) : c.key.toList.head? = some '$' := by
  cases c <;> decide

theorem Connective.key_ne_negateKey (c : Connective) : c.key ≠ negateKey := by
  cases c <;> decide

theorem Connective.key_injective {c d : Connective} (h : c.key = d.key) : c = d := by
  revert h
  cases c <;> cases d <;> decide

theorem IsFieldKey.ne_key (h : IsFieldKey key) (c : Connective) : key ≠ c.key := by
  rintro rfl
  exact h.2 c.head?_key

/-- Every key is one of a group, the negation mark, an unknown operator or one of a field. -/
theorem key_cases (key : String) :
    (∃ c : Connective, key = c.key) ∨ key = negateKey ∨
      (key.toList.head? = some '$' ∧ ∀ c : Connective, key ≠ c.key) ∨ IsFieldKey key := by
  by_cases hGroup : ∃ c : Connective, key = c.key
  · exact .inl hGroup
  by_cases hNegate : key = negateKey
  · exact .inr (.inl hNegate)
  by_cases hHead : key.toList.head? = some '$'
  · exact .inr (.inr (.inl ⟨hHead, fun c hc => hGroup ⟨c, hc⟩⟩))
  · exact .inr (.inr (.inr ⟨hNegate, hHead⟩))

/-! ### Members -/

theorem readMember_key (c : Connective) :
    readMember t c.key v = (readGroup t c v).map .predicate := by
  cases c with
  | all => rw [readMember.eq_def, if_pos rfl]
  | any => rw [readMember.eq_def, if_neg (by decide), if_pos rfl]

theorem readMember_negateKey_eq_ok_iff {m : Member} :
    readMember t negateKey v = .ok m ↔ ∃ b, v = .bool b ∧ m = .negation b := by
  have hAll := Connective.all.key_ne_negateKey.symm
  have hAny := Connective.any.key_ne_negateKey.symm
  rw [readMember.eq_def, if_neg hAll, if_neg hAny, if_pos rfl]
  cases v with
  | bool b =>
    constructor
    · intro hEq
      cases hEq
      exact ⟨b, rfl, rfl⟩
    · rintro ⟨_, hEq, rfl⟩
      cases hEq
      rfl
  | _ => simp

theorem readMember_operator (hHead : key.toList.head? = some '$')
    (hKey : ∀ c : Connective, key ≠ c.key) :
    readMember t key v = .error (.unknownOperator key) := by
  have hNegate : key ≠ negateKey := by
    rintro rfl
    exact absurd hHead (by decide)
  rw [readMember.eq_def, if_neg (hKey .all), if_neg (hKey .any), if_neg hNegate, if_pos hHead]

theorem readMember_field (h : IsFieldKey key) :
    readMember t key v = (readField t key v).map .predicate := by
  rw [readMember.eq_def, if_neg (h.ne_key .all), if_neg (h.ne_key .any), if_neg h.1, if_neg h.2]

/-- A predicate is a group or says something about a field. -/
theorem readMember_eq_predicate_iff :
    readMember t key v = .ok (.predicate e) ↔
      (∃ c : Connective, key = c.key ∧ readGroup t c v = .ok e) ∨
        (IsFieldKey key ∧ readField t key v = .ok e) := by
  rcases key_cases key with ⟨c, rfl⟩ | rfl | ⟨hHead, hKey⟩ | hField
  · rw [readMember_key, map_eq_ok_iff]
    constructor
    · rintro ⟨x, hx, hEq⟩
      cases hEq
      exact .inl ⟨c, rfl, hx⟩
    · rintro (⟨d, hEq, hx⟩ | ⟨hField, -⟩)
      · cases Connective.key_injective hEq
        exact ⟨e, hx, rfl⟩
      · exact absurd rfl (hField.ne_key c)
  · rw [readMember_negateKey_eq_ok_iff]
    constructor
    · rintro ⟨b, -, hEq⟩
      cases hEq
    · rintro (⟨c, hEq, -⟩ | ⟨hField, -⟩)
      · exact absurd hEq.symm c.key_ne_negateKey
      · exact absurd rfl hField.1
  · rw [readMember_operator hHead hKey]
    constructor
    · intro hEq
      cases hEq
    · rintro (⟨c, hEq, -⟩ | ⟨hField, -⟩)
      · exact absurd hEq (hKey c)
      · exact absurd hHead hField.2
  · rw [readMember_field hField, map_eq_ok_iff]
    constructor
    · rintro ⟨x, hx, hEq⟩
      cases hEq
      exact .inr ⟨hField, hx⟩
    · rintro (⟨c, hEq, -⟩ | ⟨-, hx⟩)
      · exact absurd hEq (hField.ne_key c)
      · exact ⟨e, hx, rfl⟩

/-! ### Groups and objects -/

theorem readGroup_eq_ok_iff :
    readGroup t c v = .ok e ↔
      ∃ items es, v = .array items ∧ items ≠ [] ∧ readItems t c items = .ok es ∧
        e = .group c es := by
  cases v with
  | array items =>
    cases items with
    | nil => simp [readGroup]
    | cons first rest =>
      rw [readGroup, map_eq_ok_iff]
      · constructor
        · rintro ⟨es, hes, rfl⟩
          exact ⟨_, es, rfl, List.cons_ne_nil _ _, hes, rfl⟩
        · rintro ⟨_, es, hEq, -, hes, rfl⟩
          cases hEq
          exact ⟨es, hes, rfl⟩
      · exact List.cons_ne_nil _ _
  | _ => simp [readGroup]

theorem readItems_eq_ok_iff {items : List Json} {es : List Expression} :
    readItems t c items = .ok es ↔
      List.Forall₂ (fun v e => ∃ members, v = .object members ∧
        readObject t c.key members = .ok e) items es := by
  induction items generalizing es with
  | nil => simp [readItems, eq_comm]
  | cons v rest ih =>
    rw [List.forall₂_cons_left_iff]
    cases v with
    | object members =>
      simp only [readItems, bind_eq_ok_iff, ih]
      constructor
      · rintro ⟨x, hx, xs, hxs, hEq⟩
        cases hEq
        exact ⟨x, xs, ⟨members, rfl, hx⟩, hxs, rfl⟩
      · rintro ⟨x, xs, ⟨_, hEq, hx⟩, hxs, rfl⟩
        cases hEq
        exact ⟨x, hx, xs, hxs, rfl⟩
    | _ => simp [readItems]

theorem readMembers_eq_ok_iff {members : List (String × Json)} {read : List Member} :
    readMembers t members = .ok read ↔
      List.Forall₂ (fun m r => readMember t m.1 m.2 = .ok r) members read := by
  induction members generalizing read with
  | nil => simp [readMembers, eq_comm]
  | cons m rest ih =>
    obtain ⟨key, v⟩ := m
    rw [List.forall₂_cons_left_iff]
    simp only [readMembers, bind_eq_ok_iff, ih]
    constructor
    · rintro ⟨x, hx, xs, hxs, hEq⟩
      cases hEq
      exact ⟨x, xs, hx, hxs, rfl⟩
    · rintro ⟨x, xs, hx, hxs, rfl⟩
      exact ⟨x, hx, xs, hxs, rfl⟩

theorem Member.combine_eq_ok_iff {read : List Member} :
    Member.combine location read = .ok e ↔
      ∃ body, Expression.joinFlat .all (Member.predicates read) = some body ∧
        e = if Member.negated read then .not body else body := by
  unfold Member.combine
  cases Expression.joinFlat .all (Member.predicates read) with
  | none => simp
  | some body =>
    constructor
    · intro hEq
      cases hEq
      exact ⟨body, rfl, rfl⟩
    · rintro ⟨_, hEq, rfl⟩
      cases hEq
      rfl

theorem readObject_eq_ok_iff {members : List (String × Json)} :
    readObject t location members = .ok e ↔
      ∃ read, readMembers t members = .ok read ∧ Member.combine location read = .ok e := by
  cases members with
  | nil => simp [readObject, readMembers, Member.combine, Member.predicates, Expression.joinFlat]
  | cons m ms => rw [readObject, bind_eq_ok_iff]

theorem ofJson_eq_ok_iff :
    ofJson t v = .ok e ↔
      ∃ members, v = .object members ∧ readObject t topLocation members = .ok e := by
  cases v with
  | object members => simp [ofJson]
  | _ => simp [ofJson]

/-! ### Fields -/

theorem FieldTable.resolve_eq_ok_iff {d : FieldDef} :
    t.resolve key = .ok d ↔ t.get? key = some d := by
  unfold resolve
  cases t.get? key <;> simp

theorem readLiterals_eq_ok_iff {d : FieldDef} {values : List Json} {ls : List Literal} :
    readLiterals d key values = .ok ls ↔
      List.Forall₂ (fun v l => d.literal? v = some l) values ls := by
  induction values generalizing ls with
  | nil => simp [readLiterals, eq_comm]
  | cons v rest ih =>
    rw [List.forall₂_cons_left_iff]
    simp only [readLiterals, bind_eq_ok_iff, FieldDef.literal_eq_ok_iff, ih]
    constructor
    · rintro ⟨x, hx, xs, hxs, hEq⟩
      cases hEq
      exact ⟨x, xs, hx, hxs, rfl⟩
    · rintro ⟨x, xs, hx, hxs, rfl⟩
      exact ⟨x, hx, xs, hxs, rfl⟩

theorem readOperand_cons_eq_ok_iff {d : FieldDef} {found r : Option Expression} {op : String}
    {rest : List (String × Json)} :
    readOperand d key found ((op, v) :: rest) = .ok r ↔
      op = inKey ∧ ∃ items ls, v = .array items ∧ readLiterals d key items = .ok ls ∧
        readOperand d key (Expression.oneOf d.target ls) rest = .ok r := by
  rw [readOperand.eq_def]
  by_cases hOp : op = inKey
  · cases v with
    | array items => simp [hOp, bind_eq_ok_iff]
    | _ => simp [hOp]
  · simp [hOp, bind_eq_ok_iff]

/-- An operand gives what was found before it, or a choice among literals that the field admits. -/
theorem readOperand_eq_some {d : FieldDef} {found : Option Expression}
    {operand : List (String × Json)} (h : readOperand d key found operand = .ok (some e)) :
    found = some e ∨ ∃ ls, (∀ l ∈ ls, d.Admits l) ∧ Expression.oneOf d.target ls = some e := by
  induction operand generalizing found with
  | nil =>
    cases h
    exact .inl rfl
  | cons m rest ih =>
    obtain ⟨op, values⟩ := m
    obtain ⟨-, items, ls, rfl, hls, h⟩ := readOperand_cons_eq_ok_iff.mp h
    rcases ih h with hFound | hLater
    · refine .inr ⟨ls, ?_, hFound⟩
      intro l hl
      obtain ⟨v, -, hv⟩ := exists_left_of_mem (readLiterals_eq_ok_iff.mp hls) hl
      exact FieldDef.admits_of_literal? hv
    · exact .inr hLater

/-! ### The shape of what is read -/

/-- The attribute belongs to a field of the table that admits the literal. -/
def FieldTable.Describes (t : FieldTable) (name : String) (l : Option Literal) : Prop :=
  ∃ d ∈ t, d.target = name ∧ ∀ x ∈ l, d.Admits x

theorem sound_of_joinFlat {asks : String → Option Literal → Prop} {es : List Expression}
    (h : Expression.joinFlat c es = some e) (hes : ∀ x ∈ es, x.Sound asks) : e.Sound asks := by
  match es with
  | [] => cases h
  | [x] =>
    cases h
    exact hes _ List.mem_cons_self
  | x :: y :: rest =>
    cases h
    exact .group (List.cons_ne_nil _ _) hes

theorem sound_of_oneOf {asks : String → Option Literal → Prop} {name : String}
    {ls : List Literal} (h : Expression.oneOf name ls = some e)
    (hls : ∀ l ∈ ls, asks name (some l)) : e.Sound asks := by
  refine sound_of_joinFlat h ?_
  intro x hx
  obtain ⟨l, hl, rfl⟩ := List.mem_map.mp hx
  exact .equals (hls l hl)

theorem FieldTable.mem_of_get? {d : FieldDef} (h : t.get? key = some d) : d ∈ t :=
  List.mem_of_find?_eq_some h

theorem sound_of_readField (h : readField t key v = .ok e) : e.Sound t.Describes := by
  rw [readField, bind_eq_ok_iff] at h
  obtain ⟨d, hd, h⟩ := h
  have hMem := FieldTable.mem_of_get? (FieldTable.resolve_eq_ok_iff.mp hd)
  split at h
  case h_1 =>
    cases h
    exact .isNull ⟨d, hMem, rfl, by simp⟩
  case h_2 => cases h
  case h_3 =>
    obtain ⟨found, hFound, h⟩ := bind_eq_ok_iff.mp h
    split at h
    · cases h
      rcases readOperand_eq_some hFound with hNone | ⟨ls, hls, hOne⟩
      · cases hNone
      · exact sound_of_oneOf hOne fun l hl => ⟨d, hMem, rfl, by simpa using hls l hl⟩
    · cases h
  case h_4 =>
    obtain ⟨l, hl, h⟩ := bind_eq_ok_iff.mp h
    cases h
    have hAdmits := FieldDef.admits_of_literal? (FieldDef.literal_eq_ok_iff.mp hl)
    exact .equals ⟨d, hMem, rfl, by simpa using hAdmits⟩

theorem mem_predicates {read : List Member} : e ∈ Member.predicates read ↔ .predicate e ∈ read := by
  rw [Member.predicates, List.mem_filterMap]
  constructor
  · rintro ⟨m, hm, hEq⟩
    cases m with
    | predicate x =>
      cases hEq
      exact hm
    | negation b => cases hEq
  · intro hm
    exact ⟨_, hm, rfl⟩

theorem sound_of_readObject {members : List (String × Json)}
    (h : readObject t location members = .ok e)
    (hMembers : ∀ m ∈ members, ∀ x, readMember t m.1 m.2 = .ok (.predicate x) →
      x.Sound t.Describes) : e.Sound t.Describes := by
  obtain ⟨read, hRead, hCombine⟩ := readObject_eq_ok_iff.mp h
  obtain ⟨body, hBody, rfl⟩ := Member.combine_eq_ok_iff.mp hCombine
  have hSound : body.Sound t.Describes := by
    refine sound_of_joinFlat hBody ?_
    intro x hx
    obtain ⟨m, hm, hx⟩ := exists_left_of_mem (readMembers_eq_ok_iff.mp hRead) (mem_predicates.mp hx)
    exact hMembers m hm x hx
  split
  · exact .not hSound
  · exact hSound

/-- Induction on the value. Its members and its items are smaller, but what is read under a key is
not, so both are said of every value at once. -/
theorem sound_of_readMember (v : Json) :
    (∀ key e, readMember t key v = .ok (.predicate e) → e.Sound t.Describes) ∧
      ∀ location members e, v = .object members → readObject t location members = .ok e →
        e.Sound t.Describes := by
  induction v with
  | array items ih =>
    refine ⟨?_, by rintro _ _ _ ⟨⟩⟩
    intro key e h
    rcases readMember_eq_predicate_iff.mp h with ⟨c, rfl, hGroup⟩ | ⟨-, hField⟩
    · obtain ⟨_, es, hItems, hne, hes, rfl⟩ := readGroup_eq_ok_iff.mp hGroup
      cases hItems
      have hAll := readItems_eq_ok_iff.mp hes
      refine .group ?_ ?_
      · rintro rfl
        exact hne (List.forall₂_nil_right_iff.mp hAll)
      · intro x hx
        obtain ⟨v, hv, members, hObject, hRead⟩ := exists_left_of_mem hAll hx
        exact (ih v hv).2 _ members x hObject hRead
    · exact sound_of_readField hField
  | object members ih =>
    constructor
    · intro key e h
      rcases readMember_eq_predicate_iff.mp h with ⟨c, rfl, hGroup⟩ | ⟨-, hField⟩
      · obtain ⟨_, _, hItems, -⟩ := readGroup_eq_ok_iff.mp hGroup
        cases hItems
      · exact sound_of_readField hField
    · rintro location _ e ⟨⟩ h
      exact sound_of_readObject h fun m hm x hx => (ih m hm).1 _ x hx
  | _ =>
    refine ⟨?_, by rintro _ _ _ ⟨⟩⟩
    intro key e h
    rcases readMember_eq_predicate_iff.mp h with ⟨c, rfl, hGroup⟩ | ⟨-, hField⟩
    · obtain ⟨_, _, hItems, -⟩ := readGroup_eq_ok_iff.mp hGroup
      cases hItems
    · exact sound_of_readField hField

theorem sound_of_ofJson (h : ofJson t v = .ok e) : e.Sound t.Describes := by
  obtain ⟨members, rfl, hRead⟩ := ofJson_eq_ok_iff.mp h
  exact (sound_of_readMember _).2 _ members e rfl hRead

theorem sound_of_parse {s : String} (h : parse t s = .ok (some e)) : e.Sound t.Describes := by
  unfold parse at h
  split at h
  · cases h
  · split at h
    · cases h
    · obtain ⟨x, hx, hEq⟩ := map_eq_ok_iff.mp h
      cases hEq
      exact sound_of_ofJson hx

theorem parse_eq_ok_none_iff {s : String} :
    parse t s = .ok none ↔ ∀ c ∈ s.toList, Text.isBlank c = true := by
  rw [← Text.trim_eq_nil_iff]
  unfold parse
  split
  · simp_all
  · split
    · simp_all
    · simp_all [map_eq_ok_iff]

end Worklist.Filter
