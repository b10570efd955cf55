import Worklist.Proofs.Filter.Reading
import Worklist.Proofs.Json.Keys

/-!
# The grammar of filters

Which values are filters, said without the reader, and which expression each of them says. The
reader accepts exactly the filters and gives what they say.

A filter is an object with at least one predicate. Its predicates are groups of filters and members
that ask for a field; besides them it may have a negation mark. Keys differ, as they do in every
value that is read from a text.
-/

namespace Worklist.Filter

variable {t : FieldTable} {d : FieldDef} {key location : String} {v : Json} {e : Expression}
  {c : Connective} {members : List (String × Json)}

/-! ### Filters -/

/-- A value that a filter may give for the field: null, a literal, or a list of literals. -/
def FieldDef.Takes (d : FieldDef) (key : String) (v : Json) : Prop :=
  v = .null ∨ (∃ l, d.literal key v = .ok l) ∨
    ∃ values, v = .object [(inKey, .array values)] ∧ values ≠ [] ∧
      ∀ x ∈ values, ∃ l, d.literal key x = .ok l

mutual

/-- The value is a filter. -/
inductive IsFilter (t : FieldTable) : Json → Prop where
  | object {members : List (String × Json)} : (∃ m ∈ members, m.1 ≠ negateKey) →
      (∀ m ∈ members, IsMember t m.1 m.2) → IsFilter t (.object members)

/-- The member may stand in a filter. -/
inductive IsMember (t : FieldTable) : String → Json → Prop where
  | group (c : Connective) {items : List Json} : items ≠ [] → (∀ v ∈ items, IsFilter t v) →
      IsMember t c.key (.array items)
  | mark (b : Bool) : IsMember t negateKey (.bool b)
  | field {key : String} {v : Json} {d : FieldDef} : IsFieldKey key → t.get? key = some d →
      d.Takes key v → IsMember t key v

end

/-! ### What filters say -/

/-- What several expressions say together: a single one says what it says, and more than one are
the members of a group. -/
inductive Together (c : Connective) : List Expression → Expression → Prop where
  | one (e : Expression) : Together c [e] e
  | group (e e' : Expression) (more : List Expression) :
      Together c (e :: e' :: more) (.group c (e :: e' :: more))

/-- What a value given for a field says of the field's attribute. A list of values says that one of
them is the attribute's. -/
inductive FieldDef.Says (d : FieldDef) (key : String) : Json → Expression → Prop where
  | null : Says d key .null (.isNull d.target)
  | literal {v : Json} {l : Literal} : d.literal key v = .ok l → Says d key v (.equals d.target l)
  | oneOf {values : List Json} {ls : List Literal} {e : Expression} :
      List.Forall₂ (fun v l => d.literal key v = .ok l) values ls →
      Together .any (ls.map (.equals d.target)) e → Says d key (.object [(inKey, .array values)]) e

/-- The members have a mark with this value, or no mark, which is as good as one that is not set. -/
def Marks (members : List (String × Json)) (mark : Bool) : Prop :=
  (negateKey, .bool mark) ∈ members ∨ mark = false ∧ ∀ m ∈ members, m.1 ≠ negateKey

/-- The members that are predicates, in order. -/
def predicateMembers (members : List (String × Json)) : List (String × Json) :=
  members.filter (·.1 ≠ negateKey)

mutual

/-- The value is a filter that says `e`: its one predicate, or all of them together, negated if the
mark is set. -/
inductive Says (t : FieldTable) : Json → Expression → Prop where
  | object {members : List (String × Json)} {nodes : List Expression} {body : Expression}
      {mark : Bool} : Marks members mark →
      List.Forall₂ (NodeOf t) (predicateMembers members) nodes → Together .all nodes body →
      Says t (.object members) (if mark then .not body else body)

/-- The member is a predicate whose node is `e`. -/
inductive NodeOf (t : FieldTable) : String × Json → Expression → Prop where
  | group (c : Connective) {items : List Json} {nodes : List Expression} : items ≠ [] →
      List.Forall₂ (Says t) items nodes → NodeOf t (c.key, .array items) (.group c nodes)
  | field {key : String} {v : Json} {d : FieldDef} {e : Expression} : IsFieldKey key →
      t.get? key = some d → d.Says key v e → NodeOf t (key, v) e

end

/-! ### Saying together -/

theorem together_iff {es : List Expression} :
    Together c es e ↔ Expression.joinFlat c es = some e := by
  constructor
  · intro h
    cases h with
    | one => rfl
    | group => rfl
  · intro h
    match es with
    | [] => cases h
    | [x] =>
      cases h
      exact .one e
    | x :: y :: more =>
      cases h
      exact .group x y more

theorem exists_together_iff {es : List Expression} : (∃ e, Together c es e) ↔ es ≠ [] := by
  simp only [together_iff, ← Option.isSome_iff_exists, Option.isSome_iff_ne_none, ne_eq,
    Expression.joinFlat_eq_none_iff]

/-! ### Fields -/

theorem FieldDef.literal?_null : d.literal? .null = none := by
  unfold literal?
  split <;> simp_all

theorem FieldDef.literal?_object : d.literal? (.object members) = none := by
  unfold literal?
  split <;> simp_all

/-- An operand is one list of values, since no key stands in it twice. -/
theorem readOperand_eq_some_iff {operand : List (String × Json)}
    (hKeys : (operand.map (·.1)).Nodup) :
    readOperand d key none operand = .ok (some e) ↔
      ∃ values ls, operand = [(inKey, .array values)] ∧
        List.Forall₂ (fun v l => d.literal key v = .ok l) values ls ∧
        Expression.oneOf d.target ls = some e := by
  have hLiterals : ∀ {values ls}, readLiterals d key values = .ok ls ↔
      List.Forall₂ (fun v l => d.literal key v = .ok l) values ls := by
    intro values ls
    simp only [readLiterals_eq_ok_iff, FieldDef.literal_eq_ok_iff]
  match operand with
  | [] => simp [readOperand]
  | [(op, value)] =>
    rw [readOperand_cons_eq_ok_iff]
    constructor
    · rintro ⟨rfl, values, ls, rfl, hls, hOne⟩
      exact ⟨values, ls, rfl, hLiterals.mp hls, Except.ok.inj hOne⟩
    · rintro ⟨values, ls, hEq, hls, hOne⟩
      cases hEq
      exact ⟨rfl, values, ls, rfl, hLiterals.mpr hls, congrArg _ hOne⟩
  | (op, value) :: (op', value') :: rest =>
    constructor
    · intro h
      obtain ⟨hOp, _, _, _, _, hRest⟩ := readOperand_cons_eq_ok_iff.mp h
      obtain ⟨hOp', -⟩ := readOperand_cons_eq_ok_iff.mp hRest
      rw [hOp, hOp', List.map_cons, List.map_cons] at hKeys
      exact absurd List.mem_cons_self (List.nodup_cons.mp hKeys).1
    · rintro ⟨values, ls, hEq, -⟩
      cases hEq

theorem readField_eq_ok_iff (hv : v.Keyed) :
    readField t key v = .ok e ↔ ∃ d, t.get? key = some d ∧ d.Says key v e := by
  rw [readField, bind_eq_ok_iff]
  refine exists_congr fun d => and_congr FieldTable.resolve_eq_ok_iff ?_
  have hLiteral : (do
      let l ← d.literal key v
      return Expression.equals d.target l) = .ok e ↔
      ∃ l, d.literal key v = .ok l ∧ .equals d.target l = e := by
    simp only [bind_eq_ok_iff, pure, Except.pure, Except.ok.injEq]
  split
  case h_1 =>
    constructor
    · rintro ⟨⟩
      exact .null
    · intro h
      cases h with
      | null => rfl
      | literal hl => simp [FieldDef.literal_eq_ok_iff, FieldDef.literal?_null] at hl
  case h_2 =>
    constructor
    · rintro ⟨⟩
    · intro h
      cases h with
      | literal hl => simp [FieldDef.literal_eq_ok_iff, FieldDef.literal?_object] at hl
  case h_3 operand hne =>
    cases hv with
    | object hKeys =>
      constructor
      · intro h
        obtain ⟨found, hFound, h⟩ := bind_eq_ok_iff.mp h
        split at h
        · cases h
          obtain ⟨values, ls, rfl, hls, hOne⟩ := (readOperand_eq_some_iff hKeys).mp hFound
          exact .oneOf hls (together_iff.mpr hOne)
        · cases h
      · intro h
        cases h with
        | literal hl => simp [FieldDef.literal_eq_ok_iff, FieldDef.literal?_object] at hl
        | oneOf hls hOne =>
          have hFound := (readOperand_eq_some_iff hKeys).mpr ⟨_, _, rfl, hls, together_iff.mp hOne⟩
          rw [hFound]
          rfl
  case h_4 hNull hEmpty hObject =>
    rw [hLiteral]
    constructor
    · rintro ⟨l, hl, rfl⟩
      exact .literal hl
    · intro h
      cases h with
      | null => exact absurd rfl hNull
      | literal hl => exact ⟨_, hl, rfl⟩
      | oneOf => exact absurd rfl (hObject _)

/-! ### Marks -/

theorem mem_predicateMembers {m : String × Json} :
    m ∈ predicateMembers members ↔ m ∈ members ∧ m.1 ≠ negateKey := by
  simp [predicateMembers]

theorem Marks.eq_bool {mark : Bool} (hKeys : (members.map (·.1)).Nodup) (h : Marks members mark)
    (hMem : (negateKey, v) ∈ members) : v = .bool mark := by
  rcases h with h | ⟨-, hNone⟩
  · have hEq := Json.eq_of_mem_of_key_eq hKeys hMem h rfl
    exact congrArg Prod.snd hEq
  · exact absurd rfl (hNone _ hMem)

theorem Marks.unique {a b : Bool} (hKeys : (members.map (·.1)).Nodup) (ha : Marks members a)
    (hb : Marks members b) : a = b := by
  rcases ha with hMem | ⟨rfl, hNone⟩
  · have hEq := hb.eq_bool hKeys hMem
    cases hEq
    rfl
  · rcases hb with hMem | ⟨rfl, -⟩
    · exact absurd rfl (hNone _ hMem)
    · rfl

theorem exists_marks (h : ∀ v, (negateKey, v) ∈ members → ∃ b, v = .bool b) :
    ∃ mark, Marks members mark := by
  by_cases hMark : ∃ v, (negateKey, v) ∈ members
  · obtain ⟨v, hv⟩ := hMark
    obtain ⟨b, rfl⟩ := h v hv
    exact ⟨b, .inl hv⟩
  · refine ⟨false, .inr ⟨rfl, ?_⟩⟩
    rintro ⟨key, v⟩ hm rfl
    exact hMark ⟨v, hm⟩

/-! ### Objects -/

/-- A member is the negation mark or a predicate. -/
theorem readMember_eq_ok_iff {r : Member} :
    readMember t key v = .ok r ↔
      (key = negateKey ∧ ∃ b, v = .bool b ∧ r = .negation b) ∨
        (key ≠ negateKey ∧ ∃ e, r = .predicate e ∧ readMember t key v = .ok (.predicate e)) := by
  by_cases hKey : key = negateKey
  · subst hKey
    simp [readMember_negateKey_eq_ok_iff]
  · cases r with
    | predicate e => simp [hKey]
    | negation b =>
      have hNot : readMember t key v ≠ .ok (.negation b) := by
        rcases key_cases key with ⟨c, rfl⟩ | rfl | ⟨hHead, hNone⟩ | hField
        · rw [readMember_key, Ne, map_eq_ok_iff]
          rintro ⟨x, -, hEq⟩
          cases hEq
        · exact absurd rfl hKey
        · rw [readMember_operator hHead hNone]
          rintro ⟨⟩
        · rw [readMember_field hField, Ne, map_eq_ok_iff]
          rintro ⟨x, -, hEq⟩
          cases hEq
      simp [hKey, hNot]

/-- The last mark among the members that were read is the mark of the object. -/
theorem marks_of_read {read : List Member} (mark : Bool)
    (h : List.Forall₂ (fun m r => readMember t m.1 m.2 = .ok r) members read) :
    let last := read.foldl (fun b m => match m with
      | .predicate _ => b
      | .negation mark => mark) mark
    (negateKey, .bool last) ∈ members ∨ last = mark ∧ ∀ m ∈ members, m.1 ≠ negateKey := by
  induction h generalizing mark with
  | nil => exact .inr ⟨rfl, fun _ hm => nomatch hm⟩
  | @cons m r members read hm _ ih =>
    obtain ⟨key, v⟩ := m
    rcases readMember_eq_ok_iff.mp hm with ⟨rfl, b, rfl, rfl⟩ | ⟨hKey, e, rfl, -⟩
    · rcases ih b with hLast | ⟨hLast, -⟩
      · exact .inl (List.mem_cons_of_mem _ hLast)
      · left
        rw [List.foldl_cons, hLast]
        exact List.mem_cons_self
    · rcases ih mark with hLast | ⟨hLast, hNone⟩
      · exact .inl (List.mem_cons_of_mem _ hLast)
      · exact .inr ⟨hLast, List.forall_mem_cons.mpr ⟨hKey, hNone⟩⟩

theorem forall₂_predicates {read : List Member}
    (h : List.Forall₂ (fun m r => readMember t m.1 m.2 = .ok r) members read) :
    List.Forall₂ (fun m e => readMember t m.1 m.2 = .ok (.predicate e))
      (predicateMembers members) (Member.predicates read) := by
  induction h with
  | nil => exact .nil
  | @cons m r members read hm _ ih =>
    rcases readMember_eq_ok_iff.mp hm with ⟨hKey, b, -, rfl⟩ | ⟨hKey, e, rfl, he⟩
    · rw [predicateMembers, List.filter_cons_of_neg (by simpa using hKey)]
      exact ih
    · rw [predicateMembers, List.filter_cons_of_pos (by simpa using hKey)]
      exact .cons he ih

theorem exists_read {nodes : List Expression}
    (hMarks : ∀ v, (negateKey, v) ∈ members → ∃ b, v = .bool b)
    (h : List.Forall₂ (fun m e => readMember t m.1 m.2 = .ok (.predicate e))
      (predicateMembers members) nodes) :
    ∃ read, List.Forall₂ (fun m r => readMember t m.1 m.2 = .ok r) members read ∧
      Member.predicates read = nodes := by
  induction members generalizing nodes with
  | nil =>
    cases h
    exact ⟨[], .nil, rfl⟩
  | cons m rest ih =>
    obtain ⟨key, v⟩ := m
    have hRest := fun v hv => hMarks v (List.mem_cons_of_mem _ hv)
    by_cases hKey : key = negateKey
    · subst hKey
      obtain ⟨b, rfl⟩ := hMarks v List.mem_cons_self
      obtain ⟨read, hRead, hNodes⟩ := ih hRest (by simpa [predicateMembers] using h)
      exact ⟨.negation b :: read,
        .cons (readMember_negateKey_eq_ok_iff.mpr ⟨b, rfl, rfl⟩) hRead, hNodes⟩
    · have hSplit : predicateMembers ((key, v) :: rest) = (key, v) :: predicateMembers rest := by
        simp [predicateMembers, hKey]
      rw [hSplit] at h
      cases h with
      | cons he hNodes =>
        obtain ⟨read, hRead, rfl⟩ := ih hRest hNodes
        exact ⟨.predicate _ :: read, .cons he hRead, rfl⟩

theorem readObject_says_iff (hKeys : (members.map (·.1)).Nodup)
    (hNodes : ∀ m ∈ members, ∀ e, readMember t m.1 m.2 = .ok (.predicate e) ↔ NodeOf t m e) :
    readObject t location members = .ok e ↔ Says t (.object members) e := by
  have hCongr : ∀ nodes, List.Forall₂ (fun m e => readMember t m.1 m.2 = .ok (.predicate e))
      (predicateMembers members) nodes ↔ List.Forall₂ (NodeOf t) (predicateMembers members) nodes :=
    fun nodes => forall₂_congr_of_mem fun m hm => hNodes m (mem_predicateMembers.mp hm).1
  rw [readObject_eq_ok_iff]
  constructor
  · rintro ⟨read, hRead, hCombine⟩
    have hForall := readMembers_eq_ok_iff.mp hRead
    obtain ⟨body, hBody, rfl⟩ := Member.combine_eq_ok_iff.mp hCombine
    exact .object (marks_of_read false hForall)
      ((hCongr _).mp (forall₂_predicates hForall)) (together_iff.mpr hBody)
  · intro h
    cases h with
    | @object _ nodes body mark hMark hForall hBody =>
      obtain ⟨read, hRead, rfl⟩ :=
        exists_read (fun v hv => ⟨mark, hMark.eq_bool hKeys hv⟩) ((hCongr _).mpr hForall)
      have hNegated := (hMark.unique hKeys (marks_of_read false hRead) : mark = Member.negated read)
      refine ⟨read, readMembers_eq_ok_iff.mpr hRead, Member.combine_eq_ok_iff.mpr ?_⟩
      exact ⟨body, together_iff.mp hBody, by rw [hNegated]⟩

/-! ### The reader and what filters say -/

theorem nodeOf_iff :
    NodeOf t (key, v) e ↔
      (∃ c : Connective, key = c.key ∧ ∃ items nodes, v = .array items ∧ items ≠ [] ∧
        List.Forall₂ (Says t) items nodes ∧ e = .group c nodes) ∨
      (IsFieldKey key ∧ ∃ d, t.get? key = some d ∧ d.Says key v e) := by
  constructor
  · intro h
    cases h with
    | group c hne hNodes => exact .inl ⟨c, rfl, _, _, rfl, hne, hNodes, rfl⟩
    | field hKey hd hSays => exact .inr ⟨hKey, _, hd, hSays⟩
  · rintro (⟨c, rfl, items, nodes, rfl, hne, hNodes, rfl⟩ | ⟨hKey, d, hd, hSays⟩)
    · exact .group c hne hNodes
    · exact .field hKey hd hSays

theorem readMember_iff_nodeOf (hv : v.Keyed)
    (hItems : ∀ items, v = .array items → ∀ x ∈ items, ∀ location e,
      (∃ members, x = .object members ∧ readObject t location members = .ok e) ↔ Says t x e) :
    readMember t key v = .ok (.predicate e) ↔ NodeOf t (key, v) e := by
  rw [readMember_eq_predicate_iff, nodeOf_iff]
  refine or_congr (exists_congr fun c => and_congr_right fun _ => ?_)
    (and_congr_right fun _ => readField_eq_ok_iff hv)
  rw [readGroup_eq_ok_iff]
  refine exists_congr fun items => exists_congr fun nodes => and_congr_right fun hEq =>
    and_congr_right fun _ => and_congr_left fun _ => ?_
  rw [readItems_eq_ok_iff]
  exact forall₂_congr_of_mem fun x hx => hItems items hEq x hx c.key

/-- Induction on the value: what is read under a key depends on the items and members of the value,
so members and objects are spoken of at once. -/
theorem reads_says_iff (v : Json) (hv : v.Keyed) :
    (∀ key e, readMember t key v = .ok (.predicate e) ↔ NodeOf t (key, v) e) ∧
      ∀ location e, (∃ members, v = .object members ∧ readObject t location members = .ok e) ↔
        Says t v e := by
  induction v with
  | array items ih =>
    cases hv with
    | array hKeyed =>
      refine ⟨fun key e => readMember_iff_nodeOf (.array hKeyed) ?_, ?_⟩
      · rintro _ ⟨⟩ x hx
        exact (ih x hx (hKeyed x hx)).2
      · intro location e
        exact ⟨fun ⟨_, h, _⟩ => (nomatch h), fun h => (nomatch h)⟩
  | object members ih =>
    cases hv with
    | object hKeys hKeyed =>
      refine ⟨fun key e => readMember_iff_nodeOf (.object hKeys hKeyed) ?_, ?_⟩
      · rintro _ ⟨⟩
      · intro location e
        rw [← readObject_says_iff hKeys fun m hm => (ih m hm (hKeyed m hm)).1 m.1]
        constructor
        · rintro ⟨_, ⟨⟩, h⟩
          exact h
        · intro h
          exact ⟨members, rfl, h⟩
  | _ =>
    refine ⟨fun key e => readMember_iff_nodeOf hv ?_, ?_⟩
    · rintro _ ⟨⟩
    · intro location e
      exact ⟨fun ⟨_, h, _⟩ => (nomatch h), fun h => (nomatch h)⟩

theorem ofJson_says_iff (hv : v.Keyed) : ofJson t v = .ok e ↔ Says t v e := by
  rw [ofJson_eq_ok_iff]
  exact (reads_says_iff v hv).2 topLocation e

/-! ### Filters and what they say -/

theorem FieldDef.exists_says_iff : (∃ e, d.Says key v e) ↔ d.Takes key v := by
  constructor
  · rintro ⟨e, h⟩
    cases h with
    | null => exact .inl rfl
    | literal hl => exact .inr (.inl ⟨_, hl⟩)
    | @oneOf values ls e hls hOne =>
      refine .inr (.inr ⟨values, rfl, ?_, exists_forall₂_iff.mp ⟨ls, hls⟩⟩)
      rintro rfl
      cases hls
      exact exists_together_iff.mp ⟨e, hOne⟩ rfl
  · rintro (rfl | ⟨l, hl⟩ | ⟨values, rfl, hne, hValues⟩)
    · exact ⟨_, .null⟩
    · exact ⟨_, .literal hl⟩
    · obtain ⟨ls, hls⟩ := exists_forall₂_iff.mpr hValues
      have hNodes : ls.map (Expression.equals d.target) ≠ [] := by
        rintro hNil
        rw [List.map_eq_nil_iff.mp hNil, List.forall₂_nil_right_iff] at hls
        exact hne hls
      obtain ⟨e, hOne⟩ := exists_together_iff.mpr hNodes
      exact ⟨e, .oneOf hls hOne⟩

theorem isMember_iff :
    IsMember t key v ↔
      (∃ c : Connective, key = c.key ∧ ∃ items, v = .array items ∧ items ≠ [] ∧
        ∀ x ∈ items, IsFilter t x) ∨
      (key = negateKey ∧ ∃ b, v = .bool b) ∨
      (IsFieldKey key ∧ ∃ d, t.get? key = some d ∧ d.Takes key v) := by
  constructor
  · intro h
    cases h with
    | group c hne hItems => exact .inl ⟨c, rfl, _, rfl, hne, hItems⟩
    | mark b => exact .inr (.inl ⟨rfl, b, rfl⟩)
    | field hKey hd hTakes => exact .inr (.inr ⟨hKey, _, hd, hTakes⟩)
  · rintro (⟨c, rfl, items, rfl, hne, hItems⟩ | ⟨rfl, b, rfl⟩ | ⟨hKey, d, hd, hTakes⟩)
    · exact .group c hne hItems
    · exact .mark b
    · exact .field hKey hd hTakes

theorem exists_nodeOf_iff (hKey : key ≠ negateKey)
    (hItems : ∀ items, v = .array items → ∀ x ∈ items, (∃ e, Says t x e) ↔ IsFilter t x) :
    (∃ e, NodeOf t (key, v) e) ↔ IsMember t key v := by
  simp only [nodeOf_iff, isMember_iff, hKey, false_and, false_or, exists_or]
  refine or_congr ?_ ?_
  · constructor
    · rintro ⟨_, c, rfl, items, nodes, rfl, hne, hNodes, rfl⟩
      refine ⟨c, rfl, items, rfl, hne, fun x hx => (hItems items rfl x hx).mp ?_⟩
      exact exists_forall₂_iff.mp ⟨nodes, hNodes⟩ x hx
    · rintro ⟨c, rfl, items, rfl, hne, hFilters⟩
      have hSay := fun x hx => (hItems items rfl x hx).mpr (hFilters x hx)
      obtain ⟨nodes, hNodes⟩ := exists_forall₂_iff.mpr hSay
      exact ⟨_, c, rfl, items, nodes, rfl, hne, hNodes, rfl⟩
  · constructor
    · rintro ⟨e, hField, d, hd, hSays⟩
      exact ⟨hField, d, hd, FieldDef.exists_says_iff.mp ⟨e, hSays⟩⟩
    · rintro ⟨hField, d, hd, hTakes⟩
      obtain ⟨e, hSays⟩ := FieldDef.exists_says_iff.mpr hTakes
      exact ⟨e, hField, d, hd, hSays⟩

theorem exists_says_object_iff (hKeys : (members.map (·.1)).Nodup)
    (hNodes : ∀ m ∈ members, m.1 ≠ negateKey → ((∃ e, NodeOf t m e) ↔ IsMember t m.1 m.2)) :
    (∃ e, Says t (.object members) e) ↔ IsFilter t (.object members) := by
  constructor
  · rintro ⟨e, h⟩
    cases h with
    | @object _ nodes body mark hMark hForall hBody =>
      refine .object ?_ ?_
      · by_contra hNone
        have hNil : predicateMembers members = [] := by
          simpa [predicateMembers] using hNone
        rw [hNil] at hForall
        cases hForall
        exact exists_together_iff.mp ⟨body, hBody⟩ rfl
      · rintro ⟨key, v⟩ hm
        by_cases hKey : key = negateKey
        · subst hKey
          rw [hMark.eq_bool hKeys hm]
          exact .mark mark
        · have hMem := mem_predicateMembers.mpr ⟨hm, hKey⟩
          exact (hNodes _ hm hKey).mp (exists_forall₂_iff.mp ⟨nodes, hForall⟩ _ hMem)
  · intro h
    cases h with
    | object hSome hMembers =>
      have hMarked : ∀ v, (negateKey, v) ∈ members → ∃ b, v = .bool b := by
        intro v hv
        rcases isMember_iff.mp (hMembers _ hv) with ⟨c, hEq, -⟩ | ⟨-, hb⟩ | ⟨hField, -⟩
        · exact absurd hEq.symm c.key_ne_negateKey
        · exact hb
        · exact absurd rfl hField.1
      have hSay : ∀ m ∈ predicateMembers members, ∃ e, NodeOf t m e := by
        intro m hm
        obtain ⟨hMem, hKey⟩ := mem_predicateMembers.mp hm
        exact (hNodes m hMem hKey).mpr (hMembers m hMem)
      obtain ⟨mark, hMark⟩ := exists_marks hMarked
      obtain ⟨nodes, hForall⟩ := exists_forall₂_iff.mpr hSay
      have hNodes : nodes ≠ [] := by
        rintro rfl
        obtain ⟨m, hm, hKey⟩ := hSome
        have hMem := mem_predicateMembers.mpr ⟨hm, hKey⟩
        rw [List.forall₂_nil_right_iff.mp hForall] at hMem
        cases hMem
      obtain ⟨body, hBody⟩ := exists_together_iff.mpr hNodes
      exact ⟨_, .object hMark hForall hBody⟩

/-- A value says something exactly if it is a filter. Induction on the value: the filters of a group
are two steps below its object, so those in a list are spoken of as well. -/
theorem exists_says_iff_and_items (v : Json) (hv : v.Keyed) :
    ((∃ e, Says t v e) ↔ IsFilter t v) ∧
      ∀ items, v = .array items → ∀ x ∈ items, (∃ e, Says t x e) ↔ IsFilter t x := by
  induction v with
  | array items ih =>
    cases hv with
    | array hKeyed =>
      refine ⟨⟨fun ⟨_, h⟩ => (nomatch h), fun h => (nomatch h)⟩, ?_⟩
      rintro _ ⟨⟩ x hx
      exact (ih x hx (hKeyed x hx)).1
  | object members ih =>
    cases hv with
    | object hKeys hKeyed =>
      refine ⟨exists_says_object_iff hKeys fun m hm hKey => ?_, by rintro _ ⟨⟩⟩
      exact exists_nodeOf_iff hKey (ih m hm (hKeyed m hm)).2
  | _ => exact ⟨⟨fun ⟨_, h⟩ => (nomatch h), fun h => (nomatch h)⟩, by rintro _ ⟨⟩⟩

theorem exists_says_iff (hv : v.Keyed) : (∃ e, Says t v e) ↔ IsFilter t v :=
  (exists_says_iff_and_items v hv).1

/-! ### Texts -/

theorem parse_eq_ok_some_iff {s : String} :
    parse t s = .ok (some e) ↔
      ∃ v, Json.parse (Text.trim s.toList) = .ok v ∧ ofJson t v = .ok e := by
  have hNil : Json.parse [] = .error ⟨.endBeforeValue, .start⟩ := by cbv
  unfold parse
  split
  case h_1 hBlank =>
    rw [hBlank]
    simp [hNil]
  case h_2 =>
    cases Json.parse (Text.trim s.toList) with
    | error fault => simp
    | ok v => simp [map_eq_ok_iff]

/-- The reader accepts exactly the filters among the values without repeated keys, and gives what
they say. A text is decoded to such a value; it is no filter at all if it is blank. -/
theorem reader_accepts_exactly_filters (t : FieldTable) :
    (∀ v : Json, v.Keyed → ((∃ e, ofJson t v = .ok e) ↔ IsFilter t v) ∧
      ∀ e, ofJson t v = .ok e ↔ Says t v e) ∧
    ∀ s : String, (parse t s = .ok none ↔ ∀ c ∈ s.toList, Text.isBlank c = true) ∧
      ∀ e, parse t s = .ok (some e) ↔
        ∃ v, Json.parse (Text.trim s.toList) = .ok v ∧ v.Keyed ∧ Says t v e := by
  refine ⟨fun v hv => ⟨?_, fun e => ofJson_says_iff hv⟩, fun s => ⟨parse_eq_ok_none_iff, ?_⟩⟩
  · rw [← exists_says_iff hv]
    exact exists_congr fun e => ofJson_says_iff hv
  · intro e
    rw [parse_eq_ok_some_iff]
    refine exists_congr fun v => and_congr_right fun hParse => ?_
    have hv := Json.keyed_of_parse hParse
    rw [ofJson_says_iff hv]
    exact ⟨fun h => ⟨hv, h⟩, And.right⟩

/-- A table with the labels alone. -/
def labelTable : FieldTable :=
  [⟨["label"], "labels", .text, true⟩]

/-- Neither labelled by one text or exactly by a set of two, nor without any label. -/
def neitherLabels : Json :=
  .object [("negate", .bool true), ("$OR", .array [
    .object [("label", .object [("$IN", .array [.string "ui", .strings ["ui", "api"]])])],
    .object [("labels", .null)]])]

theorem neitherLabels_is_filter :
    neitherLabels.Keyed ∧ IsFilter labelTable neitherLabels ∧
      Says labelTable neitherLabels (.not (.group .any [
        .group .any [.equals "labels" (.text "ui"), .equals "labels" (.texts ["ui", "api"])],
        .isNull "labels"])) := by
  have hValue : (Json.Located.ofJson neitherLabels).value = .ok neitherLabels := by
    cbv
  have hKeyed := Json.Located.keyed_of_value hValue
  obtain ⟨hFilter, hSays⟩ := (reader_accepts_exactly_filters labelTable).1 neitherLabels hKeyed
  have hRead : ofJson labelTable neitherLabels = .ok (.not (.group .any [
      .group .any [.equals "labels" (.text "ui"), .equals "labels" (.texts ["ui", "api"])],
      .isNull "labels"])) := by
    cbv
  exact ⟨hKeyed, hFilter.mp ⟨_, hRead⟩, (hSays _).mp hRead⟩

end Worklist.Filter
