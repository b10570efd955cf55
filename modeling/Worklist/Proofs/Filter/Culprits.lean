import Worklist.Proofs.Filter.Sites

/-!
# Culprits

The error for a refused filter names a key of the filter, save where the filter is no object at all
or its outermost object says nothing. Members and filters are read in order, so the error is the one
of the first that is refused, whatever stands behind it.
-/

namespace Worklist.Filter

variable {t : FieldTable} {d : FieldDef} {key location : String} {v : Json} {err : FilterError}
  {c : Connective} {site : Site} {m : String × Json} {members before after : List (String × Json)}

/-! ### Keys that errors name -/

/-- The key stands in the value, in an object at any depth. -/
inductive KeyWithin (key : String) : Json → Prop where
  | member {members : List (String × Json)} {v : Json} : (key, v) ∈ members →
      KeyWithin key (.object members)
  | inMember {members : List (String × Json)} {m : String × Json} : m ∈ members →
      KeyWithin key m.2 → KeyWithin key (.object members)
  | inItem {items : List Json} {v : Json} : v ∈ items → KeyWithin key v →
      KeyWithin key (.array items)

/-- The error names the key under which the value stands, or one in the value. -/
def Blames (err : FilterError) (key : String) (v : Json) : Prop :=
  ∃ k, err.offendingKey = some k ∧ (k = key ∨ KeyWithin k v)

theorem offendingKey_of_literal (h : d.literal key v = .error err) :
    err.offendingKey = some key := by
  unfold FieldDef.literal at h
  split at h
  · cases h
  · cases h
    rfl

theorem readLiterals_eq_mapM (values : List Json) :
    readLiterals d key values = values.mapM (d.literal key) := by
  induction values with
  | nil => rfl
  | cons v rest ih => rw [readLiterals, ih, List.mapM_cons]

theorem offendingKey_of_readLiterals {values : List Json}
    (h : readLiterals d key values = .error err) : err.offendingKey = some key := by
  rw [readLiterals_eq_mapM, mapM_eq_error_iff] at h
  obtain ⟨_, v, _, -, -, hLiteral⟩ := h
  exact offendingKey_of_literal hLiteral

theorem names_of_readOperand {found : Option Expression} {operand : List (String × Json)}
    (h : readOperand d key found operand = .error err) :
    ∃ k, err.offendingKey = some k ∧ (k = key ∨ ∃ v, (k, v) ∈ operand) := by
  induction operand generalizing found with
  | nil => cases h
  | cons m rest ih =>
    obtain ⟨op, values⟩ := m
    rw [readOperand.eq_def] at h
    by_cases hOp : op = inKey
    · subst hOp
      cases values with
      | array items =>
        simp only [ne_eq, not_true_eq_false, if_false, bind_eq_error_iff] at h
        rcases h with hLiterals | ⟨ls, -, hRest⟩
        · exact ⟨key, offendingKey_of_readLiterals hLiterals, .inl rfl⟩
        · obtain ⟨k, hk, rfl | ⟨v, hv⟩⟩ := ih hRest
          · exact ⟨k, hk, .inl rfl⟩
          · exact ⟨k, hk, .inr ⟨v, List.mem_cons_of_mem _ hv⟩⟩
      | _ =>
        simp only [ne_eq, not_true_eq_false, if_false] at h
        cases h
        exact ⟨inKey, rfl, .inr ⟨_, List.mem_cons_self⟩⟩
    · simp only [ne_eq, hOp, not_false_eq_true, if_true] at h
      cases h
      exact ⟨op, rfl, .inr ⟨_, List.mem_cons_self⟩⟩

/-- An operand with a member has a list of values. -/
theorem exists_list_of_readOperand {found r : Option Expression} {operand : List (String × Json)}
    (hne : operand ≠ []) (h : readOperand d key found operand = .ok r) :
    ∃ v, (inKey, v) ∈ operand := by
  cases operand with
  | nil => exact absurd rfl hne
  | cons m rest =>
    obtain ⟨op, v⟩ := m
    obtain ⟨rfl, -⟩ := readOperand_cons_eq_ok_iff.mp h
    exact ⟨v, List.mem_cons_self⟩

theorem blames_of_readField (h : readField t key v = .error err) : Blames err key v := by
  rw [readField, bind_eq_error_iff] at h
  rcases h with hResolve | ⟨d, -, h⟩
  · unfold FieldTable.resolve at hResolve
    split at hResolve
    · cases hResolve
    · cases hResolve
      exact ⟨key, rfl, .inl rfl⟩
  · split at h
    case h_1 => cases h
    case h_2 =>
      cases h
      exact ⟨key, rfl, .inl rfl⟩
    case h_3 operand hne =>
      rcases bind_eq_error_iff.mp h with hOperand | ⟨found, hFound, h⟩
      · obtain ⟨k, hk, rfl | ⟨v, hv⟩⟩ := names_of_readOperand hOperand
        · exact ⟨k, hk, .inl rfl⟩
        · exact ⟨k, hk, .inr (.member hv)⟩
      · split at h
        · cases h
        · cases h
          -- The last list is empty, and its key is the one that is named.
          obtain ⟨v, hv⟩ := exists_list_of_readOperand hne hFound
          exact ⟨inKey, rfl, .inr (.member hv)⟩
    case h_4 =>
      rcases bind_eq_error_iff.mp h with hLiteral | ⟨l, -, h⟩
      · exact ⟨key, offendingKey_of_literal hLiteral, .inl rfl⟩
      · cases h

theorem blames_of_readGroup (h : readGroup t c v = .error err)
    (hItems : ∀ items, v = .array items → ∀ x ∈ items, ∀ err,
      readAt t (.within c) x = .error err → Blames err c.key x) : Blames err c.key v := by
  cases v with
  | array items =>
    by_cases hne : items = []
    · subst hne
      rw [readGroup] at h
      cases h
      exact ⟨c.key, rfl, .inl rfl⟩
    · rw [readGroup_of_ne_nil hne, map_eq_error_iff, readItems_eq_error_iff] at h
      obtain ⟨before, x, after, rfl, -, hx⟩ := h
      have hMem : x ∈ before ++ x :: after := List.mem_append_right _ List.mem_cons_self
      obtain ⟨k, hk, hWithin⟩ := hItems _ rfl x hMem err hx
      exact ⟨k, hk, hWithin.imp_right (.inItem hMem)⟩
  | _ =>
    simp only [readGroup] at h
    cases h
    exact ⟨c.key, rfl, .inl rfl⟩

theorem offendingKey_of_mark (h : readMember t negateKey v = .error err) :
    err.offendingKey = some negateKey := by
  rw [readMember.eq_def, if_neg Connective.all.key_ne_negateKey.symm,
    if_neg Connective.any.key_ne_negateKey.symm, if_pos rfl] at h
  split at h
  · cases h
  · cases h
    rfl

theorem blames_of_readMember (h : readMember t key v = .error err)
    (hItems : ∀ items, v = .array items → ∀ x ∈ items, ∀ c err,
      readAt t (.within c) x = .error err → Blames err c.key x) : Blames err key v := by
  rcases key_cases key with ⟨c, rfl⟩ | rfl | ⟨hHead, hNone⟩ | hField
  · rw [readMember_key, map_eq_error_iff] at h
    exact blames_of_readGroup h fun items hv x hx => hItems items hv x hx c
  · exact ⟨negateKey, offendingKey_of_mark h, .inl rfl⟩
  · rw [readMember_operator hHead hNone] at h
    cases h
    exact ⟨key, rfl, .inl rfl⟩
  · rw [readMember_field hField, map_eq_error_iff] at h
    exact blames_of_readField h

theorem Member.combine_eq_error_iff {read : List Member} :
    combine location read = .error err ↔ predicates read = [] ∧ err = .noPredicates location := by
  rw [← Expression.joinFlat_eq_none_iff (c := .all), combine]
  cases Expression.joinFlat .all (predicates read) with
  | none => simp [eq_comm]
  | some e => simp

theorem keys_of_combine_error {read : List Member} (hRead : readMembers t members = .ok read)
    (h : Member.predicates read = []) : ∀ m ∈ members, m.1 = negateKey := by
  have hNodes := forall₂_predicates (readMembers_eq_ok_iff.mp hRead)
  rw [h, List.forall₂_nil_right_iff, predicateMembers, List.filter_eq_nil_iff] at hNodes
  simpa using hNodes

/-- An object names a key of its own members, or says nothing and is known by its location. -/
theorem names_of_readObject (h : readObject t location members = .error err)
    (hMembers : ∀ m ∈ members, ∀ err, readMember t m.1 m.2 = .error err → Blames err m.1 m.2) :
    ∃ k, err.offendingKey = some k ∧
      (KeyWithin k (.object members) ∨ k = location ∧ ∀ m ∈ members, m.1 = negateKey) := by
  by_cases hne : members = []
  · subst hne
    rw [readObject] at h
    cases h
    exact ⟨location, rfl, .inr ⟨rfl, List.forall_mem_nil _⟩⟩
  rw [readObject_of_ne_nil location hne, bind_eq_error_iff] at h
  rcases h with hRead | ⟨read, hRead, hCombine⟩
  · obtain ⟨before, m, after, rfl, -, hm⟩ := readMembers_eq_error_iff.mp hRead
    have hMem : m ∈ before ++ m :: after := List.mem_append_right _ List.mem_cons_self
    obtain ⟨k, hk, rfl | hWithin⟩ := hMembers m hMem err hm
    · exact ⟨m.1, hk, .inl (.member hMem)⟩
    · exact ⟨k, hk, .inl (.inMember hMem hWithin)⟩
  · obtain ⟨hNone, rfl⟩ := Member.combine_eq_error_iff.mp hCombine
    exact ⟨location, rfl, .inr ⟨rfl, keys_of_combine_error hRead hNone⟩⟩

/-- Induction on the value. What is read under a key depends on the filters in the value, and what
is read of an object on its members, so both are said at once. -/
theorem blames_of_error (v : Json) :
    (∀ key err, readMember t key v = .error err → Blames err key v) ∧
      ∀ c err, readAt t (.within c) v = .error err → Blames err c.key v := by
  induction v with
  | array items ih =>
    refine ⟨fun key err h => blames_of_readMember h ?_, fun c err h => ?_⟩
    · rintro _ ⟨⟩ x hx
      exact (ih x hx).2
    · cases h
      exact ⟨c.key, rfl, .inl rfl⟩
  | object members ih =>
    refine ⟨fun key err h => blames_of_readMember h (by rintro _ ⟨⟩), fun c err h => ?_⟩
    rw [readAt_object] at h
    obtain ⟨k, hk, hWithin | ⟨rfl, -⟩⟩ := names_of_readObject h fun m hm => (ih m hm).1 m.1
    · exact ⟨k, hk, .inr hWithin⟩
    · exact ⟨c.key, hk, .inl rfl⟩
  | _ =>
    refine ⟨fun key err h => blames_of_readMember h (by rintro _ ⟨⟩), fun c err h => ?_⟩
    cases h
    exact ⟨c.key, rfl, .inl rfl⟩

theorem offendingKey_of_ofJson (h : ofJson t v = .error err) :
    (err.offendingKey = none ↔ ∀ members, v ≠ .object members) ∧
      ∀ key, err.offendingKey = some key → KeyWithin key v ∨
        key = topLocation ∧ ∃ members, v = .object members ∧ ∀ m ∈ members, m.1 = negateKey := by
  cases v with
  | object members =>
    obtain ⟨k, hk, hName⟩ := names_of_readObject h fun m _ => (blames_of_error m.2).1 m.1
    rw [hk]
    refine ⟨by simp, ?_⟩
    rintro _ ⟨⟩
    rcases hName with hWithin | ⟨hTop, hMarks⟩
    · exact .inl hWithin
    · exact .inr ⟨hTop, members, rfl, hMarks⟩
  | _ =>
    cases h
    simp [FilterError.offendingKey]

/-! ### The first that is refused -/

/-- The member may stand in an object: it is a negation mark, or accepted as an object of its
own. -/
def Acceptable (t : FieldTable) (m : String × Json) : Prop :=
  (∃ b, m = (negateKey, .bool b)) ∨ ∃ e, ofJson t (.object [m]) = .ok e

theorem acceptable_iff : Acceptable t m ↔ ∃ r, readMember t m.1 m.2 = .ok r := by
  constructor
  · rintro (⟨b, rfl⟩ | ⟨e, h⟩)
    · exact ⟨.negation b, readMember_negateKey_eq_ok_iff.mpr ⟨b, rfl, rfl⟩⟩
    · obtain ⟨read, hRead, -⟩ := readObject_eq_ok_iff.mp h
      rw [readMembers_singleton, map_eq_ok_iff] at hRead
      obtain ⟨r, hr, -⟩ := hRead
      exact ⟨r, hr⟩
  · rintro ⟨r, hr⟩
    obtain ⟨key, v⟩ := m
    rcases readMember_eq_ok_iff.mp hr with ⟨rfl, b, rfl, -⟩ | ⟨hKey, e, -, he⟩
    · exact .inl ⟨b, rfl⟩
    · exact .inr ⟨e, by rw [← readAt_top]; exact (readAt_single hKey).mpr he⟩

theorem exists_error_of_not_acceptable (h : ¬Acceptable t m) :
    ∃ err, readMember t m.1 m.2 = .error err := by
  rw [acceptable_iff] at h
  cases hRead : readMember t m.1 m.2 with
  | error err => exact ⟨err, rfl⟩
  | ok r => exact absurd ⟨r, hRead⟩ h

theorem readAt_error_of_member (hBefore : ∀ x ∈ before, Acceptable t x)
    (h : readMember t m.1 m.2 = .error err) :
    readAt t site (.object (before ++ m :: after)) = .error err := by
  have hMembers : readMembers t (before ++ m :: after) = .error err :=
    readMembers_eq_error_iff.mpr
      ⟨before, m, after, rfl, fun x hx => acceptable_iff.mp (hBefore x hx), h⟩
  rw [readAt_object, readObject_of_ne_nil _ (by simp), hMembers]
  rfl

theorem readMember_error_of_item {front back : List Json}
    (hFront : ∀ x ∈ front, ∃ e, ofJson t x = .ok e) (h : readAt t (.within c) v = .error err) :
    readMember t c.key (.array (front ++ v :: back)) = .error err := by
  have hItems : readItems t c (front ++ v :: back) = .error err :=
    readItems_eq_error_iff.mpr ⟨front, v, back, rfl, hFront, h⟩
  rw [readMember_key, readGroup_of_ne_nil (by simp), hItems]
  rfl

/-- Everything in front of the place is accepted. -/
structure Frame.Clear (t : FieldTable) (f : Frame) : Prop where
  members : ∀ m ∈ f.membersBefore, Acceptable t m
  items : ∀ v ∈ f.itemsBefore, ∃ e, ofJson t v = .ok e

/-- Induction from the outside in: clear surroundings are refused for what stands in the place. -/
theorem readAt_fill_error {fs : Surroundings} (hClear : ∀ f ∈ fs, f.Clear t)
    (h : readAt t (fs.innermost site) v = .error err) : readAt t site (fs.fill v) = .error err := by
  induction fs generalizing site with
  | nil => exact h
  | cons f rest ih =>
    obtain ⟨hFirst, hRest⟩ := List.forall_mem_cons.mp hClear
    have hPlace : readAt t (.within f.connective) (Surroundings.fill rest v) = .error err :=
      ih hRest h
    exact readAt_error_of_member hFirst.members (readMember_error_of_item hFirst.items hPlace)

/-- An object with a predicate is refused in a group as it is on its own. -/
theorem ofJson_error_of_readAt (h : readAt t (.within c) (.object members) = .error err)
    (hSome : ∃ m ∈ members, m.1 ≠ negateKey) : ofJson t (.object members) = .error err := by
  obtain ⟨m, hm, hKey⟩ := hSome
  have hne : members ≠ [] := List.ne_nil_of_mem hm
  rw [← readAt_top]
  rw [readAt_object, readObject_of_ne_nil _ hne, bind_eq_error_iff] at h ⊢
  rcases h with hRead | ⟨read, hRead, hCombine⟩
  · exact .inl hRead
  · obtain ⟨hNone, -⟩ := Member.combine_eq_error_iff.mp hCombine
    exact absurd (keys_of_combine_error hRead hNone m hm) hKey

theorem exists_error_of_refused (c : Connective) (h : ¬∃ e, ofJson t v = .ok e) :
    ∃ err, readAt t (.within c) v = .error err := by
  cases hRead : readAt t (.within c) v with
  | error err => exact ⟨err, rfl⟩
  | ok e => exact absurd ⟨e, readAt_eq_ok_iff.mp hRead⟩ h

/-- The error for a refused value names no key exactly if the value is no object. Otherwise it names
a key in the value, or the outermost object, which has nothing but marks.

It is the error of the first member that may not stand in its object, and this member alone has the
same error. In a group it is that of the first filter that is refused there, and a group of this
filter alone has the same error; so has the filter itself if it has a predicate. What stands behind
makes no difference, and neither does what stands around as long as it is clear. -/
theorem errors_tell_first_culprit (t : FieldTable) :
    (∀ v err, ofJson t v = .error err →
      (err.offendingKey = none ↔ ∀ members, v ≠ .object members) ∧
      ∀ key, err.offendingKey = some key → KeyWithin key v ∨
        key = topLocation ∧ ∃ members, v = .object members ∧ ∀ m ∈ members, m.1 = negateKey) ∧
    (∀ fs : Surroundings, (∀ f ∈ fs, f.Clear t) →
      ∀ before m, (∀ x ∈ before, Acceptable t x) → ¬Acceptable t m →
        ∃ err, ofJson t (.object [m]) = .error err ∧
          ∀ after, ofJson t (fs.fill (.object (before ++ m :: after))) = .error err) ∧
    ∀ fs : Surroundings, (∀ f ∈ fs, f.Clear t) →
      ∀ before (c : Connective) front v, (∀ x ∈ before, Acceptable t x) →
        (∀ x ∈ front, ∃ e, ofJson t x = .ok e) → (¬∃ e, ofJson t v = .ok e) →
        ∃ err, readAt t (.within c) v = .error err ∧
          ofJson t (.object [(c.key, .array [v])]) = .error err ∧
          (∀ members, v = .object members → (∃ m ∈ members, m.1 ≠ negateKey) →
            ofJson t v = .error err) ∧
          ∀ back after, ofJson t (fs.fill (.object
            (before ++ (c.key, .array (front ++ v :: back)) :: after))) = .error err := by
  simp only [← readAt_top (t := t)]
  refine ⟨?_, ?_, ?_⟩
  · intro v err h
    rw [readAt_top] at h
    exact offendingKey_of_ofJson h
  · intro fs hClear before m hBefore hm
    obtain ⟨err, hErr⟩ := exists_error_of_not_acceptable hm
    exact ⟨err, readAt_single_error hErr,
      fun after => readAt_fill_error hClear (readAt_error_of_member hBefore hErr)⟩
  · intro fs hClear before c front v hBefore hFront hv
    simp only [readAt_top] at hFront hv
    obtain ⟨err, hErr⟩ := exists_error_of_refused c hv
    have hAlone : readMember t c.key (.array ([] ++ [v])) = .error err :=
      readMember_error_of_item (List.forall_mem_nil _) hErr
    refine ⟨err, hErr, readAt_single_error hAlone, ?_, fun back after => ?_⟩
    · rintro members rfl hSome
      rw [readAt_top]
      exact ofJson_error_of_readAt hErr hSome
    · have hGroup : readMember t c.key (.array (front ++ v :: back)) = .error err :=
        readMember_error_of_item hFront hErr
      exact readAt_fill_error hClear (readAt_error_of_member hBefore hGroup)

/-- A truth value for the labels. -/
def refusedLabel : String × Json :=
  ("label", .bool true)

theorem refusedLabel_is_culprit :
    ∃ err, ofJson labelTable (.object [refusedLabel]) = .error err ∧
      KeyWithin "label" (.object [refusedLabel]) ∧
      (∀ after, ofJson labelTable (behindLabelled.fill
        (.object ([(negateKey, .bool true)] ++ refusedLabel :: after))) = .error err) ∧
      ∀ back after, ofJson labelTable (behindLabelled.fill (.object ([(negateKey, .bool true)] ++
        (Connective.all.key, .array ([] ++ .object [refusedLabel] :: back)) :: after))) =
          .error err := by
  obtain ⟨hNames, hMembers, hItems⟩ := errors_tell_first_culprit labelTable
  have hRead : ofJson labelTable (.object [refusedLabel]) =
      .error (.invalidLiteral "label" (.bool true) .text) := by
    cbv
  have hMark : ∀ x ∈ [(negateKey, Json.bool true)], Acceptable labelTable x :=
    List.forall_mem_singleton.mpr (.inl ⟨true, rfl⟩)
  have hClear : ∀ f ∈ [behindLabelled], f.Clear labelTable :=
    List.forall_mem_singleton.mpr ⟨hMark, List.forall_mem_singleton.mpr
      ⟨.equals "labels" (.text "ui"), by cbv⟩⟩
  have hNone : ¬∃ e, ofJson labelTable (.object [refusedLabel]) = .ok e := by
    rintro ⟨e, h⟩
    cases hRead.symm.trans h
  have hRefused : ¬Acceptable labelTable refusedLabel := by
    rintro (⟨b, hEq⟩ | hSome)
    · have hKey : "label" = negateKey := congrArg Prod.fst hEq
      exact absurd hKey (by decide)
    · exact hNone hSome
  obtain ⟨err, hErr, hFill⟩ := hMembers _ hClear _ _ hMark hRefused
  obtain ⟨err', -, -, hErr', hFill'⟩ :=
    hItems _ hClear _ .all [] _ hMark (List.forall_mem_nil _) hNone
  have hSame := hErr' _ rfl ⟨_, List.mem_singleton.mpr rfl, by decide⟩
  cases hErr.symm.trans hSame
  refine ⟨err, hErr, ?_, hFill, hFill'⟩
  rcases (hNames _ _ hRead).2 "label" rfl with hWithin | ⟨hTop, -⟩
  · exact hWithin
  · exact absurd hTop (by decide)

end Worklist.Filter
