import Worklist.Proofs.Filter.Grammar

/-!
# Where filters stand

A filter stands on its own or in a group, which stands in an object beside other members. Where it
stands decides only under which key an object is reported that is no filter; the members of an
object and the filters of a group are read one after the other, and the first that is refused
decides on the whole.
-/

namespace Worklist.Filter

variable {t : FieldTable} {key : String} {v : Json} {e : Expression} {err : FilterError}
  {c : Connective} {m : String × Json} {members : List (String × Json)}

/-- Where a filter stands. -/
inductive Site where
  /-- On its own. -/
  | top
  /-- In a group. -/
  | within (c : Connective)

/-- The key under which an object at the site is reported. -/
def Site.location : Site → String
  | .top => topLocation
  | .within c => c.key

variable {site : Site}

/-- Reads the filter at a site. -/
def readAt (t : FieldTable) (site : Site) : Json → Except FilterError Expression
  | .object members => readObject t site.location members
  | v =>
    match site with
    | .top => .error (.notObject v.kind)
    | .within c => .error (.invalidOperand c.key (.notFilter v.kind))

theorem readAt_top (v : Json) : readAt t .top v = ofJson t v := by
  cases v <;> simp [readAt, ofJson, Site.location]

theorem readAt_object : readAt t site (.object members) = readObject t site.location members := by
  rw [readAt]

/-- What is read of a filter does not depend on where it stands. -/
theorem readAt_eq_ok_iff : readAt t site v = .ok e ↔ ofJson t v = .ok e := by
  cases v with
  | object members =>
    rw [readAt_object, ofJson, readObject_eq_ok_iff, readObject_eq_ok_iff]
    simp only [Member.combine_eq_ok_iff]
  | _ => cases site <;> simp [readAt, ofJson]

/-! ### Lists of members and filters -/

theorem readItems_cons (v : Json) (rest : List Json) :
    readItems t c (v :: rest) = (do
      let e ← readAt t (.within c) v
      let es ← readItems t c rest
      return e :: es) := by
  cases v <;> simp [readItems, readAt, Site.location, bind, Except.bind]

theorem readItems_eq_mapM (items : List Json) :
    readItems t c items = items.mapM (readAt t (.within c)) := by
  induction items with
  | nil => rw [readItems, List.mapM_nil]; rfl
  | cons v rest ih => rw [readItems_cons, ih, List.mapM_cons]

theorem readMembers_eq_mapM (members : List (String × Json)) :
    readMembers t members = members.mapM fun m => readMember t m.1 m.2 := by
  induction members with
  | nil => rw [readMembers, List.mapM_nil]; rfl
  | cons m rest ih => rw [readMembers, ih, List.mapM_cons]

theorem readItems_append (xs ys : List Json) :
    readItems t c (xs ++ ys) = (do
      let es ← readItems t c xs
      let es' ← readItems t c ys
      return es ++ es') := by
  simp only [readItems_eq_mapM, List.mapM_append]

theorem readMembers_append (xs ys : List (String × Json)) :
    readMembers t (xs ++ ys) = (do
      let read ← readMembers t xs
      let read' ← readMembers t ys
      return read ++ read') := by
  simp only [readMembers_eq_mapM, List.mapM_append]

/-- A list of filters is refused for its first filter that is refused. -/
theorem readItems_eq_error_iff {items : List Json} :
    readItems t c items = .error err ↔ ∃ before v after, items = before ++ v :: after ∧
      (∀ x ∈ before, ∃ e, ofJson t x = .ok e) ∧ readAt t (.within c) v = .error err := by
  simp only [readItems_eq_mapM, mapM_eq_error_iff, readAt_eq_ok_iff]

/-- Members are refused for the first of them that is refused. -/
theorem readMembers_eq_error_iff :
    readMembers t members = .error err ↔ ∃ before m after, members = before ++ m :: after ∧
      (∀ x ∈ before, ∃ r, readMember t x.1 x.2 = .ok r) ∧ readMember t m.1 m.2 = .error err := by
  simp only [readMembers_eq_mapM, mapM_eq_error_iff]

theorem readObject_of_ne_nil (location : String) (h : members ≠ []) :
    readObject t location members = readMembers t members >>= Member.combine location := by
  cases members with
  | nil => exact absurd rfl h
  | cons m rest => rw [readObject]

theorem readGroup_of_ne_nil {items : List Json} (h : items ≠ []) :
    readGroup t c (.array items) = (readItems t c items).map (.group c) := by
  cases items with
  | nil => exact absurd rfl h
  | cons v rest => rw [readGroup]; exact List.cons_ne_nil v rest

theorem readMembers_singleton (m : String × Json) :
    readMembers t [m] = (readMember t m.1 m.2).map ([·]) := by
  obtain ⟨key, v⟩ := m
  simp only [readMembers]
  cases readMember t key v <;> rfl

/-! ### Predicates -/

/-- Members other than marks are predicates. -/
theorem exists_predicates_of_read {read : List Member} (h : readMembers t members = .ok read)
    (hKeys : ∀ m ∈ members, m.1 ≠ negateKey) :
    ∃ es : List Expression, read = es.map .predicate := by
  rw [readMembers_eq_ok_iff] at h
  induction h with
  | nil => exact ⟨[], rfl⟩
  | @cons m r members read hm _ ih =>
    obtain ⟨hFirst, hRest⟩ := List.forall_mem_cons.mp hKeys
    obtain ⟨es, rfl⟩ := ih hRest
    rcases readMember_eq_ok_iff.mp hm with ⟨hKey, -⟩ | ⟨-, e, rfl, -⟩
    · exact absurd hKey hFirst
    · exact ⟨e :: es, rfl⟩

namespace Member

theorem predicates_map (es : List Expression) : predicates (es.map .predicate) = es := by
  simp [predicates, List.filterMap_map]

theorem negated_map (es : List Expression) : negated (es.map .predicate) = false := by
  simp [negated, List.foldl_map]

end Member

/-! ### Objects with one member -/

/-- An object with one predicate says what the predicate says. -/
theorem readAt_single (hKey : m.1 ≠ negateKey) :
    readAt t site (.object [m]) = .ok e ↔ readMember t m.1 m.2 = .ok (.predicate e) := by
  rw [readAt_object, readObject_of_ne_nil _ (List.cons_ne_nil _ _), readMembers_singleton,
    bind_eq_ok_iff]
  constructor
  · rintro ⟨_, hRead, hCombine⟩
    obtain ⟨r, hr, rfl⟩ := map_eq_ok_iff.mp hRead
    rcases readMember_eq_ok_iff.mp hr with ⟨hNegate, -⟩ | ⟨-, x, rfl, -⟩
    · exact absurd hNegate hKey
    · cases hCombine
      exact hr
  · intro h
    exact ⟨[.predicate e], map_eq_ok_iff.mpr ⟨_, h, rfl⟩, rfl⟩

theorem readAt_single_error (h : readMember t m.1 m.2 = .error err) :
    readAt t site (.object [m]) = .error err := by
  rw [readAt_object, readObject_of_ne_nil _ (List.cons_ne_nil _ _), readMembers_singleton, h]
  rfl

/-- A predicate is read as the object that holds nothing else. -/
theorem readAt_predicate {read : Except FilterError Expression} (hKey : m.1 ≠ negateKey)
    (h : readMember t m.1 m.2 = read.map .predicate) : readAt t site (.object [m]) = read := by
  cases read with
  | error err => exact readAt_single_error h
  | ok e => exact (readAt_single hKey).mpr h

theorem readAt_field (hKey : IsFieldKey key) :
    readAt t site (.object [(key, v)]) = readField t key v :=
  readAt_predicate hKey.1 (readMember_field hKey)

theorem readAt_group (c : Connective) :
    readAt t site (.object [(c.key, v)]) = readGroup t c v :=
  readAt_predicate c.key_ne_negateKey (readMember_key c)

/-! ### Surroundings -/

/-- An object with a group, and a place for a filter in this group. -/
structure Frame where
  /-- The members in front of the group. -/
  membersBefore : List (String × Json)
  connective : Connective
  /-- The filters of the group in front of the place. -/
  itemsBefore : List Json
  /-- The filters of the group behind the place. -/
  itemsAfter : List Json
  /-- The members behind the group. -/
  membersAfter : List (String × Json)

/-- The object with a value in the place. -/
def Frame.fill (f : Frame) (v : Json) : Json :=
  .object (f.membersBefore ++
    (f.connective.key, .array (f.itemsBefore ++ v :: f.itemsAfter)) :: f.membersAfter)

/-- Neither labelled in one way, nor what is asked for in the place. -/
def behindLabelled : Frame where
  membersBefore := [(negateKey, .bool true)]
  connective := .any
  itemsBefore := [.object [("label", .string "ui")]]
  itemsAfter := []
  membersAfter := []

/-- The objects around a place, from the outside in. -/
abbrev Surroundings := List Frame

namespace Surroundings

/-- The value with another one in the place. -/
def fill (fs : Surroundings) (v : Json) : Json :=
  fs.foldr Frame.fill v

/-- The site of the place if the outermost object stands at `site`. -/
def innermost (site : Site) (fs : Surroundings) : Site :=
  fs.foldl (fun _ f => .within f.connective) site

end Surroundings

theorem readMember_group {f : Frame} (v : Json) :
    readMember t f.connective.key (.array (f.itemsBefore ++ v :: f.itemsAfter)) = (do
      let es ← readItems t f.connective f.itemsBefore
      let e ← readAt t (.within f.connective) v
      let es' ← readItems t f.connective f.itemsAfter
      return .predicate (.group f.connective (es ++ e :: es'))) := by
  have hSome : f.itemsBefore ++ v :: f.itemsAfter ≠ [] := by simp
  rw [readMember_key, readGroup_of_ne_nil hSome, readItems_append, readItems_cons]
  cases readItems t f.connective f.itemsBefore with
  | error err => rfl
  | ok es =>
    cases readAt t (.within f.connective) v with
    | error err => rfl
    | ok e => cases readItems t f.connective f.itemsAfter <;> rfl

/-- Reading in order: what stands in front of the place, what stands in it, what stands behind. -/
theorem readAt_fill_frame (f : Frame) (v : Json) :
    readAt t site (f.fill v) = (do
      let before ← readMembers t f.membersBefore
      let es ← readItems t f.connective f.itemsBefore
      let e ← readAt t (.within f.connective) v
      let es' ← readItems t f.connective f.itemsAfter
      let after ← readMembers t f.membersAfter
      Member.combine site.location
        (before ++ .predicate (.group f.connective (es ++ e :: es')) :: after)) := by
  rw [Frame.fill, readAt_object, readObject_of_ne_nil _ (by simp), readMembers_append, readMembers,
    readMember_group]
  simp

end Worklist.Filter
