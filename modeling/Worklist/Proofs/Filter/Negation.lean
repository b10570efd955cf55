import Worklist.Proofs.Filter.Sites

/-!
# Negation marks

An object with a negation mark is read as the object without the mark, and negated if the mark is
set, wherever the mark stands among the members. In a group the surroundings of an object do not see
the difference: they refuse the filter for the same reason, or take it and leave a slot for what the
object says.
-/

namespace Worklist.Filter

variable {t : FieldTable} {site : Site} {members before after : List (String × Json)}

/-- An expression, negated if `b` is set. -/
def negatedIf (b : Bool) (e : Expression) : Expression :=
  if b then .not e else e

/-- The object with a mark between the members `before` and `after`. -/
def withMark (before : List (String × Json)) (b : Bool) (after : List (String × Json)) : Json :=
  .object (before ++ (negateKey, .bool b) :: after)

/-! ### Objects -/

namespace Member

theorem predicates_append (read read' : List Member) :
    predicates (read ++ read') = predicates read ++ predicates read' :=
  List.filterMap_append

theorem predicates_negation (b : Bool) (read : List Member) :
    predicates (.negation b :: read) = predicates read :=
  rfl

theorem negated_mark (read : List Member) (b : Bool) (es : List Expression) :
    negated (read ++ .negation b :: es.map .predicate) = b := by
  simp [negated, List.foldl_map]

theorem combine_mark (location : String) (es es' : List Expression) (b : Bool) :
    combine location (es.map .predicate ++ .negation b :: es'.map .predicate) =
      (combine location ((es ++ es').map .predicate)).map (negatedIf b) := by
  rw [combine, combine, negated_mark, negated_map, predicates_append, predicates_negation,
    predicates_map, predicates_map, predicates_map]
  cases Expression.joinFlat .all (es ++ es') <;> rfl

end Member

/-- An object is read with a mark as it is read without, whether it is refused or not. -/
theorem readAt_withMark (b : Bool) (hSome : before ++ after ≠ [])
    (hKeys : ∀ m ∈ before ++ after, m.1 ≠ negateKey) :
    readAt t site (withMark before b after) =
      (readAt t site (.object (before ++ after))).map (negatedIf b) := by
  obtain ⟨hBefore, hAfter⟩ := List.forall_mem_append.mp hKeys
  have hMark : readMembers t ((negateKey, .bool b) :: after) =
      (readMembers t after).map (.negation b :: ·) := by
    rw [readMembers, readMember_negateKey_eq_ok_iff.mpr ⟨b, rfl, rfl⟩]
    cases readMembers t after <;> rfl
  rw [withMark, readAt_object, readAt_object, readObject_of_ne_nil _ (by simp),
    readObject_of_ne_nil _ hSome, readMembers_append, readMembers_append, hMark]
  cases hFront : readMembers t before with
  | error err => rfl
  | ok read =>
    cases hBack : readMembers t after with
    | error err => rfl
    | ok read' =>
      obtain ⟨es, rfl⟩ := exists_predicates_of_read hFront hBefore
      obtain ⟨es', rfl⟩ := exists_predicates_of_read hBack hAfter
      have hCombine := Member.combine_mark site.location es es' b
      rw [List.map_append] at hCombine
      exact hCombine

/-! ### Slots -/

/-- A place in an expression, with all that is around it. -/
inductive Slot where
  | here
  | not (s : Slot)
  | member (c : Connective) (before : List Expression) (s : Slot) (after : List Expression)

namespace Slot

/-- The expression with `e` in the slot. -/
def put : Slot → Expression → Expression
  | .here, e => e
  | .not s, e => .not (s.put e)
  | .member c before s after, e => .group c (before ++ s.put e :: after)

/-- The slot of the inner one, which is put into the outer one. -/
def comp : Slot → Slot → Slot
  | .here, inner => inner
  | .not s, inner => .not (s.comp inner)
  | .member c before s after, inner => .member c before (s.comp inner) after

theorem put_comp (outer inner : Slot) (e : Expression) :
    (outer.comp inner).put e = outer.put (inner.put e) := by
  induction outer with
  | here => rfl
  | not s ih => rw [comp, put, put, ih]
  | member c before s after ih => rw [comp, put, put, ih]

end Slot

/-- One expression among several that are joined has a slot in what is had of them. -/
theorem exists_slot_of_joinFlat (c : Connective) (before after : List Expression) :
    ∃ s : Slot, ∀ e, Expression.joinFlat c (before ++ e :: after) = some (s.put e) := by
  by_cases hAlone : before = [] ∧ after = []
  · obtain ⟨rfl, rfl⟩ := hAlone
    exact ⟨.here, fun _ => rfl⟩
  · refine ⟨.member c before .here after, fun e => ?_⟩
    -- At least two expressions are joined, so that they are a group.
    match before, after with
    | [], [] => exact absurd ⟨rfl, rfl⟩ hAlone
    | [], x :: rest => rfl
    | [x], after => rfl
    | x :: y :: rest, after => rfl

theorem Member.exists_slot_of_combine (location : String) (before after : List Member) :
    ∃ s : Slot, ∀ e, combine location (before ++ .predicate e :: after) = .ok (s.put e) := by
  obtain ⟨s, hs⟩ := exists_slot_of_joinFlat .all (predicates before) (predicates after)
  have hPredicates : ∀ e, predicates (before ++ .predicate e :: after) =
      predicates before ++ e :: predicates after := fun e => predicates_append before _
  have hMark : ∀ e, negated (before ++ .predicate e :: after) = negated (before ++ after) := by
    simp [negated]
  simp only [combine, hPredicates, hMark, hs]
  cases negated (before ++ after) with
  | false => exact ⟨s, fun _ => rfl⟩
  | true => exact ⟨.not s, fun _ => rfl⟩

/-! ### Surroundings -/

/-- What surroundings make of the filter in their place. -/
inductive Reception where
  /-- They are refused before the filter is read. -/
  | refused (err : FilterError)
  /-- They are refused if the filter is not. -/
  | refusedBehind (err : FilterError)
  /-- They are accepted if the filter is, with a slot for what it says. -/
  | slot (s : Slot)

namespace Reception

/-- What is read, if this is read in the place. -/
def of : Reception → Except FilterError Expression → Except FilterError Expression
  | .refused err, _ => .error err
  | .refusedBehind err, read => read >>= fun _ => .error err
  | .slot s, read => read.map s.put

theorem exists_of_of (outer inner : Reception) :
    ∃ r : Reception, ∀ read, outer.of (inner.of read) = r.of read := by
  cases outer with
  | refused err => exact ⟨.refused err, fun _ => rfl⟩
  | refusedBehind err =>
    cases inner with
    | refused err' => exact ⟨.refused err', fun _ => rfl⟩
    | refusedBehind err' => exact ⟨.refusedBehind err', fun read => by cases read <;> rfl⟩
    | slot s => exact ⟨.refusedBehind err, fun read => by cases read <;> rfl⟩
  | slot s =>
    cases inner with
    | refused err' => exact ⟨.refused err', fun _ => rfl⟩
    | refusedBehind err' => exact ⟨.refusedBehind err', fun read => by cases read <;> rfl⟩
    | slot s' =>
      refine ⟨.slot (s.comp s'), fun read => ?_⟩
      cases read with
      | error err => rfl
      | ok e => exact congrArg Except.ok (s.put_comp s' e).symm

/-- If something else were read in the place, the reason of a refusal would be the same, and so
would be the slot. -/
theorem of_map_cases (r : Reception) (read : Except FilterError Expression) :
    (∃ err, ∀ f, r.of (read.map f) = .error err) ∨
      ∃ (s : Slot) (e : Expression), read = .ok e ∧ ∀ f, r.of (read.map f) = .ok (s.put (f e)) := by
  cases r with
  | refused err => exact .inl ⟨err, fun _ => rfl⟩
  | refusedBehind err =>
    cases read with
    | error err' => exact .inl ⟨err', fun _ => rfl⟩
    | ok e => exact .inl ⟨err, fun _ => rfl⟩
  | slot s =>
    cases read with
    | error err => exact .inl ⟨err, fun _ => rfl⟩
    | ok e => exact .inr ⟨s, e, rfl, fun _ => rfl⟩

end Reception

/-- What an object makes of a filter in one of its groups. -/
theorem exists_reception_of_frame (t : FieldTable) (site : Site) (f : Frame) :
    ∃ r : Reception, ∀ v,
      readAt t site (f.fill v) = r.of (readAt t (.within f.connective) v) := by
  simp only [readAt_fill_frame]
  -- Two readings come before that of the filter, and two behind it. None of them depends on it.
  cases readMembers t f.membersBefore with
  | error err => exact ⟨.refused err, fun _ => rfl⟩
  | ok read =>
  cases readItems t f.connective f.itemsBefore with
  | error err => exact ⟨.refused err, fun _ => rfl⟩
  | ok es =>
  cases readItems t f.connective f.itemsAfter with
  | error err => exact ⟨.refusedBehind err, fun _ => rfl⟩
  | ok es' =>
  cases readMembers t f.membersAfter with
  | error err => exact ⟨.refusedBehind err, fun _ => rfl⟩
  | ok read' =>
    obtain ⟨s, hs⟩ := Member.exists_slot_of_combine site.location read read'
    refine ⟨.slot (s.comp (.member f.connective es .here es')), fun v => ?_⟩
    cases readAt t (.within f.connective) v with
    | error err => rfl
    | ok e =>
      have hPut := s.put_comp (.member f.connective es .here es') e
      exact (hs _).trans (congrArg Except.ok hPut.symm)

/-- Induction from the outside in. -/
theorem exists_reception (t : FieldTable) (site : Site) (fs : Surroundings) :
    ∃ r : Reception, ∀ v, readAt t site (fs.fill v) = r.of (readAt t (fs.innermost site) v) := by
  induction fs generalizing site with
  | nil =>
    refine ⟨.slot .here, fun v => ?_⟩
    change readAt t site v = (readAt t site v).map id
    cases readAt t site v <;> rfl
  | cons f rest ih =>
    obtain ⟨outer, hOuter⟩ := exists_reception_of_frame t site f
    obtain ⟨inner, hInner⟩ := ih (.within f.connective)
    obtain ⟨r, hr⟩ := outer.exists_of_of inner
    refine ⟨r, fun v => ?_⟩
    calc readAt t site (f.fill (Surroundings.fill rest v))
        = outer.of (readAt t (.within f.connective) (Surroundings.fill rest v)) := hOuter _
      _ = outer.of (inner.of (readAt t (Surroundings.innermost _ rest) v)) := by rw [hInner]
      _ = r.of (readAt t (Surroundings.innermost _ rest) v) := hr _

/-! ### Marks -/

/-- A mark changes nothing but the sign of its object, wherever it stands among the members: with
the mark a filter is accepted if it is without, and refused for the same reason. This holds of a
filter on its own and of one in a group. A filter that has it anywhere in its groups is refused for
the same reason with the mark, or says the same save for the sign in one slot. -/
theorem mark_stands_anywhere (t : FieldTable) (hSome : members ≠ [])
    (hKeys : ∀ m ∈ members, m.1 ≠ negateKey) :
    (∀ before after b, members = before ++ after →
      ofJson t (withMark before b after) = (ofJson t (.object members)).map (negatedIf b) ∧
      ∀ c, readAt t (.within c) (withMark before b after) =
        (readAt t (.within c) (.object members)).map (negatedIf b)) ∧
    ∀ fs : Surroundings,
      (∃ err, ofJson t (fs.fill (.object members)) = .error err ∧
        ∀ before after b, members = before ++ after →
          ofJson t (fs.fill (withMark before b after)) = .error err) ∨
      ∃ (s : Slot) (e : Expression), ofJson t (.object members) = .ok e ∧
        ofJson t (fs.fill (.object members)) = .ok (s.put e) ∧
        ∀ before after b, members = before ++ after →
          ofJson t (fs.fill (withMark before b after)) = .ok (s.put (negatedIf b e)) := by
  constructor
  · rintro before after b rfl
    rw [← readAt_top, ← readAt_top]
    exact ⟨readAt_withMark b hSome hKeys, fun c => readAt_withMark b hSome hKeys⟩
  intro fs
  obtain ⟨r, hr⟩ := exists_reception t .top fs
  have hFill : ofJson t (fs.fill (.object members)) =
      r.of ((readAt t (fs.innermost .top) (.object members)).map id) := by
    rw [← readAt_top, hr, Except.map_id, id]
  have hMarked : ∀ before after b, members = before ++ after →
      ofJson t (fs.fill (withMark before b after)) =
        r.of ((readAt t (fs.innermost .top) (.object members)).map (negatedIf b)) := by
    rintro before after b rfl
    rw [← readAt_top, hr, readAt_withMark b hSome hKeys]
  rcases r.of_map_cases (readAt t (fs.innermost .top) (.object members)) with
    ⟨err, hRefused⟩ | ⟨s, e, hRead, hTaken⟩
  · exact .inl ⟨err, hFill.trans (hRefused _),
      fun before after b h => (hMarked before after b h).trans (hRefused _)⟩
  · exact .inr ⟨s, e, readAt_eq_ok_iff.mp hRead, hFill.trans (hTaken _),
      fun before after b h => (hMarked before after b h).trans (hTaken _)⟩

/-- Labelled in some way, and without a label. -/
def unlabelledApi : List (String × Json) :=
  [("label", .string "api"), ("labels", .null)]

theorem unlabelledApi_is_marked :
    ∃ (s : Slot) (e : Expression), ofJson labelTable (.object unlabelledApi) = .ok e ∧
      ofJson labelTable (behindLabelled.fill (.object unlabelledApi)) = .ok (s.put e) ∧
      ∀ before after b, unlabelledApi = before ++ after →
        ofJson labelTable (behindLabelled.fill (withMark before b after)) =
          .ok (s.put (negatedIf b e)) := by
  have hRead : ofJson labelTable (behindLabelled.fill (.object unlabelledApi)) =
      .ok (.not (.group .any [.equals "labels" (.text "ui"),
        .group .all [.equals "labels" (.text "api"), .isNull "labels"]])) := by
    cbv
  have hSome : unlabelledApi ≠ [] := List.cons_ne_nil _ _
  obtain ⟨-, hDeep⟩ := mark_stands_anywhere labelTable hSome (by decide)
  rcases hDeep [behindLabelled] with ⟨err, hRefused, -⟩ | hTaken
  · cases hRead.symm.trans hRefused
  · exact hTaken

end Worklist.Filter
