import Worklist.Proofs.Filter.Composition
import Worklist.Proofs.Filter.Sites
import Worklist.Proofs.Filter.Text
import Worklist.Proofs.Json.Written
import Worklist.Proofs.Tracker.Record

/-!
# Members hold together

A record meets an object without a negation mark exactly if it meets each member as an object of its
own. An object that is had of a text has the members that count: of those that the text writes with
one key, the last. A predicate that is written before another one with the same key is lost.
-/

namespace Worklist.Filter

variable {t : FieldTable} {location : String} {e : Expression} {r : Record}
  {members : List (String × Json)}

theorem Expression.evaluateMembers_all_eq_true_iff {es : List Expression} :
    evaluateMembers r .all es = .ok true ↔ ∀ e ∈ es, e.evaluate r = .ok true := by
  induction es with
  | nil => simp [evaluateMembers, Connective.decisive]
  | cons e rest ih =>
    rw [List.forall_mem_cons, ← ih, evaluateMembers, bind_eq_ok_iff]
    constructor
    · rintro ⟨b, hFirst, hRest⟩
      cases b with
      | false => cases hRest
      | true => exact ⟨hFirst, hRest⟩
    · rintro ⟨hFirst, hRest⟩
      exact ⟨true, hFirst, hRest⟩

/-- The value is a filter, and the record meets it. -/
def MeetsFilter (t : FieldTable) (v : Json) (r : Record) : Prop :=
  ∃ e, ofJson t v = .ok e ∧ e.evaluate r = .ok true

/-! ### Objects -/

/-- Without a negation mark an object joins what its members say, each as an object of its own. -/
theorem exists_nodes_of_readObject (h : readObject t location members = .ok e)
    (hKeys : ∀ m ∈ members, m.1 ≠ negateKey) :
    ∃ nodes, List.Forall₂ (fun m x => ofJson t (.object [m]) = .ok x) members nodes ∧
      Expression.joinFlat .all nodes = some e := by
  obtain ⟨read, hRead, hCombine⟩ := readObject_eq_ok_iff.mp h
  obtain ⟨nodes, rfl⟩ := exists_predicates_of_read hRead hKeys
  obtain ⟨body, hBody, rfl⟩ := Member.combine_eq_ok_iff.mp hCombine
  rw [Member.predicates_map] at hBody
  rw [readMembers_eq_ok_iff, List.forall₂_map_right_iff] at hRead
  refine ⟨nodes, (forall₂_congr_of_mem fun m hm x => ?_).mp hRead, ?_⟩
  · rw [← readAt_top, readAt_single (hKeys m hm)]
  · rw [hBody, Member.negated_map]
    rfl

/-- The members of an accepted object are accepted, and a record meets the object if it meets all of
them. -/
theorem members_hold_together (h : ofJson t (.object members) = .ok e)
    (hKeys : ∀ m ∈ members, m.1 ≠ negateKey) :
    (∀ m ∈ members, ∃ x, ofJson t (.object [m]) = .ok x) ∧
      ∀ r, e.evaluate r = .ok true ↔ ∀ m ∈ members, MeetsFilter t (.object [m]) r := by
  rw [ofJson] at h
  obtain ⟨nodes, hNodes, hBody⟩ := exists_nodes_of_readObject h hKeys
  have hAccepted := exists_forall₂_iff.mp ⟨nodes, hNodes⟩
  refine ⟨hAccepted, fun r => ?_⟩
  rw [Expression.evaluate_joinFlat hBody, Expression.evaluateMembers_all_eq_true_iff]
  constructor
  · intro hAll m hm
    obtain ⟨x, hMem, hx⟩ := exists_right_of_mem hNodes hm
    exact ⟨x, hx, hAll x hMem⟩
  · intro hAll x hx
    obtain ⟨m, hm, hRead⟩ := exists_left_of_mem hNodes hx
    obtain ⟨y, hy, hTrue⟩ := hAll m hm
    rw [hRead] at hy
    cases hy
    exact hTrue

/-! ### Texts -/

theorem writes_compactText (h : ∀ m ∈ members, m.2.Plain)
    (hDepth : Json.membersDepth members < Json.maxDepth) :
    Json.Writes (Text.trim (Json.compactText (.object members)).toList) members := by
  rw [trim_compact_object]
  exact Json.writes_compact h hDepth

/-- An accepted text is one of an object. Without a negation mark, a record meets the filter exactly
if it meets every member that counts; if no key is written twice, these are all members. -/
theorem members_that_count_hold_together {s : String} (h : parse t s = .ok (some e)) :
    ∃ ms, Json.Writes (Text.trim s.toList) ms ∧ ((∀ m ∈ ms, m.1 ≠ negateKey) →
      (∀ m, Json.Counts ms m → ∃ x, ofJson t (.object [m]) = .ok x) ∧
      (∀ r, e.evaluate r = .ok true ↔ ∀ m, Json.Counts ms m → MeetsFilter t (.object [m]) r) ∧
      ((ms.map (·.1)).Nodup →
        ∀ r, e.evaluate r = .ok true ↔ ∀ m ∈ ms, MeetsFilter t (.object [m]) r)) := by
  obtain ⟨v, hParse, hRead⟩ := parse_eq_ok_some_iff.mp h
  obtain ⟨members, rfl, -⟩ := ofJson_eq_ok_iff.mp hRead
  obtain ⟨ms, hWrites, rfl⟩ := Json.parse_eq_ok_object_iff.mp hParse
  refine ⟨ms, hWrites, fun hKeys => ?_⟩
  have hCounted : ∀ m ∈ Json.collect ms, m.1 ≠ negateKey := by
    intro m hm
    obtain ⟨before, after, rfl, -⟩ := Json.mem_collect_iff.mp hm
    exact hKeys m (List.mem_append_right _ List.mem_cons_self)
  have hTogether := members_hold_together hRead hCounted
  simp only [Json.mem_collect_iff] at hTogether
  refine ⟨hTogether.1, hTogether.2, fun hNodup r => ?_⟩
  rw [hTogether.2 r]
  simp only [Json.counts_iff_of_nodup hNodup]

/-- Three labels, one of which is lost: two of them are written with one key. -/
def threeLabels : List (String × Json) :=
  [("label", .string "ui"), ("labels", .string "api"), ("label", .string "cli")]

theorem two_of_threeLabels_count :
    ∃ e, parse labelTable (Json.compactText (.object threeLabels)) = .ok (some e) ∧
      ∀ r, e.evaluate r = .ok true ↔ ∀ m, Json.Counts threeLabels m →
        MeetsFilter labelTable (.object [m]) r := by
  have hParse : parse labelTable (Json.compactText (.object threeLabels)) = .ok (some (.group .all
      [.equals "labels" (.text "cli"), .equals "labels" (.text "api")])) := by
    cbv
  obtain ⟨ms, hWrites, hTogether⟩ := members_that_count_hold_together hParse
  have hPlain : ∀ m ∈ threeLabels, m.2.Plain := by
    simp [threeLabels, Json.Plain.string]
  have hWritten := writes_compactText hPlain (by decide)
  obtain rfl := hWrites.unique hWritten
  exact ⟨_, hParse, (hTogether (by decide)).2.1⟩

/-- An open state and a new one. -/
def openAndNew : List (String × Json) :=
  [("state", .string "open"), ("state", .string "new")]

/-- A work item is asked to be open and to be new. A new one meets the filter although it is not
open: the predicate that is written first is lost. -/
theorem first_of_openAndNew_is_lost :
    ∃ e, parse Tracker.workItemFields (Json.compactText (.object openAndNew)) = .ok (some e) ∧
      Json.Writes (Text.trim (Json.compactText (.object openAndNew)).toList) openAndNew ∧
      (∀ m ∈ openAndNew, m.1 ≠ negateKey) ∧
      ¬(e.evaluate Tracker.unplanned.record = .ok true ↔
        ∀ m ∈ openAndNew, MeetsFilter Tracker.workItemFields (.object [m])
          Tracker.unplanned.record) := by
  have hParse : parse Tracker.workItemFields (Json.compactText (.object openAndNew)) =
      .ok (some (.equals Tracker.stateAttribute (.text "new"))) := by
    cbv
  have hPlain : ∀ m ∈ openAndNew, m.2.Plain := by
    simp [openAndNew, Json.Plain.string]
  have hOpen : ofJson Tracker.workItemFields (.object [("state", .string "open")]) =
      .ok (.equals Tracker.stateAttribute (.text "open")) := by
    cbv
  have hNotOpen : (Expression.equals Tracker.stateAttribute (.text "open")).evaluate
      Tracker.unplanned.record = .ok false := by
    cbv
  refine ⟨_, hParse, writes_compactText hPlain (by decide), by decide, fun hTogether => ?_⟩
  obtain ⟨e, hRead, hTrue⟩ := hTogether.mp (by cbv) _ List.mem_cons_self
  rw [hOpen] at hRead
  cases hRead
  rw [hNotOpen] at hTrue
  cases hTrue

end Worklist.Filter
