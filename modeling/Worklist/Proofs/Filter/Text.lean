import Worklist.Proofs.Filter.Depth
import Worklist.Proofs.Text.Blank

/-!
# Texts of filters

What is written for an expression has whole numbers and does not repeat a key, so it is read back
from its text, with the same meaning, unless it has become too deep to be read. A filter of work
items whose text is at most sixty-three deep is always read back. There are deeper ones that are
accepted, and what is written for them is not.
-/

namespace Worklist.Filter

variable {t : FieldTable} {v : Json} {e : Expression} {members : List (String × Json)}

/-! ### What is written is plain -/

theorem Literal.plain_toJson (l : Literal) : l.toJson.Plain := by
  cases l with
  | text s => exact ⟨.string, .string⟩
  | uuid u => exact ⟨.string, .string⟩
  | number n => exact ⟨.whole (Json.fitsWord_toInt n), .number⟩
  | bool b => exact ⟨.bool, .bool⟩
  | texts items =>
    refine Json.Plain.array fun v hv => ?_
    obtain ⟨s, -, rfl⟩ := List.mem_map.mp hv
    exact ⟨.string, .string⟩

namespace Expression

theorem plain_markNegated (h : (Json.object members).Plain) :
    (Json.object (markNegated members)).Plain := by
  have hMark : (Json.bool true).Plain := ⟨.bool, .bool⟩
  unfold markNegated
  split
  case isTrue =>
    have hGroup : (Json.array [.object members]).Plain :=
      .array fun v hv => List.mem_singleton.mp hv ▸ h
    have hKeys : [Connective.all.key, negateKey].Nodup := by
      simp [Connective.all.key_ne_negateKey]
    exact .object hKeys (List.forall_mem_cons.mpr ⟨hGroup, List.forall_mem_singleton.mpr hMark⟩)
  case isFalse hLookup =>
    rw [Option.not_isSome_iff_eq_none, List.lookup_eq_none_iff] at hLookup
    refine .object ?_ (List.forall_mem_append.mpr
      ⟨fun m hm => h.of_mem hm, List.forall_mem_singleton.mpr hMark⟩)
    rw [List.map_append, List.nodup_append]
    refine ⟨h.nodup_keys, by simp, ?_⟩
    intro key hKey _ hNegate hEq
    obtain ⟨m, hm, rfl⟩ := List.mem_map.mp hKey
    have hOther := hLookup m hm
    rw [hEq, List.mem_singleton.mp hNegate] at hOther
    simp at hOther

theorem plain_toMembers (h : e.toMembers = .ok members) : (Json.object members).Plain := by
  induction e generalizing members with
  | literal | field => cases h
  | equals name l =>
    cases h
    exact .single name l.plain_toJson
  | isNull name =>
    cases h
    exact .single name ⟨.null, .null⟩
  | not e ih =>
    rw [toMembers, map_eq_ok_iff] at h
    obtain ⟨inner, hInner, rfl⟩ := h
    exact plain_markNegated (ih hInner)
  | group c es ih =>
    cases es with
    | nil => cases h
    | cons first rest =>
      rw [toMembers, map_eq_ok_iff] at h
      · obtain ⟨items, hItems, rfl⟩ := h
        refine .single c.key (.array ?_)
        intro v hv
        obtain ⟨e, he, members, hMembers, rfl⟩ :=
          exists_left_of_mem (toItems_eq_ok_iff.mp hItems) hv
        exact ih e he hMembers
      · exact List.cons_ne_nil first rest

theorem plain_of_toJson (h : e.toJson = .ok v) : v.Plain := by
  rw [toJson, map_eq_ok_iff] at h
  obtain ⟨members, hMembers, rfl⟩ := h
  exact plain_toMembers hMembers

end Expression

/-! ### Texts of objects -/

theorem trim_compact_object (members : List (String × Json)) :
    Text.trim (Json.compactText (.object members)).toList = (Json.object members).compact := by
  have hOpen : Text.isBlank '\x7b' = false := by decide
  have hClose : Text.isBlank '\x7d' = false := by decide
  rw [Json.compactText, String.toList_ofList, Json.compact, Text.trim,
    Text.trimStart_cons_of_not_blank hOpen, ← List.cons_append,
    Text.trimEnd_append_of_not_blank hClose]

theorem parse_eq_malformed {s : String} {fault : Json.Fault} (hne : Text.trim s.toList ≠ [])
    (h : Json.parse (Text.trim s.toList) = .error fault) :
    parse t s = .error (.malformed fault) := by
  unfold parse
  split
  case h_1 hNil => exact absurd hNil hne
  case h_2 => rw [h]

/-- An object that can be written and that is a filter is read from its text, unless it is too
deep. -/
theorem parse_compactText (h : (Json.object members).Plain)
    (hRead : ofJson t (.object members) = .ok e) :
    ((Json.object members).depth ≤ Json.maxDepth →
      parse t (Json.compactText (.object members)) = .ok (some e)) ∧
    (Json.maxDepth < (Json.object members).depth →
      ∃ fault, parse t (Json.compactText (.object members)) = .error (.malformed fault) ∧
        fault.cause = .tooDeep) := by
  have hTrim := trim_compact_object members
  rcases h.parse_compact with ⟨hDepth, hParse⟩ | ⟨hDepth, fault, hParse, hCause⟩
  · refine ⟨fun _ => parse_eq_ok_some_iff.mpr ⟨_, ?_, hRead⟩, fun hDeep => by omega⟩
    rw [hTrim, hParse]
  · refine ⟨fun hFlat => by omega, fun _ => ⟨fault, parse_eq_malformed ?_ ?_, hCause⟩⟩
    · rw [hTrim, Json.compact]
      exact List.cons_ne_nil _ _
    · rw [hTrim, hParse]

/-- What is written for an expression that the table can say, and what is read of its text. -/
theorem Expression.Sound.written (h : e.Sound t.Resolves) :
    ∃ v, e.toJson = .ok v ∧ v.depth = e.writtenDepth + 1 ∧
      (v.depth ≤ Json.maxDepth → parse t (Json.compactText v) = .ok (some e.normal)) ∧
      (Json.maxDepth < v.depth → ∃ fault,
        parse t (Json.compactText v) = .error (.malformed fault) ∧ fault.cause = .tooDeep) := by
  obtain ⟨v, hWrite, hRead⟩ := h.toJson_reads_back
  have hPlain := Expression.plain_of_toJson hWrite
  obtain ⟨members, hMembers, rfl⟩ := map_eq_ok_iff.mp hWrite
  obtain ⟨hFlat, hDeep⟩ := parse_compactText hPlain hRead
  exact ⟨_, hWrite, by rw [Json.depth, h.membersDepth_eq hMembers], hFlat, hDeep⟩

/-! ### Filters of work items -/

/-- Every field of work items goes by the name of its attribute, and no other field does. -/
theorem resolves_of_describes {name : String} {l : Option Literal}
    (h : FieldTable.Describes Tracker.workItemFields name l) :
    FieldTable.Resolves Tracker.workItemFields name l := by
  have hTargets : ∀ d ∈ Tracker.workItemFields,
      IsFieldKey d.target ∧ FieldTable.get? Tracker.workItemFields d.target = some d := by
    decide
  obtain ⟨d, hd, rfl, hAdmits⟩ := h
  obtain ⟨hKey, hGet⟩ := hTargets d hd
  exact ⟨hKey, d, hGet, rfl, hAdmits⟩

theorem sound_of_parse_workItemFields {s : String}
    (h : parse Tracker.workItemFields s = .ok (some e)) :
    e.Sound (FieldTable.Resolves Tracker.workItemFields) :=
  (sound_of_parse h).mono fun _ _ => resolves_of_describes

/-- What is written for a filter of work items is at most twice as deep and one as its text. It is
read back with the same meaning if it is not too deep to be read; otherwise it is refused. -/
theorem written_text_reads_back {s : String} {e : Expression}
    (h : parse Tracker.workItemFields s = .ok (some e)) :
    ∃ v, e.toJson = .ok v ∧
      (v.depth ≤ Json.maxDepth → ∃ e', parse Tracker.workItemFields (Json.compactText v) =
        .ok (some e') ∧ ∀ r, e'.evaluate r = e.evaluate r) ∧
      (Json.maxDepth < v.depth → ∃ fault, parse Tracker.workItemFields (Json.compactText v) =
        .error (.malformed fault) ∧ fault.cause = .tooDeep) ∧
      ∃ u, Json.parse (Text.trim s.toList) = .ok u ∧ v.depth ≤ 2 * u.depth + 1 := by
  obtain ⟨v, hWrite, hDepth, hFlat, hDeep⟩ := (sound_of_parse_workItemFields h).written
  obtain ⟨u, hText, hFilter⟩ := parse_eq_ok_some_iff.mp h
  have hSays := (ofJson_says_iff (Json.keyed_of_parse hText)).mp hFilter
  refine ⟨v, hWrite, fun hBound => ?_, hDeep, u, hText, ?_⟩
  · exact ⟨e.normal, hFlat hBound, fun r => e.evaluate_normal r⟩
  · rw [hDepth]
    exact Nat.succ_le_succ ((writtenDepth_le u).2 e hSays)

/-- Open items, said once more at each of `n` levels around it. -/
def nested : Nat → Json
  | 0 => .object [("state", .string "open")]
  | n + 1 => .object [("$AND", .array [nested n]), ("state", .string "open")]

/-- What the nested filter says. -/
def nestedExpression : Nat → Expression
  | 0 => .equals Tracker.stateAttribute (.text "open")
  | n + 1 => .group .all [.group .all [nestedExpression n],
      .equals Tracker.stateAttribute (.text "open")]

theorem depth_nested (n : Nat) : (nested n).depth = 2 * n + 1 := by
  induction n with
  | zero => rfl
  | succ n ih =>
    simp only [nested, Json.depth, Json.membersDepth, Json.itemsDepth, ih]
    omega

theorem plain_nested (n : Nat) : (nested n).Plain := by
  have hOpen : (Json.string "open").Plain := ⟨.string, .string⟩
  induction n with
  | zero => exact .single "state" hOpen
  | succ n ih =>
    have hGroup : (Json.array [nested n]).Plain := .array (List.forall_mem_singleton.mpr ih)
    have hKeys : ["$AND", "state"].Nodup := by decide
    exact .object hKeys (List.forall_mem_cons.mpr
      ⟨hGroup, List.forall_mem_singleton.mpr hOpen⟩)

theorem says_nested (n : Nat) : Says Tracker.workItemFields (nested n) (nestedExpression n) := by
  have hState : NodeOf Tracker.workItemFields ("state", .string "open")
      (.equals Tracker.stateAttribute (.text "open")) :=
    .field (by decide) rfl (.literal rfl)
  have hMarks : ∀ ms : List (String × Json), (∀ m ∈ ms, m.1 ≠ negateKey) → Marks ms false :=
    fun ms h => .inr ⟨rfl, h⟩
  induction n with
  | zero => exact .object (hMarks _ (by simp [negateKey])) (.cons hState .nil) (.one _)
  | succ n ih =>
    have hGroup : NodeOf Tracker.workItemFields ("$AND", .array [nested n])
        (.group .all [nestedExpression n]) :=
      .group .all (List.cons_ne_nil _ _) (.cons ih .nil)
    exact .object (hMarks _ (by simp [negateKey])) (.cons hGroup (.cons hState .nil))
      (.group _ _ _)

theorem writtenDepth_nestedExpression (n : Nat) : (nestedExpression n).writtenDepth = 4 * n := by
  induction n with
  | zero => rfl
  | succ n ih =>
    simp only [nestedExpression, Expression.writtenDepth, Expression.writtenDepths, ih,
      Literal.toJson, Json.depth]
    omega

theorem parse_nested {n : Nat} (hn : n ≤ 63) :
    parse Tracker.workItemFields (Json.compactText (nested n)) =
      .ok (some (nestedExpression n)) := by
  have hPlain := plain_nested n
  have hRead := (ofJson_says_iff hPlain.keyed).mpr (says_nested n)
  obtain ⟨members, hMembers, -⟩ := ofJson_eq_ok_iff.mp hRead
  have hDepth : (nested n).depth ≤ Json.maxDepth := by
    rw [depth_nested, Json.maxDepth]
    omega
  rw [hMembers] at hPlain hRead hDepth ⊢
  exact (parse_compactText hPlain hRead).1 hDepth

/-- The filter that is nested thirty-two times is read from a text sixty-five deep. What is written
for it is twice as deep, less one, and too deep to be read. -/
theorem nested_written_text_refused :
    parse Tracker.workItemFields (Json.compactText (nested 32)) = .ok (some (nestedExpression 32)) ∧
      ∃ v, (nestedExpression 32).toJson = .ok v ∧ v.depth = 129 ∧
        ∃ fault, parse Tracker.workItemFields (Json.compactText v) = .error (.malformed fault) ∧
          fault.cause = .tooDeep := by
  have hParse := parse_nested (n := 32) (by decide)
  obtain ⟨v, hWrite, hDepth, -, hDeep⟩ := (sound_of_parse_workItemFields hParse).written
  rw [writtenDepth_nestedExpression] at hDepth
  have hLimit : Json.maxDepth < v.depth := by
    rw [hDepth, Json.maxDepth]
    decide
  exact ⟨hParse, v, hWrite, hDepth, hDeep hLimit⟩

theorem nested_once_reads_back :
    parse Tracker.workItemFields (Json.compactText (nested 1)) = .ok (some (nestedExpression 1)) ∧
      ∃ v, (nestedExpression 1).toJson = .ok v ∧
        (v.depth ≤ Json.maxDepth → ∃ e', parse Tracker.workItemFields (Json.compactText v) =
          .ok (some e') ∧ ∀ r, e'.evaluate r = (nestedExpression 1).evaluate r) ∧
        (Json.maxDepth < v.depth → ∃ fault, parse Tracker.workItemFields (Json.compactText v) =
          .error (.malformed fault) ∧ fault.cause = .tooDeep) ∧
        ∃ u, Json.parse (Text.trim (Json.compactText (nested 1)).toList) = .ok u ∧
          v.depth ≤ 2 * u.depth + 1 := by
  have hParse := parse_nested (n := 1) (by decide)
  exact ⟨hParse, written_text_reads_back hParse⟩

end Worklist.Filter
