import Worklist.Proofs.Json.Locality
import Worklist.Proofs.Json.RoundTrip

/-!
# Members as they are written

A text may write a key of its object again. The members that it writes are read all of them, in
order; the object that is had of them keeps a member if its key is not written again behind it.
-/

namespace Worklist.Json

variable {key : String} {v : Json} {ms ms' members : List (String × Json)} {m : String × Json}
  {cs : List Char}

/-! ### Members that count -/

/-- The member is written, and its key is not written again behind it. -/
def Counts (ms : List (String × Json)) (m : String × Json) : Prop :=
  ∃ before after, ms = before ++ m :: after ∧ ∀ x ∈ after, x.1 ≠ m.1

theorem mem_put_iff (h : (ms.map (·.1)).Nodup) :
    m ∈ put key v ms ↔ m = (key, v) ∨ m ∈ ms ∧ m.1 ≠ key := by
  induction ms with
  | nil => simp [put]
  | cons first rest ih =>
    obtain ⟨k, x⟩ := first
    obtain ⟨hFirst, hRest⟩ := List.nodup_cons.mp h
    rw [put]
    split
    case isTrue hk =>
      subst hk
      have hOther : m ∈ rest → m.1 ≠ k := by
        rintro hm rfl
        exact hFirst (List.mem_map.mpr ⟨m, hm, rfl⟩)
      simp only [List.mem_cons]
      constructor
      · rintro (rfl | hm)
        · exact .inl rfl
        · exact .inr ⟨.inr hm, hOther hm⟩
      · rintro (rfl | ⟨rfl | hm, hne⟩)
        · exact .inl rfl
        · exact absurd rfl hne
        · exact .inr hm
    case isFalse hk =>
      simp only [List.mem_cons, ih hRest]
      constructor
      · rintro (rfl | rfl | ⟨hm, hne⟩)
        · exact .inr ⟨.inl rfl, hk⟩
        · exact .inl rfl
        · exact .inr ⟨.inr hm, hne⟩
      · rintro (rfl | ⟨rfl | hm, hne⟩)
        · exact .inr (.inl rfl)
        · exact .inl rfl
        · exact .inr (.inr ⟨hm, hne⟩)

theorem counts_concat_iff {last : String × Json} :
    Counts (ms ++ [last]) m ↔ m = last ∨ Counts ms m ∧ m.1 ≠ last.1 := by
  constructor
  · rintro ⟨before, after, hEq, hAfter⟩
    rcases after.eq_nil_or_concat' with rfl | ⟨after, x, rfl⟩
    · obtain ⟨-, hLast⟩ := List.append_inj' hEq rfl
      exact .inl (List.cons.inj hLast).1.symm
    · rw [← List.cons_append, ← List.append_assoc] at hEq
      obtain ⟨rfl, hLast⟩ := List.append_inj' hEq rfl
      obtain ⟨rfl, -⟩ := List.cons.inj hLast
      obtain ⟨hAfter, hx⟩ := List.forall_mem_append.mp hAfter
      exact .inr ⟨⟨before, after, rfl, hAfter⟩, (hx last (List.mem_singleton.mpr rfl)).symm⟩
  · rintro (rfl | ⟨⟨before, after, rfl, hAfter⟩, hne⟩)
    · exact ⟨ms, [], rfl, List.forall_mem_nil _⟩
    · exact ⟨before, after ++ [last], by simp,
        List.forall_mem_append.mpr ⟨hAfter, List.forall_mem_singleton.mpr hne.symm⟩⟩

/-- The object keeps the members that count. Induction from the last member that is written. -/
theorem mem_collect_iff : m ∈ collect ms ↔ Counts ms m := by
  induction ms using List.reverseRecOn with
  | nil => simp [collect, Counts]
  | append_singleton ms last ih =>
    have hStep : collect (ms ++ [last]) = put last.1 last.2 (collect ms) := by
      simp [collect]
    rw [hStep, mem_put_iff (nodup_keys_collect ms), ih, counts_concat_iff]

theorem counts_iff_of_nodup (h : (ms.map (·.1)).Nodup) : Counts ms m ↔ m ∈ ms := by
  rw [← mem_collect_iff, collect_of_nodup h]

/-! ### Texts of objects -/

/-- The text is one of an object, and these are the members that it writes, in order. -/
def Writes (cs : List Char) (ms : List (String × Json)) : Prop :=
  ∃ span trees, read cs = (.object span trees none, none) ∧ Located.memberValues trees = .ok ms

theorem Writes.unique (h : Writes cs ms) (h' : Writes cs ms') : ms = ms' := by
  obtain ⟨span, trees, hRead, hMembers⟩ := h
  obtain ⟨span', trees', hRead', hMembers'⟩ := h'
  rw [hRead] at hRead'
  cases hRead'
  exact Except.ok.inj (hMembers.symm.trans hMembers')

theorem Located.eq_object_of_value {l : Located} (h : l.value = .ok (.object members)) :
    ∃ span trees ms, l = .object span trees none ∧ memberValues trees = .ok ms ∧
      members = collect ms := by
  cases l with
  | object span trees ending =>
    obtain ⟨ms, hMembers, rfl, hEq⟩ := value_object_eq_ok_iff.mp h
    cases hEq
    exact ⟨span, trees, ms, rfl, hMembers, rfl⟩
  | array =>
    obtain ⟨_, _, _, hEq⟩ := value_array_eq_ok_iff.mp h
    cases hEq
  | _ => cases h

/-- The text of an object writes members, and the object is had of them. -/
theorem parse_eq_ok_object_iff :
    parse cs = .ok (.object members) ↔ ∃ ms, Writes cs ms ∧ members = collect ms := by
  rw [parse_eq_ok_iff]
  constructor
  · rintro ⟨hValue, hEnd⟩
    obtain ⟨span, trees, ms, hTree, hMembers, rfl⟩ := Located.eq_object_of_value hValue
    exact ⟨ms, ⟨span, trees, Prod.ext hTree hEnd, hMembers⟩, rfl⟩
  · rintro ⟨ms, ⟨span, trees, hRead, hMembers⟩, rfl⟩
    rw [hRead]
    exact ⟨Located.value_object_eq_ok_iff.mpr ⟨ms, hMembers, rfl, rfl⟩, rfl⟩

theorem Shows.eq_object {depth : Nat} {tree : Located} (h : Shows depth tree (.object ms))
    (hDepth : 0 < depth) :
    ∃ span trees, tree = .object span trees none ∧ ShowsMembers (depth - 1) trees ms := by
  cases h with
  | object hMembers => exact ⟨_, _, rfl, hMembers⟩
  | deepObject => exact absurd hDepth (Nat.lt_irrefl 0)

/-- A text that lays out members as an object writes these members, whether keys are repeated or
not. -/
theorem writes_layout {before after : List Char} (h : Row MemberLayout true ms cs)
    (hBefore : IsGap before) (hAfter : IsGap after) (hKeyed : ∀ m ∈ ms, m.2.Keyed)
    (hDepth : membersDepth ms < maxDepth) :
    Writes (before ++ ('\x7b' :: (cs ++ ['\x7d']) ++ after)) ms := by
  obtain ⟨tree, hRead, hShows⟩ := read_layout (.object h) hBefore hAfter
  obtain ⟨span, trees, rfl, hMembers⟩ := hShows.eq_object (by decide)
  refine ⟨span, trees, hRead, ?_⟩
  have hValues := hMembers.value fun m hm tree hTree => hTree.value (hKeyed m hm)
  rcases hValues with ⟨-, hOk⟩ | ⟨hDeep, -⟩
  · exact hOk
  · exact absurd hDepth (by omega)

theorem writes_compact (h : ∀ m ∈ ms, m.2.Plain) (hDepth : membersDepth ms < maxDepth) :
    Writes (Json.object ms).compact ms := by
  have hRow := row_compactMembers true fun m hm => layout_compact (h m hm).exact
  have hWrites := writes_layout hRow .nil .nil (fun m hm => (h m hm).keyed) hDepth
  simpa [compact] using hWrites

end Worklist.Json
