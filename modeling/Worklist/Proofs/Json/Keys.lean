import Worklist.Json.Reader
import Worklist.Proofs.Except
import Worklist.Proofs.Json.Tree
import Worklist.Proofs.Lists

/-!
# Keys of objects

A key that is written again replaces the earlier value, so no object that is read from a text has a
key twice, and members whose keys differ are kept as they are.
-/

namespace Worklist.Json

/-- No object in the value has a key twice. -/
inductive Keyed : Json → Prop where
  | null : Keyed .null
  | bool {b : Bool} : Keyed (.bool b)
  | number {n : Number} : Keyed (.number n)
  | string {s : String} : Keyed (.string s)
  | array {items : List Json} : (∀ v ∈ items, Keyed v) → Keyed (.array items)
  | object {members : List (String × Json)} : (members.map (·.1)).Nodup →
      (∀ m ∈ members, Keyed m.2) → Keyed (.object members)

variable {key : String} {v : Json} {ms : List (String × Json)}

/-- Members whose keys differ are known by their key. -/
theorem eq_of_mem_of_key_eq {m r : String × Json} (h : (ms.map (·.1)).Nodup) (hm : m ∈ ms)
    (hr : r ∈ ms) (hKey : m.1 = r.1) : m = r := by
  induction ms with
  | nil => cases hm
  | cons first rest ih =>
    obtain ⟨hFirst, hRest⟩ := List.nodup_cons.mp h
    rcases List.mem_cons.mp hm with rfl | hmRest
    · rcases List.mem_cons.mp hr with rfl | hrRest
      · rfl
      · exact (hFirst (List.mem_map.mpr ⟨r, hrRest, hKey.symm⟩)).elim
    · rcases List.mem_cons.mp hr with rfl | hrRest
      · exact (hFirst (List.mem_map.mpr ⟨m, hmRest, hKey⟩)).elim
      · exact ih hRest hmRest hrRest

/-! ### Setting members -/

theorem put_of_not_mem (h : key ∉ ms.map (·.1)) : put key v ms = ms ++ [(key, v)] := by
  induction ms with
  | nil => rfl
  | cons m rest ih =>
    obtain ⟨k, x⟩ := m
    simp only [List.map_cons, List.mem_cons, not_or] at h
    rw [put, if_neg (Ne.symm h.1), ih h.2, List.cons_append]

theorem keys_put_of_mem (h : key ∈ ms.map (·.1)) : (put key v ms).map (·.1) = ms.map (·.1) := by
  induction ms with
  | nil => cases h
  | cons m rest ih =>
    obtain ⟨k, x⟩ := m
    by_cases hk : k = key
    · rw [put, if_pos hk]
      rfl
    · have hRest : key ∈ rest.map (·.1) := by
        rcases List.mem_cons.mp h with hEq | hRest
        · exact absurd hEq.symm hk
        · exact hRest
      rw [put, if_neg hk, List.map_cons, ih hRest, List.map_cons]

theorem nodup_keys_put (h : (ms.map (·.1)).Nodup) : ((put key v ms).map (·.1)).Nodup := by
  by_cases hKey : key ∈ ms.map (·.1)
  · rw [keys_put_of_mem hKey]
    exact h
  · rw [put_of_not_mem hKey, List.map_append, List.nodup_append]
    refine ⟨h, by simp, ?_⟩
    intro x hx y hy hEq
    rw [hEq, List.mem_singleton.mp hy] at hx
    exact hKey hx

theorem mem_put {m : String × Json} (h : m ∈ put key v ms) : m = (key, v) ∨ m ∈ ms := by
  induction ms with
  | nil => exact .inl (List.mem_singleton.mp h)
  | cons first rest ih =>
    obtain ⟨k, x⟩ := first
    rw [put] at h
    split at h
    · rename_i hk
      rcases List.mem_cons.mp h with rfl | h
      · exact .inl (by rw [hk])
      · exact .inr (List.mem_cons_of_mem _ h)
    · rcases List.mem_cons.mp h with rfl | h
      · exact .inr List.mem_cons_self
      · exact (ih h).imp_right (List.mem_cons_of_mem _)

/-! ### Collecting members -/

/-- Setting members one after the other keeps the keys apart and takes nothing from elsewhere. -/
theorem collect_from (members : List (String × Json)) (h : (ms.map (·.1)).Nodup) :
    ((members.foldl (fun acc (k, v) => put k v acc) ms).map (·.1)).Nodup ∧
      ∀ m ∈ members.foldl (fun acc (k, v) => put k v acc) ms, m ∈ ms ∨ m ∈ members := by
  induction members generalizing ms with
  | nil => exact ⟨h, fun m hm => .inl hm⟩
  | cons first rest ih =>
    obtain ⟨k, v⟩ := first
    have hPut : ((put k v ms).map (·.1)).Nodup := nodup_keys_put h
    obtain ⟨hKeys, hMem⟩ := ih hPut
    refine ⟨hKeys, fun m hm => ?_⟩
    rcases hMem m hm with hm | hm
    · rcases mem_put hm with rfl | hm
      · exact .inr List.mem_cons_self
      · exact .inl hm
    · exact .inr (List.mem_cons_of_mem _ hm)

theorem nodup_keys_collect (members : List (String × Json)) :
    ((collect members).map (·.1)).Nodup := by
  have hNil : (([] : List (String × Json)).map (·.1)).Nodup := List.nodup_nil
  exact (collect_from members hNil).1

theorem mem_of_mem_collect {m : String × Json} (h : m ∈ collect ms) : m ∈ ms := by
  have hNil : (([] : List (String × Json)).map (·.1)).Nodup := List.nodup_nil
  rcases (collect_from ms hNil).2 m h with hm | hm
  · cases hm
  · exact hm

theorem foldl_put_of_nodup {members : List (String × Json)}
    (h : ((ms ++ members).map (·.1)).Nodup) :
    members.foldl (fun acc (k, v) => put k v acc) ms = ms ++ members := by
  induction members generalizing ms with
  | nil => exact (List.append_nil ms).symm
  | cons first rest ih =>
    obtain ⟨k, v⟩ := first
    have hSplit : ms ++ (k, v) :: rest = (ms ++ [(k, v)]) ++ rest := by simp
    have hKey : k ∉ ms.map (·.1) := by
      rw [List.map_append, List.map_cons, List.nodup_append] at h
      exact fun hk => h.2.2 k hk k List.mem_cons_self rfl
    rw [hSplit] at h ⊢
    rw [List.foldl_cons, ← ih h, ← put_of_not_mem hKey]

/-- Members with different keys are kept. -/
theorem collect_of_nodup (h : (ms.map (·.1)).Nodup) : collect ms = ms :=
  foldl_put_of_nodup h

/-! ### Values of texts -/

namespace Located

theorem refuse_eq_ok_iff {fault : Option Fault} {u : Unit} :
    refuse fault = .ok u ↔ fault = none := by
  cases fault <;> simp [refuse]

theorem itemValues_eq_ok_iff {items : List Located} {vs : List Json} :
    itemValues items = .ok vs ↔ List.Forall₂ (fun l v => l.value = .ok v) items vs := by
  induction items generalizing vs with
  | nil => simp [itemValues, eq_comm]
  | cons l rest ih =>
    rw [List.forall₂_cons_left_iff]
    simp only [itemValues, bind_eq_ok_iff, ih]
    constructor
    · rintro ⟨x, hx, xs, hxs, hEq⟩
      cases hEq
      exact ⟨x, xs, hx, hxs, rfl⟩
    · rintro ⟨x, xs, hx, hxs, rfl⟩
      exact ⟨x, hx, xs, hxs, rfl⟩

theorem memberValues_eq_ok_iff {members : List (Key × Located)} {vs : List (String × Json)} :
    memberValues members = .ok vs ↔
      List.Forall₂ (fun m r => m.1.fault = none ∧ m.1.name = r.1 ∧ m.2.value = .ok r.2)
        members vs := by
  induction members generalizing vs with
  | nil => simp [memberValues, eq_comm]
  | cons m rest ih =>
    obtain ⟨k, l⟩ := m
    rw [List.forall₂_cons_left_iff]
    simp only [memberValues, bind_eq_ok_iff, refuse_eq_ok_iff, ih]
    constructor
    · rintro ⟨-, hFault, x, hx, xs, hxs, hEq⟩
      cases hEq
      exact ⟨(k.name, x), xs, ⟨hFault, rfl, hx⟩, hxs, rfl⟩
    · rintro ⟨⟨-, x⟩, xs, ⟨hFault, rfl, hx⟩, hxs, rfl⟩
      exact ⟨(), hFault, x, hx, xs, hxs, rfl⟩

theorem keyed_of_value {l : Located} (h : l.value = .ok v) : v.Keyed := by
  induction l generalizing v with
  | null =>
    cases h
    exact .null
  | bool =>
    cases h
    exact .bool
  | number =>
    cases h
    exact .number
  | string =>
    cases h
    exact .string
  | array span items ending ih =>
    rw [value, bind_eq_ok_iff] at h
    obtain ⟨vs, hItems, h⟩ := h
    obtain ⟨-, -, hEq⟩ := bind_eq_ok_iff.mp h
    cases hEq
    refine .array fun v hv => ?_
    obtain ⟨l, hl, hValue⟩ := exists_left_of_mem (itemValues_eq_ok_iff.mp hItems) hv
    exact ih l hl hValue
  | object span members ending ih =>
    rw [value, bind_eq_ok_iff] at h
    obtain ⟨vs, hMembers, h⟩ := h
    obtain ⟨-, -, hEq⟩ := bind_eq_ok_iff.mp h
    cases hEq
    refine .object (nodup_keys_collect vs) fun m hm => ?_
    obtain ⟨k, hk, -, -, hValue⟩ :=
      exists_left_of_mem (memberValues_eq_ok_iff.mp hMembers) (mem_of_mem_collect hm)
    exact ih k hk hValue
  | unreadable => cases h

end Located

/-- The law of reading a text: the value of what is read, if nothing is wrong with it and nothing
follows it. -/
theorem parse_eq_ok_iff {cs : List Char} :
    parse cs = .ok v ↔ (read cs).1.value = .ok v ∧ (read cs).2 = none := by
  unfold parse
  obtain ⟨tree, trailing⟩ := read cs
  cases hValue : tree.value with
  | error fault => simp [hValue]
  | ok x => cases trailing <;> simp [hValue]

theorem keyed_of_parse {cs : List Char} (h : parse cs = .ok v) : v.Keyed :=
  Located.keyed_of_value (parse_eq_ok_iff.mp h).1

end Worklist.Json
