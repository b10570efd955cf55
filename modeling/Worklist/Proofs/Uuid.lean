import Mathlib
import Worklist.Uuid

/-!
# Identifiers read back

The written form of an identifier is read as that identifier. It starts with a digit, so that it is
not taken for one of the decorated forms, and its hyphens keep it from being taken for the bare one.
-/

namespace Worklist.Uuid

theorem digitValue?_digitChar (d : Fin 16) : digitValue? (digitChar d) = some d := by
  revert d
  decide

theorem mapM_digitValue?_digitChar (ds : List (Fin 16)) :
    (ds.map digitChar).mapM digitValue? = some ds := by
  induction ds with
  | nil => rfl
  | cons d ds ih => simp [List.mapM_cons, digitValue?_digitChar, ih]

theorem mapM_digitValue?_of_hyphen {cs : List Char} (h : '-' ∈ cs) :
    cs.mapM digitValue? = none := by
  induction cs with
  | nil => cases h
  | cons c cs ih =>
    rcases List.mem_cons.mp h with rfl | h
    · have hHyphen : digitValue? '-' = none := by decide
      simp [List.mapM_cons, hHyphen]
    · cases hc : digitValue? c <;> simp [List.mapM_cons, hc, ih h]

theorem unhyphenate?_hyphenate (sizes : List Nat) (cs : List Char) (h : cs.length = sizes.sum) :
    unhyphenate? sizes (hyphenate sizes cs) = some cs := by
  induction sizes generalizing cs with
  | nil =>
    have hNil : cs = [] := List.length_eq_zero_iff.mp h
    simp [hyphenate, unhyphenate?, hNil]
  | cons n sizes ih =>
    rw [List.sum_cons] at h
    cases sizes with
    | nil =>
      have hLength : cs.length = n := by simpa using h
      have hTake : cs.take n = cs := List.take_of_length_le (by omega)
      simp [hyphenate, unhyphenate?, hTake, hLength]
    | cons m sizes =>
      have hTake : (cs.take n).length = n := by
        rw [List.length_take]
        omega
      have hRest := ih (cs.drop n) (by rw [List.length_drop]; omega)
      simp [hyphenate, unhyphenate?, hTake, hRest]

theorem length_map_digitChar (u : Uuid) : (u.digits.map digitChar).length = groups.sum := by
  rw [List.length_map, u.size]
  rfl

theorem ofSimple?_digits (u : Uuid) : ofSimple? (u.digits.map digitChar) = some u := by
  rw [ofSimple?, mapM_digitValue?_digitChar, Option.bind_some, ofDigits?, dif_pos u.size]

theorem ofHyphenated?_chars (u : Uuid) : ofHyphenated? u.chars = some u := by
  have hBare := unhyphenate?_hyphenate groups _ u.length_map_digitChar
  rw [ofHyphenated?, chars, hBare, Option.bind_some, ofSimple?_digits]

/-- The written form with its first digit and its first hyphen in sight. -/
theorem chars_eq (u : Uuid) : ∃ d front back, u.chars = digitChar d :: (front ++ '-' :: back) := by
  cases hd : u.digits with
  | nil =>
    have hSize := u.size
    rw [hd] at hSize
    cases hSize
  | cons d ds =>
    refine ⟨d, (ds.map digitChar).take 7, hyphenate [4, 4, 4, 12] ((ds.map digitChar).drop 7), ?_⟩
    simp [chars, groups, hyphenate, hd]

theorem mem_hyphenate {sizes : List Nat} {cs : List Char} {c : Char}
    (h : c ∈ hyphenate sizes cs) : c = '-' ∨ c ∈ cs := by
  induction sizes generalizing cs with
  | nil => cases h
  | cons n sizes ih =>
    cases sizes with
    | nil => exact .inr (List.mem_of_mem_take h)
    | cons m sizes =>
      rw [hyphenate, List.mem_append, List.mem_cons] at h
      · rcases h with h | rfl | h
        · exact .inr (List.mem_of_mem_take h)
        · exact .inl rfl
        · exact (ih h).imp_right List.mem_of_mem_drop
      · nofun

theorem mem_chars {u : Uuid} {c : Char} (h : c ∈ u.chars) : c = '-' ∨ ∃ d, c = digitChar d := by
  refine (mem_hyphenate h).imp_right ?_
  intro hDigit
  obtain ⟨d, -, rfl⟩ := List.mem_map.mp hDigit
  exact ⟨d, rfl⟩

theorem digitChar_ne_brace (d : Fin 16) : digitChar d ≠ '\x7b' := by
  revert d
  decide

theorem toLower_digitChar_ne (d : Fin 16) : (digitChar d).toLower ≠ 'u' := by
  revert d
  decide

theorem parse?_text (u : Uuid) : parse? u.text = some u := by
  obtain ⟨d, front, back, hChars⟩ := u.chars_eq
  have hBraced : braced? u.chars = none := by
    rw [hChars]
    unfold braced?
    split
    · rename_i heq
      exact absurd (List.cons.inj heq).1 (digitChar_ne_brace d)
    · rfl
  have hName : afterName? u.chars = none := by
    rw [hChars, afterName?, if_neg]
    intro hEq
    exact toLower_digitChar_ne d (List.cons.inj hEq).1
  have hSimple : ofSimple? u.chars = none := by
    have hHyphen : '-' ∈ u.chars := by simp [hChars]
    simp [ofSimple?, mapM_digitValue?_of_hyphen hHyphen]
  simp [parse?, text, ofChars?, hBraced, hName, hSimple, ofHyphenated?_chars]

/-- The identifier that repeats a digit. -/
def repeated (n : Nat) : Uuid where
  digits := List.replicate 32 ⟨n % 16, Nat.mod_lt n (by decide)⟩
  size := List.length_replicate

end Worklist.Uuid
