import Mathlib.Data.List.TakeWhile
import Worklist.Json.Reader
import Worklist.Json.Writer
import Worklist.Proofs.Text.Numeral

/-!
# Texts, numbers and words read back

What is written for a text, a whole number or a word is read as that, and reading goes on behind it.
A number has to be followed by a character that it cannot go on with.
-/

namespace Worklist.Json

/-! ### Texts -/

/-- The characters of an escape are passed over. -/
theorem readString_skip (p : Place) (cs rest : List Char) :
    readString p cs.length (cs ++ rest) = readString (p.afterAll cs) 0 rest := by
  induction cs generalizing p with
  | nil => rfl
  | cons c cs ih =>
    rw [List.cons_append, List.length_cons, readString, ih]
    rfl

theorem readString_escape_char {p : Place} {rest : List Char} {c : Char} (letters : List Char)
    (h : escapeAt (p.plus 1) (letters ++ rest) = .char c letters.length) :
    ∃ p', readString p 0 ('\\' :: (letters ++ rest)) =
      ((readString p' 0 rest).1.cons c, (readString p' 0 rest).2) := by
  refine ⟨(p.plus 1).afterAll letters, ?_⟩
  rw [← readString_skip, readString]
  simp [h]

theorem readString_plain {p : Place} {rest : List Char} {c : Char} (hQuote : c ≠ '"')
    (hBackslash : c ≠ '\\') (hControl : ¬c.toNat < 0x20) :
    readString p 0 (c :: rest) =
      ((readString (p.after c) 0 rest).1.cons c, (readString (p.after c) 0 rest).2) := by
  rw [readString]
  simp [hQuote, hBackslash, hControl]

theorem utf8Size_hexDigit {n : Nat} (h : n < 16) : (Text.hexDigit n).utf8Size = 1 := by
  have hAll : ∀ m : Fin 16, (Text.hexDigit m).utf8Size = 1 := by decide
  exact hAll ⟨n, h⟩

theorem fourDigits_control (p : Place) {n : Nat} (h : n < 0x20) (rest : List Char) :
    fourDigits p ('0' :: '0' :: Text.hexDigit (n / 16) :: Text.hexDigit (n % 16) :: rest) =
      .ok n := by
  have hHigh : n / 16 < 16 := by omega
  have hLow : n % 16 < 16 := by omega
  have hZero : Text.hexValue? '0' = some 0 := by decide
  have hSize : '0'.utf8Size = 1 := by decide
  have hSum : n / 16 * 16 + n % 16 = n := by omega
  simp [fourDigits, Place.afterBytes?, hSize, utf8Size_hexDigit hHigh, utf8Size_hexDigit hLow,
    List.mapM_cons, hZero, Text.hexValue?_hexDigit hHigh, Text.hexValue?_hexDigit hLow, hSum]

theorem codeEscape_control (p : Place) {c : Char} (h : c.toNat < 0x20) (rest : List Char) :
    codeEscape p ('0' :: '0' :: Text.hexDigit (c.toNat / 16) :: Text.hexDigit (c.toNat % 16) ::
      rest) = .char c 5 := by
  have hLow : ¬0xDC00 ≤ c.toNat := by omega
  have hHigh : c.toNat < 0xD800 := by omega
  simp [codeEscape, fourDigits_control p h, hLow, hHigh, Char.ofNat_toNat]

/-- A character is read from what is written for it, whether that is an escape or not. -/
theorem readString_escape (p : Place) (c : Char) (rest : List Char) :
    ∃ p', readString p 0 (escape c ++ rest) =
      ((readString p' 0 rest).1.cons c, (readString p' 0 rest).2) := by
  have hShort : ∀ letter : Char, escapeAt (p.plus 1) (letter :: rest) = .char c 1 →
      ∃ p', readString p 0 ('\\' :: letter :: rest) =
        ((readString p' 0 rest).1.cons c, (readString p' 0 rest).2) :=
    fun letter h => readString_escape_char [letter] h
  unfold escape
  split_ifs with hQuote hBackslash h8 h9 hA hC hD hControl
  · exact hShort '"' (by simp [escapeAt, hQuote])
  · exact hShort '\\' (by simp [escapeAt, hBackslash])
  · exact hShort 'b' (by simp [escapeAt, (Char.toNat_inj.mp h8 : c = '\x08')])
  · exact hShort 't' (by simp [escapeAt, (Char.toNat_inj.mp h9 : c = '\t')])
  · exact hShort 'n' (by simp [escapeAt, (Char.toNat_inj.mp hA : c = '\n')])
  · exact hShort 'f' (by simp [escapeAt, (Char.toNat_inj.mp hC : c = '\x0c')])
  · exact hShort 'r' (by simp [escapeAt, (Char.toNat_inj.mp hD : c = '\x0d')])
  · refine readString_escape_char ['u', '0', '0', Text.hexDigit (c.toNat / 16),
      Text.hexDigit (c.toNat % 16)] ?_
    simp [escapeAt, codeEscape_control _ hControl]
  · exact ⟨_, readString_plain hQuote hBackslash hControl⟩

/-- A text is read from what is written for it up to the closing quote. -/
theorem readString_escaped (p : Place) (cs rest : List Char) :
    ∃ p', readString p 0 (cs.flatMap escape ++ '"' :: rest) =
      (⟨cs, none⟩, .ok ⟨p', rest⟩) := by
  induction cs generalizing p with
  | nil => exact ⟨_, by rw [List.flatMap_nil, List.nil_append, readString, if_pos rfl]⟩
  | cons c cs ih =>
    rw [List.flatMap_cons, List.append_assoc]
    obtain ⟨p', hFirst⟩ := readString_escape p c (cs.flatMap escape ++ '"' :: rest)
    obtain ⟨p'', hRest⟩ := ih p'
    rw [hFirst, hRest]
    exact ⟨p'', rfl⟩

theorem readText_stringText (start : Place) (s : String) (rest : List Char) :
    ∃ tail next, stringText s ++ rest = '"' :: tail ∧
      readText start tail = (.string (some ⟨start, next⟩) s, .ok ⟨next, rest⟩) := by
  obtain ⟨next, h⟩ := readString_escaped (start.plus 1) s.toList rest
  refine ⟨s.toList.flatMap escape ++ '"' :: rest, next, by simp [stringText], ?_⟩
  simp only [readText, h, String.ofList_toList]

/-! ### Numbers -/

/-- A text that does not continue a number before it. -/
def EndsNumber (rest : List Char) : Prop :=
  ∀ c ∈ rest.head?, isDigit c = false ∧ c ≠ '.' ∧ c ≠ 'e' ∧ c ≠ 'E'

theorem isDigit_iff {c : Char} : isDigit c = true ↔ c.isDigit = true := by
  simp [isDigit, Char.isDigit, Char.le_def]

theorem isDigit_of_mem_decimal {n : Nat} {c : Char} (h : c ∈ Text.decimal n) : isDigit c = true :=
  isDigit_iff.mpr (Text.isDigit_of_mem_decimal h)

theorem takeWhile_digits {rest : List Char} (n : Nat) (h : EndsNumber rest) :
    (Text.decimal n ++ rest).takeWhile isDigit = Text.decimal n ∧
      (Text.decimal n ++ rest).dropWhile isDigit = rest := by
  have hDigits : ∀ c ∈ Text.decimal n, isDigit c = true := fun c hc => isDigit_of_mem_decimal hc
  rw [List.takeWhile_append_of_pos hDigits, List.dropWhile_append_of_pos hDigits]
  cases rest with
  | nil => simp
  | cons c rest =>
    have hc := (h c rfl).1
    simp [hc]

theorem le_of_digitsFrom? {acc n : Nat} {cs : List Char} (h : Text.digitsFrom? acc cs = some n) :
    acc ≤ n := by
  induction cs generalizing acc with
  | nil =>
    cases h
    exact Nat.le_refl _
  | cons c cs ih =>
    rw [Text.digitsFrom?, Option.bind_eq_some_iff] at h
    obtain ⟨d, -, h⟩ := h
    have hNext := ih h
    omega

/-- Digits are collected to the end as long as their number fits. -/
theorem collectDigits_of_digitsFrom? {limit acc n : Nat} {cs : List Char} (hn : n ≤ limit)
    (h : Text.digitsFrom? acc cs = some n) : collectDigits limit acc cs = (n, []) := by
  induction cs generalizing acc with
  | nil =>
    cases h
    rfl
  | cons c cs ih =>
    rw [Text.digitsFrom?, Option.bind_eq_some_iff] at h
    obtain ⟨d, hd, h⟩ := h
    have hValue : digitValue c = d := by
      unfold Text.digit? at hd
      split at hd
      · exact Option.some.inj hd
      · cases hd
    have hNext := le_of_digitsFrom? h
    rw [collectDigits, hValue, if_pos (by omega)]
    exact ih h

/-- No decimal text has a zero in front of other digits. -/
theorem eq_nil_of_decimal_eq_zero_cons {n : Nat} {cs : List Char}
    (h : Text.decimal n = '0' :: cs) : cs = [] := by
  induction n using Nat.strongRecOn generalizing cs with
  | ind n ih =>
    by_cases hn : n < 10
    · rw [Text.decimal_of_lt hn] at h
      exact (List.cons.inj h).2.symm
    · have hLt : n / 10 < n := by omega
      rw [Text.decimal_of_ge (by omega)] at h
      cases hHead : Text.decimal (n / 10) with
      | nil => exact absurd hHead (Text.decimal_ne_nil _)
      | cons c tail =>
        rw [hHead, List.cons_append, List.cons.injEq] at h
        obtain ⟨rfl, -⟩ := h
        have hTail := ih _ hLt hHead
        -- So the number without its last digit is zero, and the number is a digit itself.
        have hZero := Text.digitsFrom?_decimal (n / 10)
        have hDigit : Text.digitsFrom? 0 ['0'] = some 0 := by decide
        rw [hHead, hTail, hDigit, Option.some.injEq] at hZero
        omega

theorem readNumber_decimal (positive : Bool) (p : Place) {n : Nat} {rest : List Char}
    (hn : n ≤ Text.maxUInt64) (h : EndsNumber rest) :
    ∃ p', readNumber positive ⟨p, Text.decimal n ++ rest⟩ =
      (.ok (wholeNumber positive n), .ok ⟨p', rest⟩) := by
  obtain ⟨hTake, hDrop⟩ := takeWhile_digits n h
  have hCollect := collectDigits_of_digitsFrom? hn (Text.digitsFrom?_decimal n)
  refine ⟨p.plus (Text.decimal n).length, ?_⟩
  simp only [readNumber, hTake, hDrop]
  cases hDigits : Text.decimal n with
  | nil => exact absurd hDigits (Text.decimal_ne_nil n)
  | cons c tail =>
    rw [hDigits] at hCollect
    split
    case h_1 hEq _ => cases hEq
    case h_2 hEq _ => cases hEq
    case h_3 hEq =>
      cases hEq
      cases eq_nil_of_decimal_eq_zero_cons hDigits
    case h_4 =>
      rw [readBehindWhole, hCollect]
      cases rest with
      | nil => rfl
      | cons next rest =>
        obtain ⟨-, hPoint, hSmall, hLarge⟩ := h next rfl
        simp [hPoint, hSmall, hLarge]

/-! ### Words -/

theorem readLetters_word (p : Place) (word rest : List Char) :
    ∃ p', readLetters p word (word ++ rest) = .ok ⟨p', rest⟩ := by
  induction word generalizing p with
  | nil => exact ⟨p, rfl⟩
  | cons c word ih =>
    rw [List.cons_append, readLetters, if_pos rfl]
    exact ih (p.plus 1)

theorem readWord_word (word : List Char) (value : Option Span → Located) (p : Place)
    (rest : List Char) :
    ∃ span p', readWord word value p (word ++ rest) = (value span, .ok ⟨p', rest⟩) := by
  obtain ⟨p', h⟩ := readLetters_word p word rest
  exact ⟨some ⟨p, p'⟩, p', by rw [readWord, h]⟩

end Worklist.Json
