import Mathlib.Data.List.Nodup
import Worklist.Proofs.Lists
import Worklist.Text.Quoted

/-!
# Quoted texts are told apart

A quoted text shows where it ends and what it quotes, whatever stands behind it: a quote inside is
never mistaken for the closing one, and no two characters are written alike. Controls are spelled
out, so that none of them gets through.
-/

namespace Worklist.Text

/-! ### Digits of base sixteen -/

theorem digitChar_inj {a b : Nat} (ha : a < 16) (hb : b < 16) (h : a.digitChar = b.digitChar) :
    a = b := by
  have hAll : ∀ m n : Fin 16, Nat.digitChar m = Nat.digitChar n → m = n := by decide
  exact congrArg Fin.val (hAll ⟨a, ha⟩ ⟨b, hb⟩ h)

theorem hexDigits_of_lt {n : Nat} (h : n < 16) : hexDigits n = [n.digitChar] :=
  Nat.toDigits_of_lt_base h

theorem hexDigits_of_ge {n : Nat} (h : 16 ≤ n) :
    hexDigits n = hexDigits (n / 16) ++ [(n % 16).digitChar] :=
  Nat.toDigits_of_base_le (by decide) h

theorem exists_of_mem_hexDigits {n : Nat} {c : Char} (h : c ∈ hexDigits n) :
    ∃ d < 16, c = Nat.digitChar d := by
  induction n using Nat.strongRecOn with
  | ind n ih =>
    by_cases hn : n < 16
    · rw [hexDigits_of_lt hn] at h
      exact ⟨n, hn, List.mem_singleton.mp h⟩
    · rw [hexDigits_of_ge (by omega)] at h
      rcases List.mem_append.mp h with h | h
      · exact ih (n / 16) (by omega) h
      · exact ⟨n % 16, by omega, List.mem_singleton.mp h⟩

/-- The last digit is what is left over, and the digits before it are those of the quotient. -/
theorem hexDigits_injective {m n : Nat} (h : hexDigits m = hexDigits n) : m = n := by
  induction m using Nat.strongRecOn generalizing n with
  | ind m ih =>
    have hLength : ∀ k, 16 ≤ k → 1 < (hexDigits k).length := by
      intro k hk
      rw [hexDigits_of_ge hk, List.length_append]
      exact Nat.lt_add_of_pos_left (Nat.length_toDigits_pos)
    have hSize := congrArg List.length h
    by_cases hm : m < 16
    · by_cases hn : n < 16
      · rw [hexDigits_of_lt hm, hexDigits_of_lt hn] at h
        exact digitChar_inj hm hn (List.cons.inj h).1
      · have hLong := hLength n (by omega)
        rw [hexDigits_of_lt hm, List.length_singleton] at hSize
        omega
    · by_cases hn : n < 16
      · have hLong := hLength m (by omega)
        rw [hexDigits_of_lt hn, List.length_singleton] at hSize
        omega
      · have hEq := (hexDigits_of_ge (Nat.not_lt.mp hm)).symm.trans
          (h.trans (hexDigits_of_ge (Nat.not_lt.mp hn)))
        obtain ⟨hFront, hLast⟩ := List.append_inj' hEq rfl
        have hQuotient := ih (m / 16) (by omega) hFront
        have hLeft := digitChar_inj (by omega) (by omega) (List.cons.inj hLast).1
        omega

/-! ### Characters -/

/-- The letters that stand for characters behind a backslash. -/
def shortForms : List (Char × Char) :=
  [('"', '"'), ('\\', '\\'), ('n', '\n'), ('r', '\r'), ('t', '\t'), ('0', '\x00')]

/-- What a character is written as between quotes: a backslash and a letter, a code in braces, or
the character itself, which then is neither a quote nor a backslash nor a control. -/
inductive Quoted (c : Char) : Prop where
  | letter (letter : Char) (mem : (letter, c) ∈ shortForms) (eq : quoteChar c = ['\\', letter])
  | code (eq : quoteChar c = '\\' :: 'u' :: '\x7b' :: (hexDigits c.toNat ++ ['\x7d']))
  | itself (eq : quoteChar c = [c]) (others : c ≠ '"' ∧ c ≠ '\\') (shown : 0x20 ≤ c.toNat)

theorem unprintable_of_control {n : Nat} (h : n < 0x20) : unprintable.containsCode n = true := by
  have hAll : ∀ m : Fin 0x20, unprintable.containsCode m = true := by decide +kernel
  exact hAll ⟨n, h⟩

theorem quoted_char (c : Char) : Quoted c := by
  have hForm : ∀ letter d, c = d → (letter, d) ∈ shortForms → quoteChar d = ['\\', letter] →
      Quoted c := by
    rintro letter d rfl hMem hEq
    exact .letter letter hMem hEq
  by_cases hQuote : c = '"'
  · exact hForm '"' '"' hQuote (by decide) (by decide)
  by_cases hBackslash : c = '\\'
  · exact hForm '\\' '\\' hBackslash (by decide) (by decide)
  by_cases hLine : c = '\n'
  · exact hForm 'n' '\n' hLine (by decide) (by decide)
  by_cases hReturn : c = '\r'
  · exact hForm 'r' '\r' hReturn (by decide) (by decide)
  by_cases hTab : c = '\t'
  · exact hForm 't' '\t' hTab (by decide) (by decide)
  by_cases hNull : c.toNat = 0
  · exact hForm '0' '\x00' (Char.toNat_inj.mp hNull) (by decide) (by decide)
  have hRest : quoteChar c =
      if (0x20 ≤ c.toNat && c.toNat < 0x7F) = true then [c]
      else if unprintable.contains c then '\\' :: 'u' :: '\x7b' :: (hexDigits c.toNat ++ ['\x7d'])
      else [c] := by
    rw [quoteChar, if_neg hQuote, if_neg hBackslash, if_neg hLine, if_neg hReturn, if_neg hTab,
      if_neg hNull]
    rfl
  split_ifs at hRest with hAscii hHidden
  · simp only [Bool.and_eq_true, decide_eq_true_eq] at hAscii
    exact .itself hRest ⟨hQuote, hBackslash⟩ hAscii.1
  · exact .code hRest
  · refine .itself hRest ⟨hQuote, hBackslash⟩ (Nat.not_lt.mp ?_)
    intro hControl
    exact hHidden (unprintable_of_control hControl)

theorem control_not_mem_quoteChar {b c : Char} (h : b ∈ quoteChar c) : 0x20 ≤ b.toNat := by
  rcases quoted_char c with ⟨letter, hMem, hEq⟩ | hEq | ⟨hEq, -, hShown⟩
  · have hLetters : shortForms.all (0x20 ≤ ·.1.toNat) = true := by decide
    rw [hEq] at h
    rcases List.mem_pair.mp h with rfl | rfl
    · decide
    · exact of_decide_eq_true (List.all_eq_true.mp hLetters _ hMem)
  · rw [hEq] at h
    simp only [List.mem_cons, List.mem_append, List.not_mem_nil, or_false] at h
    rcases h with rfl | rfl | rfl | h | rfl
    · decide
    · decide
    · decide
    · have hDigits : ∀ d : Fin 16, 0x20 ≤ (Nat.digitChar d).toNat := by decide
      obtain ⟨d, hd, rfl⟩ := exists_of_mem_hexDigits h
      exact hDigits ⟨d, hd⟩
    · decide
  · rw [hEq] at h
    rw [List.mem_singleton.mp h]
    exact hShown

theorem brace_not_mem_hexDigits (n : Nat) : '\x7d' ∉ hexDigits n := by
  intro h
  have hDigits : ∀ d : Fin 16, '\x7d' ≠ Nat.digitChar d := by decide
  obtain ⟨d, hd, hEq⟩ := exists_of_mem_hexDigits h
  exact hDigits ⟨d, hd⟩ hEq

theorem shortForms_inj {letter c d : Char} (hc : (letter, c) ∈ shortForms)
    (hd : (letter, d) ∈ shortForms) : c = d := by
  have hKeys : (shortForms.map Prod.fst).Nodup := by decide
  exact congrArg Prod.snd (List.inj_on_of_nodup_map hKeys hc hd rfl)

theorem shortForms_ne_code {letter c : Char} (h : (letter, c) ∈ shortForms) : letter ≠ 'u' := by
  have hKeys : 'u' ∉ shortForms.map Prod.fst := by decide
  rintro rfl
  exact hKeys (List.mem_map_of_mem h)

variable {xs ys : List Char}

/-- No two characters are written alike, and each shows where it ends. A backslash starts an escape,
whose next character says which. -/
theorem quoteChar_append_inj {c d : Char} (h : quoteChar c ++ xs = quoteChar d ++ ys) :
    c = d ∧ xs = ys := by
  rcases quoted_char c with ⟨a, hMem, hc⟩ | hc | ⟨hc, hPlain, -⟩
  · rcases quoted_char d with ⟨b, hMem', hd⟩ | hd | ⟨hd, hPlain', -⟩
    · rw [hc, hd] at h
      simp only [List.cons_append, List.nil_append, List.cons.injEq, true_and] at h
      obtain ⟨rfl, hRest⟩ := h
      exact ⟨shortForms_inj hMem hMem', hRest⟩
    · rw [hc, hd] at h
      simp only [List.cons_append, List.cons.injEq, true_and] at h
      exact absurd h.1 (shortForms_ne_code hMem)
    · rw [hc, hd] at h
      exact absurd (List.cons.inj h).1.symm hPlain'.2
  · rcases quoted_char d with ⟨b, hMem', hd⟩ | hd | ⟨hd, hPlain', -⟩
    · rw [hc, hd] at h
      simp only [List.cons_append, List.cons.injEq, true_and] at h
      exact absurd h.1.symm (shortForms_ne_code hMem')
    · rw [hc, hd] at h
      simp only [List.cons_append, List.append_assoc, List.nil_append, List.cons.injEq,
        true_and] at h
      obtain ⟨hCode, hRest⟩ := append_cons_inj_of_not_mem (brace_not_mem_hexDigits _)
        (brace_not_mem_hexDigits _) h
      exact ⟨Char.toNat_inj.mp (hexDigits_injective hCode), hRest⟩
    · rw [hc, hd] at h
      exact absurd (List.cons.inj h).1.symm hPlain'.2
  · rcases quoted_char d with ⟨b, hMem', hd⟩ | hd | ⟨hd, -, -⟩
    · rw [hc, hd] at h
      exact absurd (List.cons.inj h).1 hPlain.2
    · rw [hc, hd] at h
      exact absurd (List.cons.inj h).1 hPlain.2
    · rw [hc, hd] at h
      exact List.cons.inj h

/-- No character is written as something that starts with a quote. -/
theorem quoteChar_append_ne_quote (c : Char) (xs ys : List Char) :
    quoteChar c ++ xs ≠ '"' :: ys := by
  intro h
  rcases quoted_char c with ⟨a, -, hc⟩ | hc | ⟨hc, hPlain, -⟩
  · rw [hc] at h
    exact absurd (List.cons.inj h).1 (by decide)
  · rw [hc] at h
    exact absurd (List.cons.inj h).1 (by decide)
  · rw [hc] at h
    exact hPlain.1 (List.cons.inj h).1

/-! ### Texts -/

/-- The first quote that no backslash belongs to closes a quoted text. -/
theorem quote_append_inj {cs ds : List Char} (h : quote cs ++ xs = quote ds ++ ys) :
    cs = ds ∧ xs = ys := by
  simp only [quote, List.cons_append, List.append_assoc, List.nil_append, List.cons.injEq,
    true_and] at h
  induction cs generalizing ds with
  | nil =>
    cases ds with
    | nil => exact ⟨rfl, (List.cons.inj h).2⟩
    | cons d ds =>
      rw [List.flatMap_cons, List.append_assoc] at h
      exact absurd h.symm (quoteChar_append_ne_quote d _ _)
  | cons c cs ih =>
    cases ds with
    | nil =>
      rw [List.flatMap_cons, List.append_assoc] at h
      exact absurd h (quoteChar_append_ne_quote c _ _)
    | cons d ds =>
      rw [List.flatMap_cons, List.flatMap_cons, List.append_assoc, List.append_assoc] at h
      obtain ⟨rfl, hTail⟩ := quoteChar_append_inj h
      obtain ⟨rfl, hRest⟩ := ih hTail
      exact ⟨rfl, hRest⟩

/-- A quoted text holds no controls. -/
theorem control_not_mem_quote {b : Char} {cs : List Char} (h : b ∈ quote cs) : 0x20 ≤ b.toNat := by
  rcases List.mem_cons.mp h with rfl | h
  · decide
  rcases List.mem_append.mp h with h | h
  · obtain ⟨c, -, hb⟩ := List.mem_flatMap.mp h
    exact control_not_mem_quoteChar hb
  · rw [List.mem_singleton.mp h]
    decide

/-! ### Lists of texts -/

theorem toList_quotedList (items : List String) :
    (quotedList items).toList =
      '[' :: ([',', ' '].intercalate (items.map fun s => quote s.toList) ++ [']']) := by
  simp [quotedList, quoted, String.toList_intercalate, Function.comp_def]

/-- A list of quoted texts shows where it ends and what it lists. -/
theorem quotedList_append_inj {items items' : List String}
    (h : (quotedList items).toList ++ xs = (quotedList items').toList ++ ys) :
    items = items' ∧ xs = ys := by
  simp only [toList_quotedList, List.cons_append, List.append_assoc, List.nil_append,
    List.cons.injEq, true_and] at h
  cases items with
  | nil =>
    cases items' with
    | nil => exact ⟨rfl, (List.cons.inj h).2⟩
    | cons s' items' =>
      rw [List.map_cons, intercalate_cons, quote] at h
      exact absurd (List.cons.inj h).1 (by decide)
  | cons s items =>
    cases items' with
    | nil =>
      rw [List.map_cons, intercalate_cons, quote] at h
      exact absurd (List.cons.inj h).1 (by decide)
    | cons s' items' =>
      simp only [List.map_cons, intercalate_cons, List.flatMap_map, List.append_assoc] at h
      obtain ⟨hFirst, hTail⟩ := quote_append_inj h
      have hNe : ∀ us vs : List Char, [',', ' '] ++ us ≠ ']' :: vs := by
        rintro us vs ⟨⟩
      obtain ⟨hItems, hRest⟩ := forall₂_of_flatMap_append (R := Eq) (P := fun _ => True)
        (fun _ => trivial) (fun _ => trivial) hNe
        (fun s _ t _ us vs _ _ hEq => (quote_append_inj hEq).imp_left String.toList_inj.mp) hTail
      exact ⟨congrArg₂ List.cons (String.toList_inj.mp hFirst)
        (List.forall₂_eq_eq_eq ▸ hItems), hRest⟩

theorem control_not_mem_quotedList {b : Char} {items : List String}
    (h : b ∈ (quotedList items).toList) : 0x20 ≤ b.toNat := by
  rw [toList_quotedList] at h
  rcases List.mem_cons.mp h with rfl | h
  · decide
  rcases List.mem_append.mp h with h | h
  · rcases mem_intercalate h with hSep | ⟨t, ht, hb⟩
    · rcases List.mem_pair.mp hSep with rfl | rfl <;> decide
    · obtain ⟨s, -, rfl⟩ := List.mem_map.mp ht
      exact control_not_mem_quote hb
  · rw [List.mem_singleton.mp h]
    decide

end Worklist.Text
