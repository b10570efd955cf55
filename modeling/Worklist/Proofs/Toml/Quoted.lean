import Mathlib.Tactic.SplitIfs
import Worklist.Toml.Quoted

/-!
# Texts in TOML read back

Whatever way a text is written in, it is read back up to its closing marks. Over several lines,
marks of the text itself stand in front of the closing ones; there are at most two of them in a row,
so that the closing ones are told apart.
-/

namespace Worklist.Toml

variable {c : Char} {cs rest : List Char}

/-- A text does not go on with a mark. -/
def EndsMarks (rest : List Char) : Prop :=
  ∀ c ∈ rest.head?, c ≠ '"' ∧ c ≠ '\''

theorem EndsMarks.ne_cons (h : EndsMarks rest) (tail : List Char) :
    rest ≠ '"' :: tail ∧ rest ≠ '\'' :: tail := by
  constructor
  · rintro rfl
    exact (h _ rfl).1 rfl
  · rintro rfl
    exact (h _ rfl).2 rfl

/-! ### Characters -/

theorem isPlain_of_not_needsEscape (h : needsEscape c = false) (hLine : c ≠ '\n') :
    isPlain c = true := by
  by_cases hTab : c = '\t'
  · rw [hTab]
    rfl
  · simp only [needsEscape, ne_eq, hTab, hLine, not_false_eq_true, decide_true, Bool.true_and,
      Bool.or_eq_false_iff, decide_eq_false_iff_not] at h
    simp only [isPlain, hTab, decide_false, Bool.false_or, Bool.and_eq_true, decide_eq_true_eq]
    exact ⟨Nat.not_lt.mp h.1, h.2⟩

/-- What a character is written as between double quotes: a backslash and a letter, a backslash and
a code, or the character itself, which then is neither a mark nor a backslash. -/
inductive Escaped (c : Char) : Prop where
  | letter (letter : Char) (mem : (letter, c) ∈ escapes) (eq : escape c = ['\\', letter])
  | code (needs : needsEscape c = true) (eq : escape c =
      ['\\', 'u', '0', '0', Text.upperHexDigit (c.toNat / 16), Text.upperHexDigit (c.toNat % 16)])
  | itself (eq : escape c = [c]) (plain : isPlain c = true)
      (others : c ≠ '"' ∧ c ≠ '\\' ∧ c ≠ '\n' ∧ c ≠ '\r')

theorem escaped (c : Char) : Escaped c := by
  cases hFind : escapes.find? (·.2 = c) with
  | some found =>
    obtain ⟨letter, d⟩ := found
    have hMem := List.mem_of_find?_eq_some hFind
    have hEq : d = c := by simpa using List.find?_some hFind
    rw [hEq] at hMem
    refine .letter letter hMem ?_
    rw [escape, hFind]
  | none =>
    have hNone := List.find?_eq_none.mp hFind
    have hOther : ∀ letter d, (letter, d) ∈ escapes → c ≠ d := by
      rintro letter d hMem rfl
      exact hNone _ hMem (decide_eq_true rfl)
    cases hNeeds : needsEscape c with
    | true =>
      refine .code hNeeds ?_
      rw [escape, hFind]
      exact if_pos hNeeds
    | false =>
      have hLine := hOther 'n' '\n' (by decide)
      refine .itself ?_ (isPlain_of_not_needsEscape hNeeds hLine) ⟨hOther '"' '"' (by decide),
        hOther '\\' '\\' (by decide), hLine, hOther 'r' '\r' (by decide)⟩
      rw [escape, hFind]
      exact if_neg (by rw [hNeeds]; exact Bool.false_ne_true)

theorem charOfCode?_toNat (c : Char) : charOfCode? c.toNat = some c := by
  have hValid : c.toNat.isValidChar := c.valid
  rw [charOfCode?, dif_pos hValid]
  congr 1

/-- A code of two digits is the code of the character that they give. -/
theorem hexValue?_digits (h : needsEscape c = true) :
    Text.hexValue? (Text.upperHexDigit (c.toNat / 16)) = some (c.toNat / 16) ∧
      Text.hexValue? (Text.upperHexDigit (c.toNat % 16)) = some (c.toNat % 16) := by
  have hSmall : c.toNat < 256 := by
    simp only [needsEscape, Bool.and_eq_true, Bool.or_eq_true, decide_eq_true_eq] at h
    omega
  exact ⟨Text.hexValue?_upperHexDigit (by omega), Text.hexValue?_upperHexDigit (by omega)⟩

/-! ### On one line -/

theorem readBasic_escape (c : Char) (rest : List Char) :
    readBasic .plain (escape c ++ rest) = (readBasic .plain rest).cons c := by
  rcases escaped c with
    ⟨letter, hMem, hEq⟩ | ⟨hNeeds, hEq⟩ | ⟨hEq, hPlain, hQuote, hBackslash, -, -⟩
  · rw [hEq]
    simp only [escapes, List.mem_cons, Prod.mk.injEq, List.not_mem_nil, or_false] at hMem
    rcases hMem with h | h | h | h | h | h | h
    all_goals
      rw [h.1, h.2]
      rfl
  · obtain ⟨hHigh, hLow⟩ := hexValue?_digits hNeeds
    have hSum : c.toNat / 16 * 16 + c.toNat % 16 = c.toNat := Nat.div_add_mod' _ _
    have hCode : readBasic .plain (escape c ++ rest) = readBasic (.code 2 0)
        (Text.upperHexDigit (c.toNat / 16) :: Text.upperHexDigit (c.toNat % 16) :: rest) := by
      rw [hEq]
      rfl
    rw [hCode, readBasic, hHigh]
    dsimp only
    rw [if_pos (by decide), readBasic, hLow]
    dsimp only
    rw [if_neg (by decide), Nat.zero_mul, Nat.zero_add, hSum, charOfCode?_toNat]
  · rw [hEq, List.singleton_append, readBasic]
    · rw [if_neg hQuote, if_neg hBackslash, if_pos hPlain]
    · nofun
    · nofun

theorem basicBody_false (quotes : Nat) (cs : List Char) :
    basicBody false quotes cs = cs.flatMap escape := by
  induction cs generalizing quotes with
  | nil => rfl
  | cons c cs ih =>
    rw [basicBody, List.flatMap_cons]
    simp [ih]

theorem readBasic_body (cs rest : List Char) :
    readBasic .plain (basicBody false 0 cs ++ '"' :: rest) = some (cs, rest) := by
  rw [basicBody_false]
  induction cs with
  | nil => rfl
  | cons c cs ih =>
    rw [List.flatMap_cons, List.append_assoc, readBasic_escape, ih]
    rfl

theorem readLiteral_append (h : ∀ c ∈ cs, isPlain c = true ∧ c ≠ '\'') :
    readLiteral (cs ++ '\'' :: rest) = some (cs, rest) := by
  induction cs with
  | nil => rfl
  | cons c cs ih =>
    obtain ⟨hPlain, hMark⟩ := h c List.mem_cons_self
    rw [List.cons_append, readLiteral, if_neg hMark, if_pos hPlain,
      ih fun d hd => h d (List.mem_cons_of_mem _ hd)]
    rfl

/-! ### Over several lines -/

/-- A character that does not begin the closing marks is read by itself. -/
theorem readBasicLines_plain (hMarks : c = '"' → ∀ tail, rest ≠ '"' :: '"' :: tail)
    (hReturn : c ≠ '\r') :
    readBasicLines .plain (c :: rest) =
      if c = '\\' then readBasicLines .begun rest
      else if isPlain c ∨ c = '\n' then (readBasicLines .plain rest).cons c
      else none := by
  rw [readBasicLines]
  all_goals
    intros
    first
      | contradiction
      | exact hMarks ‹_› _ ‹_›

theorem readBasicLines_itself (hQuote : c ≠ '"') (hBackslash : c ≠ '\\') (hReturn : c ≠ '\r')
    (hPlain : isPlain c = true ∨ c = '\n') :
    readBasicLines .plain (c :: rest) = (readBasicLines .plain rest).cons c := by
  rw [readBasicLines_plain (fun h => absurd h hQuote) hReturn, if_neg hBackslash, if_pos hPlain]

theorem readBasicLines_quote (h : ∀ tail, rest ≠ '"' :: '"' :: tail) :
    readBasicLines .plain ('"' :: rest) = (readBasicLines .plain rest).cons '"' := by
  rw [readBasicLines_plain (fun _ => h) (by decide), if_neg (by decide), if_pos (.inl (by decide))]

theorem readBasicLines_backslash :
    readBasicLines .plain ('\\' :: rest) = readBasicLines .begun rest := by
  rw [readBasicLines_plain (fun h => absurd h (by decide)) (by decide), if_pos rfl]

theorem readBasicLines_escape (c : Char) (rest : List Char) :
    readBasicLines .plain (escape c ++ rest) = (readBasicLines .plain rest).cons c := by
  rcases escaped c with ⟨letter, hMem, hEq⟩ | ⟨hNeeds, hEq⟩ |
    ⟨hEq, hPlain, hQuote, hBackslash, -, hReturn⟩
  · rw [hEq]
    simp only [escapes, List.mem_cons, Prod.mk.injEq, List.not_mem_nil, or_false] at hMem
    rcases hMem with h | h | h | h | h | h | h
    all_goals
      rw [h.1, h.2, List.cons_append, readBasicLines_backslash]
      rfl
  · obtain ⟨hHigh, hLow⟩ := hexValue?_digits hNeeds
    have hSum : c.toNat / 16 * 16 + c.toNat % 16 = c.toNat := Nat.div_add_mod' _ _
    have hCode : readBasicLines .plain (escape c ++ rest) = readBasicLines (.code 2 0)
        (Text.upperHexDigit (c.toNat / 16) :: Text.upperHexDigit (c.toNat % 16) :: rest) := by
      rw [hEq, List.cons_append, readBasicLines_backslash]
      rfl
    rw [hCode, readBasicLines, hHigh]
    dsimp only
    rw [if_pos (by decide), readBasicLines, hLow]
    dsimp only
    rw [if_neg (by decide), Nat.zero_mul, Nat.zero_add, hSum, charOfCode?_toNat]
  · rw [hEq, List.singleton_append]
    exact readBasicLines_itself hQuote hBackslash hReturn (.inl hPlain)

/-- The closing marks end a text, with as many in front of them as belong to it. -/
theorem readBasicLines_end (h : EndsMarks rest) :
    readBasicLines .plain ('"' :: '"' :: '"' :: rest) = some ([], rest) ∧
      readBasicLines .plain ('"' :: '"' :: '"' :: '"' :: rest) = some (['"'], rest) ∧
      readBasicLines .plain ('"' :: '"' :: '"' :: '"' :: '"' :: rest) =
        some (['"', '"'], rest) := by
  have hNone := fun tail => (h.ne_cons tail).1
  refine ⟨?_, ?_, ?_⟩
  · rw [readBasicLines]
    all_goals
      intros
      first
        | contradiction
        | exact hNone _ ‹_›
  · rw [readBasicLines]
    all_goals
      intros
      first
        | contradiction
        | exact hNone _ ‹_›
  · rw [readBasicLines]
    all_goals
      intros
      contradiction

theorem exists_cons_escape (c : Char) : ∃ d tail, escape c = d :: tail ∧ d ≠ '"' := by
  rcases escaped c with ⟨letter, -, hEq⟩ | ⟨-, hEq⟩ | ⟨hEq, -, hQuote, -⟩
  · exact ⟨_, _, hEq, by decide⟩
  · exact ⟨_, _, hEq, by decide⟩
  · exact ⟨_, _, hEq, hQuote⟩

/-- After two marks, and in front of another character, what is written goes on with none. -/
theorem exists_cons_basicBody {quotes : Nat} (h : c = '"' → 2 ≤ quotes) (cs : List Char) :
    ∃ d tail, basicBody true quotes (c :: cs) = d :: tail ∧ d ≠ '"' := by
  obtain ⟨d, tail, hEscape, hd⟩ := exists_cons_escape c
  rw [basicBody]
  split_ifs with hQuote hFew hLine
  · have hMany := h hQuote
    omega
  · rw [hEscape]
    exact ⟨d, _, rfl, hd⟩
  · exact ⟨c, _, rfl, hQuote⟩
  · rw [hEscape]
    exact ⟨d, _, rfl, hd⟩

theorem readBasicLines_body (h : EndsMarks rest) (quotes : Nat) (cs : List Char) :
    readBasicLines .plain (basicBody true quotes cs ++ '"' :: '"' :: '"' :: rest) =
      some (cs, rest) := by
  obtain ⟨hThree, hFour, hFive⟩ := readBasicLines_end h
  induction cs generalizing quotes with
  | nil => exact hThree
  | cons c cs ih =>
    rw [basicBody]
    split_ifs with hQuote hFew hLine
    · rw [List.cons_append, hQuote]
      -- The marks of the text and the closing ones are read at once where nothing parts them.
      by_cases hParted : ∀ tail, basicBody true (quotes + 1) cs ++ '"' :: '"' :: '"' :: rest ≠
          '"' :: '"' :: tail
      · rw [readBasicLines_quote hParted, ih]
        rfl
      · cases cs with
        | nil => exact hFour
        | cons d ds =>
          by_cases hd : d = '"' ∧ quotes + 1 < 2
          · obtain ⟨rfl, hOne⟩ := hd
            rw [basicBody, if_pos rfl, if_pos ⟨rfl, hOne⟩] at hParted ⊢
            cases ds with
            | nil => exact hFive
            | cons e es =>
              have hMany : e = '"' → 2 ≤ quotes + 1 + 1 := fun _ => by omega
              obtain ⟨f, tail, hBody, hf⟩ := exists_cons_basicBody hMany es
              rw [hBody] at hParted
              exact absurd (fun tail' hEq => hf (List.cons.inj (List.cons.inj hEq).2).1) hParted
          · have hMany : d = '"' → 2 ≤ quotes + 1 := fun hEq => by
              rw [not_and] at hd
              exact Nat.le_of_not_lt (hd hEq)
            obtain ⟨f, tail, hBody, hf⟩ := exists_cons_basicBody hMany ds
            rw [hBody] at hParted
            exact absurd (fun tail' hEq => hf (List.cons.inj hEq).1) hParted
    · rw [List.append_assoc, readBasicLines_escape, ih]
      rfl
    · rw [List.cons_append, readBasicLines_itself hQuote (by rw [hLine.2]; decide)
        (by rw [hLine.2]; decide) (.inr hLine.2), ih]
      rfl
    · rw [List.append_assoc, readBasicLines_escape, ih]
      rfl

/-! ### Over several lines, without escapes -/

theorem readLiteralLines_plain (hMarks : c = '\'' → ∀ tail, rest ≠ '\'' :: '\'' :: tail)
    (hReturn : c ≠ '\r') (hPlain : isPlain c = true ∨ c = '\n') :
    readLiteralLines (c :: rest) = (readLiteralLines rest).cons c := by
  rw [readLiteralLines]
  · exact if_pos hPlain
  all_goals
    intros
    first
      | contradiction
      | exact hMarks ‹_› _ ‹_›

theorem readLiteralLines_end (h : EndsMarks rest) :
    readLiteralLines ('\'' :: '\'' :: '\'' :: rest) = some ([], rest) ∧
      readLiteralLines ('\'' :: '\'' :: '\'' :: '\'' :: rest) = some (['\''], rest) ∧
      readLiteralLines ('\'' :: '\'' :: '\'' :: '\'' :: '\'' :: rest) =
        some (['\'', '\''], rest) := by
  have hNone := fun tail => (h.ne_cons tail).2
  refine ⟨?_, ?_, ?_⟩
  · rw [readLiteralLines]
    all_goals
      intros
      exact hNone _ ‹_›
  · rw [readLiteralLines]
    intros
    exact hNone _ ‹_›
  · rw [readLiteralLines]

theorem le_longestRun (q : Char) (current : Nat) (cs : List Char) :
    current ≤ longestRun q current cs := by
  induction cs generalizing current with
  | nil => exact Nat.le_refl _
  | cons c cs ih =>
    rw [longestRun]
    split_ifs
    · exact Nat.le_trans (Nat.le_succ _) (ih _)
    · exact Nat.le_max_left _ _

theorem readLiteralLines_append (h : EndsMarks rest) {marks : Nat}
    (hRuns : longestRun '\'' marks cs ≤ 2)
    (hPlain : ∀ c ∈ cs, c ≠ '\r' ∧ (isPlain c = true ∨ c = '\n')) :
    readLiteralLines (cs ++ '\'' :: '\'' :: '\'' :: rest) = some (cs, rest) := by
  obtain ⟨hThree, hFour, hFive⟩ := readLiteralLines_end h
  induction cs generalizing marks with
  | nil => exact hThree
  | cons c cs ih =>
    obtain ⟨hReturn, hChar⟩ := hPlain c List.mem_cons_self
    have hRest := fun d hd => hPlain d (List.mem_cons_of_mem c hd)
    rw [longestRun] at hRuns
    by_cases hMark : c = '\''
    · rw [if_pos hMark] at hRuns
      have hFew := le_longestRun '\'' (marks + 1) cs
      rw [List.cons_append, hMark]
      by_cases hParted : ∀ tail, cs ++ '\'' :: '\'' :: '\'' :: rest ≠ '\'' :: '\'' :: tail
      · rw [readLiteralLines_plain (fun _ => hParted) (by decide) (.inl (by decide)),
          ih hRuns hRest]
        rfl
      · cases cs with
        | nil => exact hFour
        | cons d ds =>
          by_cases hd : d = '\''
          · rw [hd, longestRun, if_pos rfl] at hRuns
            rw [hd] at hParted ⊢
            cases ds with
            | nil => exact hFive
            | cons e es =>
              by_cases he : e = '\''
              · rw [he, longestRun, if_pos rfl] at hRuns
                have hMany := le_longestRun '\'' (marks + 1 + 1 + 1) es
                omega
              · exact absurd (fun tail hEq => he (List.cons.inj (List.cons.inj hEq).2).1) hParted
          · exact absurd (fun tail hEq => hd (List.cons.inj hEq).1) hParted
    · rw [if_neg hMark] at hRuns
      rw [List.cons_append, readLiteralLines_plain (fun hEq => absurd hEq hMark) hReturn hChar,
        ih (Nat.le_trans (Nat.le_max_right _ _) hRuns) hRest]
      rfl

/-! ### Every way -/

theorem longestRun_pos {q : Char} (h : q ∈ cs) (current : Nat) : 0 < longestRun q current cs := by
  induction cs generalizing current with
  | nil => cases h
  | cons c cs ih =>
    rw [longestRun]
    split_ifs with hq
    · have hFew := le_longestRun q (current + 1) cs
      omega
    · rcases List.mem_cons.mp h with hEq | h
      · exact absurd hEq.symm hq
      · exact Nat.lt_of_lt_of_le (ih h 0) (Nat.le_max_right _ _)

/-- What a way without escapes needs of a text. -/
structure Unescaped (cs : List Char) : Prop where
  ne_return : ∀ c ∈ cs, c ≠ '\r'
  plain : ∀ c ∈ cs, isPlain c = true ∨ c = '\n'

theorem unescaped_of_any (h : cs.any needsEscape = false) : Unescaped cs := by
  have hNone : ∀ c ∈ cs, needsEscape c = false := by
    intro c hc
    simpa using List.any_eq_false.mp h c hc
  constructor
  · rintro c hc rfl
    have hReturn := hNone _ hc
    revert hReturn
    decide
  · intro c hc
    by_cases hLine : c = '\n'
    · exact .inr hLine
    · exact .inl (isPlain_of_not_needsEscape (hNone c hc) hLine)

theorem choose_literal (h : Style.choose cs = .literal) :
    cs ≠ [] ∧ ∀ c ∈ cs, isPlain c = true ∧ c ≠ '\'' := by
  refine ⟨fun hNil => ?_, ?_⟩
  · rw [hNil] at h
    cases h
  · unfold Style.choose at h
    dsimp only at h
    split_ifs at h with hBasic hLiteral
    simp only [Bool.and_eq_true, Bool.not_eq_true', decide_eq_true_eq] at hLiteral
    obtain ⟨⟨hCodes, hMarks⟩, hLines⟩ := hLiteral
    intro c hc
    refine ⟨?_, ?_⟩
    · rcases (unescaped_of_any hCodes).plain c hc with hPlain | rfl
      · exact hPlain
      · rw [List.contains_eq_mem, decide_eq_false_iff_not] at hLines
        exact absurd hc hLines
    · rintro rfl
      have hPos := longestRun_pos hc 0
      omega

theorem choose_literalLines (h : Style.choose cs = .literalLines) :
    longestRun '\'' 0 cs ≤ 2 ∧ Unescaped cs := by
  unfold Style.choose at h
  dsimp only at h
  split_ifs at h with hBasic hLiteral hLines hLiteralLines
  simp only [Bool.and_eq_true, Bool.not_eq_true', decide_eq_true_eq] at hLiteralLines
  exact ⟨hLiteralLines.2, unescaped_of_any hLiteralLines.1⟩

/-- The end of the first line does not count, and only a text with several lines has one in front.
-/
theorem dropLineEnd_leadingLine {body : List Char}
    (h : '\n' ∉ cs → body.head? ≠ some '\n' ∧ body.head? ≠ some '\r') :
    dropLineEnd (leadingLine cs ++ body) = body := by
  unfold leadingLine
  split_ifs with hLines
  · rfl
  · rw [List.contains_eq_mem, decide_eq_true_eq] at hLines
    obtain ⟨hLine, hReturn⟩ := h hLines
    rw [List.nil_append]
    cases body with
    | nil => rfl
    | cons c body =>
      rw [dropLineEnd]
      · rintro tail hEq
        exact hLine (congrArg List.head? hEq)
      · rintro tail hEq
        exact hReturn (congrArg List.head? hEq)

theorem head?_basicBody (h : '\n' ∉ cs) (rest : List Char) :
    (basicBody true 0 cs ++ '"' :: rest).head? ≠ some '\n' ∧
      (basicBody true 0 cs ++ '"' :: rest).head? ≠ some '\r' := by
  cases cs with
  | nil => exact ⟨by simp [basicBody], by simp [basicBody]⟩
  | cons c cs =>
    have hLine : c ≠ '\n' := fun hEq => h (hEq ▸ List.mem_cons_self)
    rw [basicBody]
    split_ifs with hQuote hFew hBoth
    · rw [hQuote]
      exact ⟨by simp, by simp⟩
    rotate_left
    · exact absurd hBoth.2 hLine
    all_goals
      rcases escaped c with ⟨letter, -, hEq⟩ | ⟨-, hEq⟩ | ⟨hEq, -, -, -, -, hReturn⟩
      · rw [hEq]
        exact ⟨by simp, by simp⟩
      · rw [hEq]
        exact ⟨by simp, by simp⟩
      · rw [hEq]
        exact ⟨by simpa using hLine, by simpa using hReturn⟩

/-- A text is read from what is written for it. -/
theorem readQuoted_writeQuoted (h : EndsMarks rest) (cs : List Char) :
    readQuoted (writeQuoted cs ++ rest) = some (cs, rest) := by
  unfold writeQuoted
  cases hStyle : Style.choose cs with
  | basic =>
    have hOne : ∀ tail, basicBody false 0 cs ++ '"' :: rest ≠ '"' :: '"' :: tail := by
      intro tail
      rw [basicBody_false]
      cases cs with
      | nil => exact fun hEq => (h.ne_cons tail).1 (List.cons.inj hEq).2
      | cons c cs =>
        obtain ⟨d, more, hEscape, hd⟩ := exists_cons_escape c
        rw [List.flatMap_cons, hEscape]
        exact fun hEq => hd (List.cons.inj hEq).1
    have hText : Style.write cs .basic ++ rest = '"' :: (basicBody false 0 cs ++ '"' :: rest) := by
      simp [Style.write]
    rw [hText, readQuoted]
    · exact readBasic_body cs rest
    · exact hOne
  | literal =>
    obtain ⟨hne, hPlain⟩ := choose_literal hStyle
    have hText : Style.write cs .literal ++ rest = '\'' :: (cs ++ '\'' :: rest) := by
      simp [Style.write]
    rw [hText, readQuoted]
    · exact readLiteral_append hPlain
    · intro tail hEq
      obtain ⟨c, cs, rfl⟩ := List.exists_cons_of_ne_nil hne
      exact (hPlain c List.mem_cons_self).2 (List.cons.inj hEq).1
  | basicLines =>
    have hText : Style.write cs .basicLines ++ rest = '"' :: '"' :: '"' ::
        (leadingLine cs ++ (basicBody true 0 cs ++ '"' :: '"' :: '"' :: rest)) := by
      simp [Style.write]
    rw [hText, readQuoted, dropLineEnd_leadingLine fun hLines => head?_basicBody hLines _]
    exact readBasicLines_body h 0 cs
  | literalLines =>
    obtain ⟨hRuns, hPlain⟩ := choose_literalLines hStyle
    have hText : Style.write cs .literalLines ++ rest = '\'' :: '\'' :: '\'' ::
        (leadingLine cs ++ (cs ++ '\'' :: '\'' :: '\'' :: rest)) := by
      simp [Style.write]
    have hFirst : '\n' ∉ cs → (cs ++ '\'' :: '\'' :: '\'' :: rest).head? ≠ some '\n' ∧
        (cs ++ '\'' :: '\'' :: '\'' :: rest).head? ≠ some '\r' := by
      intro hLines
      cases cs with
      | nil => exact ⟨by simp, by simp⟩
      | cons c cs =>
        have hLine : c ≠ '\n' := fun hEq => hLines (hEq ▸ List.mem_cons_self)
        exact ⟨by simpa using hLine, by simpa using hPlain.ne_return c List.mem_cons_self⟩
    rw [hText, readQuoted, dropLineEnd_leadingLine hFirst]
    exact readLiteralLines_append h hRuns fun c hc => ⟨hPlain.ne_return c hc, hPlain.plain c hc⟩

/-- What is written for a text begins with a mark. -/
theorem exists_cons_writeQuoted (cs : List Char) :
    ∃ c tail, writeQuoted cs = c :: tail ∧ (c = '"' ∨ c = '\'') := by
  unfold writeQuoted
  cases Style.choose cs with
  | basic => exact ⟨_, _, rfl, .inl rfl⟩
  | literal => exact ⟨_, _, rfl, .inr rfl⟩
  | basicLines => exact ⟨_, _, rfl, .inl rfl⟩
  | literalLines => exact ⟨_, _, rfl, .inr rfl⟩

end Worklist.Toml
