import Mathlib.Data.List.Basic
import Mathlib.Data.List.TakeDrop
import Mathlib.Data.List.TakeWhile
import Worklist.Proofs.Text.Numeral
import Worklist.Proofs.Toml.Quoted
import Worklist.Toml.Reader

/-!
# TOML lines read back

A line that settles a value adds that value to the table that was opened last, and the line of a
table opens it. A document is read as what its lines make of the empty document one after another.
-/

namespace Worklist.Toml

open Text (decimal maxInt64)

variable {c : Char} {cs rest : List Char}

/-! ### Numbers and booleans -/

theorem isDecimal_of_isDigit (h : c.isDigit = true) : isDecimal c = true := by
  have hRange : '0' ≤ c ∧ c ≤ '9' := by
    simpa [Char.isDigit, Char.le_def] using h
  rw [isDecimal, Text.digit?, if_pos hRange]
  rfl

/-- Only zero begins with a zero. -/
theorem head?_decimal {n : Nat} (h : 0 < n) : (decimal n).head? ≠ some '0' := by
  induction n using Nat.strongRecOn with
  | ind n ih =>
    by_cases hn : n < 10
    · have hDigits : ∀ m : Fin 10, 0 < m.val → Nat.digitChar m.val ≠ '0' := by decide
      rw [Text.decimal_of_lt hn, List.head?_cons]
      exact fun hEq => hDigits ⟨n, hn⟩ h (Option.some.inj hEq)
    · have hLess : n / 10 < n := by omega
      have hFront := ih (n / 10) hLess (by omega)
      rw [Text.decimal_of_ge (by omega), List.head?_append_of_ne_nil _ (Text.decimal_ne_nil _)]
      exact hFront

theorem spacedDigits?_decimal (n : Nat) :
    spacedDigits? isDecimal (decimal n) = some (decimal n) := by
  have hNoMark : '_' ∉ decimal n := by
    intro hMem
    have hDigit := Text.isDigit_of_mem_decimal hMem
    cases hDigit
  have hAll : (decimal n).all isDecimal = true :=
    List.all_eq_true.mpr fun c hc => isDecimal_of_isDigit (Text.isDigit_of_mem_decimal hc)
  rw [spacedDigits?, Text.split_of_not_mem hNoMark]
  simp [hAll, Text.decimal_ne_nil]

theorem decimalDigits?_decimal (n : Nat) : decimalDigits? (decimal n) = some (decimal n) := by
  have hFront : ¬(1 < (decimal n).length ∧ (decimal n).head? = some '0') := by
    rintro ⟨hLength, hZero⟩
    rcases Nat.eq_zero_or_pos n with rfl | hPos
    · cases hLength with
      | step h => cases h
    · exact head?_decimal hPos hZero
  rw [decimalDigits?, spacedDigits?_decimal]
  exact if_neg hFront

theorem takeSign_of_digits (h : ∀ c ∈ cs, c.isDigit = true) : takeSign cs = (false, cs) := by
  cases cs with
  | nil => rfl
  | cons c cs =>
    have hc := h c List.mem_cons_self
    rw [takeSign]
    · intro tail hEq
      rw [(List.cons.inj hEq).1] at hc
      cases hc
    · intro tail hEq
      rw [(List.cons.inj hEq).1] at hc
      cases hc

theorem integer?_decimal {n : Nat} (h : n ≤ maxInt64) :
    integer? (decimal n) = some (Int64.ofInt n) := by
  have hDigits : ∀ c ∈ decimal n, c.isDigit = true := fun c hc => Text.isDigit_of_mem_decimal hc
  have hRange : -0x8000000000000000 ≤ (n : Int) ∧ (n : Int) ≤ 0x7fffffffffffffff := by
    unfold maxInt64 at h
    omega
  have hBase : ∀ c tail, decimal n = '0' :: c :: tail → c.isDigit = true := by
    intro c tail hEq
    apply hDigits
    rw [hEq]
    exact List.mem_cons_of_mem _ List.mem_cons_self
  rw [integer?]
  · rw [takeSign_of_digits hDigits]
    dsimp only
    rw [decimalDigits?_decimal]
    change (Text.natural? (decimal n)).bind _ = _
    rw [Text.natural?_decimal]
    exact if_pos hRange
  · intro tail hEq
    cases hBase _ _ hEq
  · intro tail hEq
    cases hBase _ _ hEq
  · intro tail hEq
    cases hBase _ _ hEq

theorem expect?_of_digits (h : ∀ d ∈ cs, d.isDigit = true) (hc : c.isDigit = false) :
    expect? c cs = none := by
  cases cs with
  | nil => rfl
  | cons d cs =>
    rw [expect?, if_neg]
    rintro rfl
    rw [h _ List.mem_cons_self] at hc
    cases hc

theorem boundedDigits?_rest {count low high n : Nat}
    (h : boundedDigits? count low high cs = some (n, rest)) : rest = cs.drop count := by
  unfold boundedDigits? at h
  split_ifs at h
  · cases h
  · obtain ⟨m, -, h⟩ := Option.bind_eq_some_iff.mp h
    split_ifs at h
    · cases h
      rfl

theorem isMoment_of_digits (h : ∀ c ∈ cs, c.isDigit = true) : isMoment cs = false := by
  have hDrop : ∀ count, ∀ c ∈ cs.drop count, c.isDigit = true :=
    fun count c hc => h c (List.mem_of_mem_drop hc)
  have hDate : afterDate? cs = none := by
    unfold afterDate?
    cases hYear : boundedDigits? 4 0 9999 cs with
    | none => rfl
    | some found =>
      obtain ⟨year, rest⟩ := found
      obtain rfl := boundedDigits?_rest hYear
      change (expect? '-' (cs.drop 4)).bind _ = none
      rw [expect?_of_digits (hDrop 4) (by decide)]
      rfl
  have hTime : afterTime? cs = none := by
    unfold afterTime?
    cases hHour : boundedDigits? 2 0 23 cs with
    | none => rfl
    | some found =>
      obtain ⟨hour, rest⟩ := found
      obtain rfl := boundedDigits?_rest hHour
      change (expect? ':' (cs.drop 2)).bind _ = none
      rw [expect?_of_digits (hDrop 2) (by decide)]
      rfl
  rw [isMoment, hDate]
  dsimp only
  rw [hTime]
  rfl

theorem scalar?_decimal {n : Nat} (h : n ≤ maxInt64) :
    scalar? (decimal n) = some (.integer (Int64.ofInt n)) := by
  have hDigits : ∀ c ∈ decimal n, c.isDigit = true := fun c hc => Text.isDigit_of_mem_decimal hc
  have hWord : ∀ c tail, decimal n = c :: tail → c.isDigit = true := by
    intro c tail hEq
    apply hDigits
    rw [hEq]
    exact List.mem_cons_self
  rw [scalar?, if_neg, if_neg, isMoment_of_digits hDigits, integer?_decimal h]
  · rfl
  · intro hEq
    cases hWord _ _ hEq
  · intro hEq
    cases hWord _ _ hEq

/-- A value without marks is read up to the end of its line. -/
theorem readScalar_line (h : ∀ c ∈ cs, isScalarChar c = true) (rest : List Char) :
    readScalar (cs ++ '\n' :: rest) = (scalar? cs).map fun v => (v, '\n' :: rest) := by
  have hSpan : (cs ++ '\n' :: rest).span isScalarChar = (cs, '\n' :: rest) := by
    rw [List.span_eq_takeWhile_dropWhile, List.takeWhile_append_of_pos h,
      List.dropWhile_append_of_pos h]
    simp [isScalarChar]
  rw [readScalar, hSpan]
  rfl

/-! ### Values -/

/-- A value is read up to the end of its line. -/
structure Reads (written : List Char) (v : Value) : Prop where
  nonblank : ∀ tail, ∃ c more, written ++ '\n' :: tail = c :: more ∧ isSpace c = false
  read : ∀ tail steps, written.length < steps →
    readValue steps maxDepth (written ++ '\n' :: tail) = some (v, '\n' :: tail)

theorem readValue_plain {steps depth : Nat} (hList : c ≠ '[') (hTable : c ≠ '\x7b')
    (hDouble : c ≠ '"') (hSingle : c ≠ '\'') :
    readValue (steps + 1) depth (c :: cs) = readScalar (c :: cs) := by
  rw [readValue]
  · exact fun tail hEq => hList (List.cons.inj hEq).1
  · exact fun tail hEq => hTable (List.cons.inj hEq).1
  · exact fun tail hEq => hDouble (List.cons.inj hEq).1
  · exact fun tail hEq => hSingle (List.cons.inj hEq).1

theorem ne_of_isScalarChar (h : isScalarChar c = true) :
    isSpace c = false ∧ c ≠ '[' ∧ c ≠ '\x7b' ∧ c ≠ '"' ∧ c ≠ '\'' := by
  refine ⟨?_, ?_, ?_, ?_, ?_⟩
  · cases hSpace : isSpace c with
    | false => rfl
    | true =>
      simp only [isSpace, Bool.or_eq_true, decide_eq_true_eq] at hSpace
      rcases hSpace with rfl | rfl
      · cases h
      · cases h
  all_goals
    rintro rfl
    cases h

theorem reads_scalar {v : Value} (hne : cs ≠ []) (h : ∀ c ∈ cs, isScalarChar c = true)
    (hValue : scalar? cs = some v) : Reads cs v := by
  obtain ⟨c, more, rfl⟩ := List.exists_cons_of_ne_nil hne
  obtain ⟨hSpace, hList, hTable, hDouble, hSingle⟩ := ne_of_isScalarChar (h c List.mem_cons_self)
  constructor
  · exact fun tail => ⟨c, _, rfl, hSpace⟩
  · intro tail steps hSteps
    obtain ⟨steps, rfl⟩ := Nat.exists_eq_succ_of_ne_zero (Nat.ne_zero_of_lt hSteps)
    have hRead := readScalar_line h tail
    rw [List.cons_append] at hRead ⊢
    rw [readValue_plain hList hTable hDouble hSingle, hRead, hValue]
    rfl

theorem reads_decimal {n : Nat} (h : n ≤ maxInt64) :
    Reads (decimal n) (.integer (Int64.ofInt n)) := by
  refine reads_scalar (Text.decimal_ne_nil n) ?_ (scalar?_decimal h)
  intro c hc
  have hDigit := Text.isDigit_of_mem_decimal hc
  simp [isScalarChar, Char.isAlphanum, hDigit]

theorem endsMarks_cons (h : c ≠ '"' ∧ c ≠ '\'') : EndsMarks (c :: rest) := by
  rintro d ⟨⟩
  exact h

theorem readValue_writeQuoted (steps depth : Nat) (h : EndsMarks rest) (s : String) :
    readValue (steps + 1) depth (writeQuoted s.toList ++ rest) = some (.text s, rest) := by
  have hRead := readQuoted_writeQuoted h s.toList
  obtain ⟨c, tail, hWritten, hMark⟩ := exists_cons_writeQuoted s.toList
  rw [hWritten, List.cons_append] at hRead ⊢
  rcases hMark with rfl | rfl
  · rw [readValue, hRead]
    simp
  · rw [readValue, hRead]
    simp

theorem isSpace_of_mark (h : c = '"' ∨ c = '\'') : isSpace c = false := by
  rcases h with rfl | rfl
  · rfl
  · rfl

theorem reads_text (s : String) : Reads (writeQuoted s.toList) (.text s) := by
  constructor
  · intro tail
    obtain ⟨c, more, hWritten, hMark⟩ := exists_cons_writeQuoted s.toList
    rw [hWritten]
    exact ⟨c, _, rfl, isSpace_of_mark hMark⟩
  · intro tail steps hSteps
    obtain ⟨steps, rfl⟩ := Nat.exists_eq_succ_of_ne_zero (Nat.ne_zero_of_lt hSteps)
    exact readValue_writeQuoted _ _ (endsMarks_cons (by decide)) s

/-! ### Keys -/

/-- A key that stands without marks. -/
def isBare (key : String) : Bool :=
  !key.toList.isEmpty && key.toList.all isKeyChar

theorem skipSpaces_cons (h : isSpace c = false) : skipSpaces (c :: cs) = c :: cs := by
  rw [skipSpaces, List.dropWhile_cons_of_neg]
  rw [h]
  exact Bool.false_ne_true

theorem ne_of_isKeyChar (h : isKeyChar c = true) :
    isSpace c = false ∧ c ≠ '"' ∧ c ≠ '\'' ∧ c ≠ '\n' ∧ c ≠ '\r' ∧ c ≠ '#' ∧ c ≠ '[' := by
  refine ⟨?_, ?_, ?_, ?_, ?_, ?_, ?_⟩
  · cases hSpace : isSpace c with
    | false => rfl
    | true =>
      simp only [isSpace, Bool.or_eq_true, decide_eq_true_eq] at hSpace
      rcases hSpace with rfl | rfl
      · cases h
      · cases h
  all_goals
    rintro rfl
    cases h

theorem exists_cons_of_isBare {key : String} (h : isBare key = true) :
    ∃ c tail, key.toList = c :: tail ∧ isKeyChar c = true := by
  rw [isBare, Bool.and_eq_true, Bool.not_eq_true', List.isEmpty_eq_false_iff] at h
  obtain ⟨c, tail, hKey⟩ := List.exists_cons_of_ne_nil h.1
  refine ⟨c, tail, hKey, List.all_eq_true.mp h.2 c ?_⟩
  rw [hKey]
  exact List.mem_cons_self

theorem readKey_bare {key : String} {rest' : List Char} (hKey : isBare key = true)
    (hEnd : ∀ c ∈ rest.head?, isKeyChar c = false) (hSkip : skipSpaces rest = rest')
    (hDot : ∀ tail, rest' ≠ '.' :: tail) :
    readKey (key.toList ++ rest) = some (([], key), rest') := by
  obtain ⟨c, tail, hCons, hc⟩ := exists_cons_of_isBare hKey
  obtain ⟨hSpace, hDouble, hSingle, -⟩ := ne_of_isKeyChar hc
  rw [isBare, Bool.and_eq_true] at hKey
  have hAll : ∀ c ∈ key.toList, isKeyChar c = true := List.all_eq_true.mp hKey.2
  have hSpan : (key.toList ++ rest).span isKeyChar = (key.toList, rest) := by
    rw [List.span_eq_takeWhile_dropWhile, List.takeWhile_append_of_pos hAll,
      List.dropWhile_append_of_pos hAll]
    cases rest with
    | nil => simp
    | cons d rest => simp [hEnd d rfl]
  have hStep : readStep (skipSpaces (key.toList ++ rest)) = some (key, rest) := by
    have hFirst : skipSpaces (key.toList ++ rest) = key.toList ++ rest := by
      rw [hCons]
      exact skipSpaces_cons hSpace
    rw [hFirst, readStep]
    · rw [hSpan, hCons]
      dsimp only
      rw [if_neg (by simp), ← hCons, String.ofList_toList]
    · intro more hEq
      rw [hCons] at hEq
      exact hDouble (List.cons.inj hEq).1
    · intro more hEq
      rw [hCons] at hEq
      exact hSingle (List.cons.inj hEq).1
  have hSteps : readSteps maxDepth (key.toList ++ rest) = some ([key], rest') := by
    change readSteps (78 + 1) _ = _
    rw [readSteps, hStep, Option.bind_eq_bind, Option.bind_some]
    dsimp only
    rw [hSkip]
    split
    · exact absurd rfl (hDot _)
    · rfl
  rw [readKey, hSteps]
  rfl

/-! ### Tables -/

theorem set_concat {m : Members} {key : String} (h : m.lookup key = none) (v w : Value) :
    Members.set (m ++ [(key, v)]) key w = m ++ [(key, w)] := by
  have hOthers : m.map (fun member => if member.1 = key then (key, w) else member) = m := by
    refine (List.map_congr_left fun member hMember => ?_).trans (List.map_id m)
    have hne := List.lookup_eq_none_iff.mp h member hMember
    rw [bne_iff_ne] at hne
    exact if_neg (Ne.symm hne)
  rw [Members.set, List.map_append, hOthers, List.map_singleton, if_pos rfl]

theorem lookup_concat {m : Members} {key : String} (h : m.lookup key = none) (v : Value) :
    (m ++ [(key, v)]).lookup key = some v := by
  rw [List.lookup_append, h, Option.none_or, List.lookup_cons_self]

theorem add_to_root {m : Members} {key : String} (h : m.lookup key = none) (v : Value) :
    (⟨m, []⟩ : Document).add [] key v = some ⟨m ++ [(key, v)], []⟩ := by
  have hAdd : addDotted [] key v .header m = some (m ++ [(key, v)]) := by
    rw [addDotted, descend, if_neg (fun hBoth => hBoth.1 rfl), addMember, h]
  rw [Document.add, descend, hAdd]
  rfl

theorem add_to_table {m inner : Members} {name key : String} (hName : m.lookup name = none)
    (hKey : inner.lookup key = none) (v : Value) :
    (⟨m ++ [(name, .table .header inner)], [name]⟩ : Document).add [] key v =
      some ⟨m ++ [(name, .table .header (inner ++ [(key, v)]))], [name]⟩ := by
  have hAdd : addDotted [] key v .header inner = some (inner ++ [(key, v)]) := by
    rw [addDotted, descend, if_neg (fun hBoth => hBoth.1 rfl), addMember, hKey]
  have hOpen : Origin.isOpen false .header = true := by decide
  rw [Document.add, descend, lookup_concat hName]
  dsimp only
  rw [if_pos hOpen, descend, hAdd]
  change some (⟨Members.set _ name _, [name]⟩ : Document) = _
  rw [set_concat hName]

theorem openTable_new {m : Members} {name : String} (h : m.lookup name = none) :
    openTable [] name m = some (m ++ [(name, .table .header [])]) := by
  rw [openTable, descend, h]

/-! ### Lines -/

/-- Reading goes on from one document and text to another, however many lines may be read. -/
def Leads (d : Document) (cs : List Char) (d' : Document) (rest : List Char) : Prop :=
  ∀ lines, cs.length < lines → ∃ lines', rest.length < lines' ∧
    readLines lines d cs = readLines lines' d' rest

variable {d d' d'' : Document}

theorem Leads.refl (d : Document) (cs : List Char) : Leads d cs d cs :=
  fun lines hLines => ⟨lines, hLines, rfl⟩

theorem Leads.trans {cs' : List Char} (h : Leads d cs d' cs') (h' : Leads d' cs' d'' rest) :
    Leads d cs d'' rest := by
  intro lines hLines
  obtain ⟨lines', hLines', hEq⟩ := h lines hLines
  obtain ⟨lines'', hLines'', hEq'⟩ := h' lines' hLines'
  exact ⟨lines'', hLines'', hEq.trans hEq'⟩

theorem Leads.parse {m : Members} {path : List String} (h : Leads .empty cs ⟨m, path⟩ [])
    (hMark : ∀ tail, cs ≠ '\ufeff' :: tail) : parse cs = some m := by
  have hDrop : dropMark cs = cs := by
    unfold dropMark
    split
    · exact absurd rfl (hMark _)
    · rfl
  obtain ⟨lines, hLines, hEq⟩ := h (cs.length + 1) (Nat.lt_succ_self _)
  obtain ⟨lines, rfl⟩ := Nat.exists_eq_succ_of_ne_zero (Nat.ne_zero_of_lt hLines)
  rw [Toml.parse, hDrop, hEq]
  rfl

theorem leads_emptyLine (d : Document) (rest : List Char) : Leads d ('\n' :: rest) d rest := by
  intro lines hLines
  obtain ⟨lines, rfl⟩ := Nat.exists_eq_succ_of_ne_zero (Nat.ne_zero_of_lt hLines)
  rw [List.length_cons] at hLines
  refine ⟨lines, by omega, ?_⟩
  rw [readLines, skipSpaces_cons (by decide)]
  rfl

/-- A line that is neither empty nor a comment is read by itself. -/
theorem leads_line (hSpace : isSpace c = false) (hComment : c ≠ '#') (hLine : c ≠ '\n')
    (hReturn : c ≠ '\r') (hRead : readLine d (c :: cs) = some (d', rest))
    (hLength : rest.length ≤ cs.length) : Leads d (c :: cs) d' rest := by
  intro lines hLines
  obtain ⟨lines, rfl⟩ := Nat.exists_eq_succ_of_ne_zero (Nat.ne_zero_of_lt hLines)
  rw [List.length_cons] at hLines
  refine ⟨lines, by omega, ?_⟩
  rw [readLines, skipSpaces_cons hSpace]
  split
  · contradiction
  · exact absurd (List.cons.inj ‹_›).1 hLine
  · exact absurd (List.cons.inj ‹_›).1 hReturn
  · exact absurd (List.cons.inj ‹_›).1 hComment
  · rw [hRead]
    rfl

theorem readLineEnd_newline (rest : List Char) : readLineEnd ('\n' :: rest) = some rest := by
  rw [readLineEnd, skipSpaces_cons (by decide)]
  rfl

/-- A line that settles a value adds it to the table that was opened last. -/
theorem leads_setting {key : String} {v : Value} {written : List Char} (hKey : isBare key = true)
    (hValue : Reads written v) (hAdd : d.add [] key v = some d') (rest : List Char) :
    Leads d (key.toList ++ ' ' :: '=' :: ' ' :: (written ++ '\n' :: rest)) d' rest := by
  obtain ⟨c, tail, hCons, hc⟩ := exists_cons_of_isBare hKey
  obtain ⟨hSpace, -, -, hLine, hReturn, hComment, hBracket⟩ := ne_of_isKeyChar hc
  obtain ⟨first, more, hWritten, hFirst⟩ := hValue.nonblank rest
  have hBlank : isSpace ' ' = true := by decide
  have hRead : readLine d (key.toList ++ ' ' :: '=' :: ' ' :: (written ++ '\n' :: rest)) =
      some (d', rest) := by
    have hReadKey : readKey (key.toList ++ ' ' :: '=' :: ' ' :: (written ++ '\n' :: rest)) =
        some (([], key), '=' :: ' ' :: (written ++ '\n' :: rest)) := by
      refine readKey_bare hKey ?_ ?_ ?_
      · rintro d ⟨⟩
        decide
      · rw [skipSpaces, List.dropWhile_cons_of_pos hBlank]
        rfl
      · exact fun tail hEq => absurd (List.cons.inj hEq).1 (by decide)
    have hSkip : skipSpaces (' ' :: (written ++ '\n' :: rest)) = written ++ '\n' :: rest := by
      rw [skipSpaces, List.dropWhile_cons_of_pos hBlank, hWritten]
      exact skipSpaces_cons hFirst
    have hReadValue := hValue.read rest (4 * (' ' :: (written ++ '\n' :: rest)).length + 4) (by
      rw [List.length_cons, List.length_append]
      omega)
    rw [readLine]
    · rw [hReadKey, Option.bind_eq_bind, Option.bind_some]
      dsimp only
      rw [expect?, if_pos rfl, Option.bind_eq_bind, Option.bind_some, hSkip, hReadValue,
        Option.bind_eq_bind, Option.bind_some]
      dsimp only
      rw [hAdd, readLineEnd_newline]
      rfl
    · intro tail' hEq
      rw [hCons] at hEq
      exact hBracket (List.cons.inj hEq).1
    · intro tail' hEq
      rw [hCons] at hEq
      exact hBracket (List.cons.inj hEq).1
  rw [hCons, List.cons_append] at hRead ⊢
  refine leads_line hSpace hComment hLine hReturn hRead ?_
  simp
  omega

/-- The line of a table that is new opens it. -/
theorem leads_header {m : Members} {path : List String} {name : String} (hName : isBare name = true)
    (hNew : m.lookup name = none) (rest : List Char) :
    Leads ⟨m, path⟩ ('[' :: (name.toList ++ ']' :: '\n' :: rest))
      ⟨m ++ [(name, .table .header [])], [name]⟩ rest := by
  obtain ⟨c, tail, hCons, hc⟩ := exists_cons_of_isBare hName
  obtain ⟨-, -, -, -, -, -, hBracket⟩ := ne_of_isKeyChar hc
  refine leads_line (by decide) (by decide) (by decide) (by decide) ?_ ?_
  · have hReadKey : readKey (name.toList ++ ']' :: '\n' :: rest) =
        some (([], name), ']' :: '\n' :: rest) := by
      refine readKey_bare hName ?_ (skipSpaces_cons (by decide)) ?_
      · rintro d ⟨⟩
        decide
      · exact fun tail hEq => absurd (List.cons.inj hEq).1 (by decide)
    rw [readLine]
    · rw [hReadKey, Option.bind_eq_bind, Option.bind_some]
      dsimp only
      rw [expect?, if_pos rfl, Option.bind_eq_bind, Option.bind_some, readLineEnd_newline,
        Option.bind_eq_bind, Option.bind_some, openTable_new hNew]
      rfl
    · intro tail' hEq
      rw [hCons] at hEq
      exact hBracket (List.cons.inj hEq).1
  · simp
    omega

end Worklist.Toml
