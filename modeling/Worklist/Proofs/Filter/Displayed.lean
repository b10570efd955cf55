import Worklist.Proofs.Filter.Evaluation
import Worklist.Proofs.Filter.Reading
import Worklist.Proofs.Text.Quoted
import Worklist.Tracker.Fields

/-!
# Displayed filters are told apart

The displayed form of a filter says which filter it is, whatever texts the filter holds. It does not
say by which connective a single member is joined with no others, and nothing depends on that. So
filters that are displayed alike want the same records.

What is displayed is cut from the left: a name ends at the first blank, a text at its closing quote,
and a number or a word where it cannot go on. `Ends` says that a rest lets them end.
-/

namespace Worklist.Filter

/-! ### Words -/

/-- A character of words and numbers. -/
def isWordChar (c : Char) : Bool :=
  c.isAlphanum || c == '-'

/-- What may stand behind a displayed expression. -/
def Ends (rest : List Char) : Prop :=
  ∀ c ∈ rest.head?, c ∈ [' ', ',', ')', ']']

section Words

variable {w w' xs ys : List Char} {c : Char}

theorem Ends.cons (h : c ∈ [' ', ',', ')', ']']) (rest : List Char) : Ends (c :: rest) := by
  rintro _ ⟨⟩
  exact h

theorem Ends.not_word (h : Ends xs) : ∀ c ∈ xs.head?, isWordChar c = false := by
  have hAll : [' ', ',', ')', ']'].all (!isWordChar ·) = true := by decide
  intro c hc
  exact (Bool.not_eq_true' _).mp (List.all_eq_true.mp hAll c (h c hc))

theorem takeWhile_word (hw : ∀ c ∈ w, isWordChar c = true) (hx : Ends xs) :
    (w ++ xs).takeWhile isWordChar = w := by
  rw [List.takeWhile_append_of_pos hw]
  cases xs with
  | nil => exact List.append_nil w
  | cons c xs =>
    rw [List.takeWhile_cons_of_neg (by rw [hx.not_word c rfl]; exact Bool.false_ne_true),
      List.append_nil]

/-- Words end where something stands that does not belong to words. -/
theorem word_append_inj (hw : ∀ c ∈ w, isWordChar c = true) (hw' : ∀ c ∈ w', isWordChar c = true)
    (hx : Ends xs) (hy : Ends ys) (h : w ++ xs = w' ++ ys) : w = w' ∧ xs = ys := by
  have hWords : w = w' := by
    rw [← takeWhile_word hw hx, h, takeWhile_word hw' hy]
  subst hWords
  exact ⟨rfl, List.append_cancel_left h⟩

/-- What starts with a mark starts with no word. -/
theorem mark_ne_word_append (hw : ∀ c ∈ w, isWordChar c = true) (hx : Ends xs)
    (hMark : c ∈ ['"', '[']) : c :: ys ≠ w ++ xs := by
  intro h
  have hOther : isWordChar c = false ∧ c ∉ [' ', ',', ')', ']'] := by
    rcases List.mem_pair.mp hMark with rfl | rfl <;> decide
  obtain ⟨hWord, hEnd⟩ := hOther
  cases w with
  | nil =>
    rw [List.nil_append] at h
    exact hEnd (hx c (by rw [← h]; rfl))
  | cons d w =>
    obtain ⟨rfl, -⟩ := List.cons.inj h
    rw [hw c List.mem_cons_self] at hWord
    cases hWord

end Words

/-! ### Literals -/

namespace Literal

variable {l l' : Literal} {xs ys : List Char}

/-- The literal is shown as a word. -/
inductive IsWord : Literal → Prop where
  | uuid (u : Uuid) : IsWord (.uuid u)
  | number (n : Int64) : IsWord (.number n)
  | bool (b : Bool) : IsWord (.bool b)

theorem isWordChar_of_mem_decimalInt {n : Int} {c : Char} (h : c ∈ Text.decimalInt n) :
    isWordChar c = true := by
  unfold isWordChar Char.isAlphanum
  rcases Text.mem_decimalInt h with rfl | hDigit
  · decide
  · rw [hDigit, Bool.or_true, Bool.true_or]

theorem isWordChar_of_mem_uuid {u : Uuid} {c : Char} (h : c ∈ u.chars) : isWordChar c = true := by
  have hDigits : ∀ d : Fin 16, isWordChar (Uuid.digitChar d) = true := by decide
  rcases Uuid.mem_chars h with rfl | ⟨d, rfl⟩
  · decide
  · exact hDigits d

theorem IsWord.chars (h : l.IsWord) : ∀ c ∈ l.display.toList, isWordChar c = true := by
  cases h with
  | uuid u =>
    intro c hc
    rw [display, Uuid.text, String.toList_ofList] at hc
    exact isWordChar_of_mem_uuid hc
  | number n =>
    intro c hc
    rw [display, String.toList_ofList] at hc
    exact isWordChar_of_mem_decimalInt hc
  | bool b =>
    apply List.all_eq_true.mp
    cases b <;> decide

/-- An identifier has a hyphen behind its first digit. -/
theorem hyphen_mem_tail_uuid (u : Uuid) : '-' ∈ (Literal.uuid u).display.toList.tail := by
  obtain ⟨d, front, back, hChars⟩ := u.chars_eq
  rw [display, Uuid.text, String.toList_ofList, hChars]
  simp

theorem hyphen_not_mem_tail_number (n : Int64) :
    '-' ∉ (Literal.number n).display.toList.tail := by
  rw [display, String.toList_ofList]
  intro hMem
  exact absurd (Text.isDigit_of_mem_tail_decimalInt hMem) (by decide)

theorem hyphen_not_mem_bool (b : Bool) : '-' ∉ (Literal.bool b).display.toList.tail := by
  cases b <;> decide

/-- Both booleans have a letter that no number has. -/
theorem display_number_ne_bool (n : Int64) (b : Bool) :
    (Literal.number n).display.toList ≠ (Literal.bool b).display.toList := by
  intro h
  have hLetter : 'e' ∈ (Literal.bool b).display.toList := by
    cases b <;> decide
  rw [← h, display, String.toList_ofList] at hLetter
  rcases Text.mem_decimalInt hLetter with hSign | hDigit
  · exact absurd hSign (by decide)
  · exact absurd hDigit (by decide)

theorem IsWord.display_injective (hl : l.IsWord) (hl' : l'.IsWord)
    (h : l.display.toList = l'.display.toList) : l = l' := by
  cases hl with
  | uuid u =>
    have hHyphen := hyphen_mem_tail_uuid u
    rw [h] at hHyphen
    cases hl' with
    | uuid u' =>
      rw [display, display, Uuid.text, Uuid.text, String.toList_ofList, String.toList_ofList] at h
      have hRead := u.ofHyphenated?_chars
      rw [h, u'.ofHyphenated?_chars] at hRead
      exact congrArg Literal.uuid (Option.some.inj hRead).symm
    | number n => exact absurd hHyphen (hyphen_not_mem_tail_number n)
    | bool b => exact absurd hHyphen (hyphen_not_mem_bool b)
  | number n =>
    cases hl' with
    | uuid u' => exact absurd (h ▸ hyphen_mem_tail_uuid u') (hyphen_not_mem_tail_number n)
    | number m =>
      rw [display, display, String.toList_ofList, String.toList_ofList] at h
      exact congrArg Literal.number (Int64.toInt_inj.mp (Text.decimalInt_injective h))
    | bool b => exact absurd h (display_number_ne_bool n b)
  | bool b =>
    cases hl' with
    | uuid u' => exact absurd (h ▸ hyphen_mem_tail_uuid u') (hyphen_not_mem_bool b)
    | number n => exact absurd h.symm (display_number_ne_bool n b)
    | bool b' =>
      revert h
      cases b <;> cases b' <;> decide

/-- A literal is shown quoted, as a list of quoted texts, or as a word. -/
inductive Shown (l : Literal) : Prop where
  | quoted (s : String) (eq : l = .text s)
  | listed (items : List String) (eq : l = .texts items)
  | word (isWord : l.IsWord)

theorem shown (l : Literal) : l.Shown := by
  cases l with
  | text s => exact .quoted s rfl
  | texts items => exact .listed items rfl
  | uuid u => exact .word (.uuid u)
  | number n => exact .word (.number n)
  | bool b => exact .word (.bool b)

theorem toList_display_text (s : String) : (text s).display.toList = Text.quote s.toList := by
  rw [display, Text.quoted, String.toList_ofList]

/-- A literal shows where it ends, and which one it is. -/
theorem display_append_inj (hx : Ends xs) (hy : Ends ys)
    (h : l.display.toList ++ xs = l'.display.toList ++ ys) : l = l' ∧ xs = ys := by
  have hText : ∀ (s : String) (us : List Char), ∃ vs,
      (text s).display.toList ++ us = '"' :: vs := by
    intro s us
    rw [toList_display_text]
    exact ⟨_, rfl⟩
  have hTexts : ∀ (items : List String) (us : List Char), ∃ vs,
      (texts items).display.toList ++ us = '[' :: vs := by
    intro items us
    rw [display, Text.toList_quotedList]
    exact ⟨_, rfl⟩
  rcases l.shown with ⟨s, rfl⟩ | ⟨items, rfl⟩ | ⟨hWord⟩
  · rcases l'.shown with ⟨s', rfl⟩ | ⟨items', rfl⟩ | ⟨hWord'⟩
    · rw [toList_display_text, toList_display_text] at h
      exact (Text.quote_append_inj h).imp_left fun hEq =>
        congrArg Literal.text (String.toList_inj.mp hEq)
    · obtain ⟨us, hLeft⟩ := hText s xs
      obtain ⟨vs, hRight⟩ := hTexts items' ys
      rw [hLeft, hRight] at h
      exact absurd (List.cons.inj h).1 (by decide)
    · obtain ⟨us, hLeft⟩ := hText s xs
      exact absurd (hLeft.symm.trans h) (mark_ne_word_append hWord'.chars hy (by decide))
  · obtain ⟨us, hLeft⟩ := hTexts items xs
    rcases l'.shown with ⟨s', rfl⟩ | ⟨items', rfl⟩ | ⟨hWord'⟩
    · obtain ⟨vs, hRight⟩ := hText s' ys
      rw [hLeft, hRight] at h
      exact absurd (List.cons.inj h).1 (by decide)
    · exact (Text.quotedList_append_inj h).imp_left (congrArg Literal.texts)
    · exact absurd (hLeft.symm.trans h) (mark_ne_word_append hWord'.chars hy (by decide))
  · rcases l'.shown with ⟨s', rfl⟩ | ⟨items', rfl⟩ | ⟨hWord'⟩
    · obtain ⟨vs, hRight⟩ := hText s' ys
      exact absurd (hRight.symm.trans h.symm) (mark_ne_word_append hWord.chars hx (by decide))
    · obtain ⟨vs, hRight⟩ := hTexts items' ys
      exact absurd (hRight.symm.trans h.symm) (mark_ne_word_append hWord.chars hx (by decide))
    · exact (word_append_inj hWord.chars hWord'.chars hx hy h).imp_left
        (hWord.display_injective hWord')

end Literal

/-! ### Expressions -/

/-- A name that is displayed as a word of its own: it holds no blank, is not the word of a negation,
and does not start like a group. -/
def IsName (name : String) : Prop :=
  ' ' ∉ name.toList ∧ name ≠ "NOT" ∧ name.toList.head? ≠ some '('

instance : DecidablePred IsName := fun name =>
  inferInstanceAs (Decidable (' ' ∉ name.toList ∧ name ≠ "NOT" ∧ name.toList.head? ≠ some '('))

/-- What stands between two members of a group. -/
def Connective.separator (c : Connective) : List Char :=
  ' ' :: (c.word.toList ++ [' '])

namespace Expression

/-- The expressions are the same but for the connectives of groups with a single member. -/
inductive SameButLone : Expression → Expression → Prop where
  | literal (l : Literal) : SameButLone (.literal l) (.literal l)
  | field (name : String) : SameButLone (.field name) (.field name)
  | equals (name : String) (l : Literal) : SameButLone (.equals name l) (.equals name l)
  | isNull (name : String) : SameButLone (.isNull name) (.isNull name)
  | not {e e' : Expression} : SameButLone e e' → SameButLone (.not e) (.not e')
  | group (c : Connective) {es es' : List Expression} : List.Forall₂ SameButLone es es' →
      SameButLone (.group c es) (.group c es')
  | lone (c d : Connective) {e e' : Expression} : SameButLone e e' →
      SameButLone (.group c [e]) (.group d [e'])

variable {e e' : Expression} {c d : Connective} {es : List Expression} {xs ys : List Char}

theorem toList_displayMembers (c : Connective) (es : List Expression) :
    (displayMembers c false es).toList = es.flatMap (c.separator ++ ·.display.toList) := by
  induction es with
  | nil => rfl
  | cons e rest ih =>
    rw [displayMembers, if_neg Bool.false_ne_true, String.toList_append, String.toList_append, ih,
      List.flatMap_cons]
    simp [Connective.separator]

theorem display_equals_append (name : String) (l : Literal) (xs : List Char) :
    (equals name l).display.toList ++ xs =
      name.toList ++ ' ' :: '=' :: ' ' :: (l.display.toList ++ xs) := by
  simp [display]

theorem display_isNull_append (name : String) (xs : List Char) :
    (isNull name).display.toList ++ xs = name.toList ++ ' ' :: ("IS NULL".toList ++ xs) := by
  simp [display]

theorem display_not_append (e : Expression) (xs : List Char) :
    (Expression.not e).display.toList ++ xs =
      "NOT".toList ++ ' ' :: (e.display.toList ++ xs) := by
  simp [display]

theorem display_group_append (c : Connective) (e : Expression) (rest : List Expression)
    (xs : List Char) :
    (group c (e :: rest)).display.toList ++ xs =
      '(' :: (e.display.toList ++
        (rest.flatMap (c.separator ++ ·.display.toList) ++ ')' :: xs)) := by
  rw [display, displayMembers, if_pos rfl]
  simp [toList_displayMembers]

/-! ### Cutting from the left -/

theorem name_append_ne_group {name : String} (h : IsName name) (us vs : List Char) :
    name.toList ++ ' ' :: us ≠ '(' :: vs := by
  intro hEq
  cases hName : name.toList with
  | nil =>
    rw [hName] at hEq
    exact absurd (List.cons.inj hEq).1 (by decide)
  | cons c cs =>
    rw [hName] at hEq
    have hHead : name.toList.head? = some '(' := by
      rw [hName, (List.cons.inj hEq).1]
      rfl
    exact h.2.2 hHead

theorem name_append_ne_not {name : String} (h : IsName name) (us vs : List Char) :
    name.toList ++ ' ' :: us ≠ "NOT".toList ++ ' ' :: vs := by
  intro hEq
  have hNot : ' ' ∉ "NOT".toList := by decide
  have hName := (append_cons_inj_of_not_mem h.1 hNot hEq).1
  exact h.2.1 (String.toList_inj.mp hName)

theorem separator_append_inj (h : c.separator ++ xs = d.separator ++ ys) : c = d := by
  cases c <;> cases d
  · rfl
  · exact absurd (congrArg (·[1]?) h) (by simp [Connective.separator, Connective.word])
  · exact absurd (congrArg (·[1]?) h) (by simp [Connective.separator, Connective.word])
  · rfl

/-- Behind the first member, a group shows its connective as soon as there is a second one. -/
theorem sameButLone_of_members {es' : List Expression} (hFirst : SameButLone e e')
    (hEach : ∀ x ∈ es, ∀ y ∈ es', ∀ us vs, Ends us → Ends vs →
      x.display.toList ++ us = y.display.toList ++ vs → SameButLone x y ∧ us = vs)
    (h : es.flatMap (c.separator ++ ·.display.toList) ++ ')' :: xs =
      es'.flatMap (d.separator ++ ·.display.toList) ++ ')' :: ys) :
    SameButLone (.group c (e :: es)) (.group d (e' :: es')) ∧ xs = ys := by
  have hSeparator : ∀ (c : Connective) (us vs : List Char), c.separator ++ us ≠ ')' :: vs := by
    rintro c us vs ⟨⟩
  have hConnective : es = [] ∧ es' = [] ∨ c = d := by
    cases es with
    | nil =>
      cases es' with
      | nil => exact .inl ⟨rfl, rfl⟩
      | cons y es' =>
        rw [List.flatMap_cons, List.append_assoc, List.append_assoc] at h
        exact absurd h.symm (hSeparator d _ _)
    | cons x es =>
      cases es' with
      | nil =>
        rw [List.flatMap_cons, List.append_assoc, List.append_assoc] at h
        exact absurd h (hSeparator c _ _)
      | cons y es' =>
        simp only [List.flatMap_cons, List.append_assoc] at h
        exact .inr (separator_append_inj h)
  rcases hConnective with ⟨rfl, rfl⟩ | rfl
  · exact ⟨.lone c d hFirst, (List.cons.inj h).2⟩
  · have hSep : ∀ us, Ends (c.separator ++ us) := fun us => Ends.cons (by decide) _
    have hClose : ∀ us, Ends (')' :: us) := fun us => Ends.cons (by decide) us
    obtain ⟨hMembers, hRest⟩ := forall₂_of_flatMap_append hSep hClose (hSeparator c) hEach h
    exact ⟨.group c (.cons hFirst hMembers), hRest⟩

theorem display_not_ne_group (e : Expression) (c : Connective) (h : es ≠ []) (xs ys : List Char) :
    (Expression.not e).display.toList ++ xs ≠ (group c es).display.toList ++ ys := by
  intro hEq
  obtain ⟨m, ms, rfl⟩ := List.exists_cons_of_ne_nil h
  rw [display_not_append, display_group_append] at hEq
  exact absurd (List.cons.inj hEq).1 (by decide)

section Sound

variable {asks : String → Option Literal → Prop} (hNames : ∀ name l, asks name l → IsName name)
include hNames

theorem equals_append_inj {name : String} {l : Literal} (hName : IsName name) (h : e.Sound asks)
    (hx : Ends xs) (hy : Ends ys)
    (hEq : (equals name l).display.toList ++ xs = e.display.toList ++ ys) :
    e = .equals name l ∧ xs = ys := by
  rw [display_equals_append] at hEq
  cases h with
  | @equals name' l' ha =>
    rw [display_equals_append] at hEq
    obtain ⟨hNameEq, hBehind⟩ := append_cons_inj_of_not_mem hName.1 (hNames _ _ ha).1 hEq
    obtain rfl := String.toList_inj.mp hNameEq
    simp only [List.cons.injEq, true_and] at hBehind
    obtain ⟨rfl, hRest⟩ := Literal.display_append_inj hx hy hBehind
    exact ⟨rfl, hRest⟩
  | isNull ha =>
    rw [display_isNull_append] at hEq
    have hBehind := (append_cons_inj_of_not_mem hName.1 (hNames _ _ ha).1 hEq).2
    exact absurd (List.cons.inj hBehind).1 (by decide)
  | not _ =>
    rw [display_not_append] at hEq
    exact absurd hEq (name_append_ne_not hName _ _)
  | group hne _ =>
    obtain ⟨m, ms, rfl⟩ := List.exists_cons_of_ne_nil hne
    rw [display_group_append] at hEq
    exact absurd hEq (name_append_ne_group hName _ _)

theorem isNull_append_inj {name : String} (hName : IsName name) (h : e.Sound asks)
    (hEq : (isNull name).display.toList ++ xs = e.display.toList ++ ys) :
    e = .isNull name ∧ xs = ys := by
  rw [display_isNull_append] at hEq
  cases h with
  | equals ha =>
    rw [display_equals_append] at hEq
    have hBehind := (append_cons_inj_of_not_mem hName.1 (hNames _ _ ha).1 hEq).2
    exact absurd (List.cons.inj hBehind).1 (by decide)
  | @isNull name' ha =>
    rw [display_isNull_append] at hEq
    obtain ⟨hNameEq, hBehind⟩ := append_cons_inj_of_not_mem hName.1 (hNames _ _ ha).1 hEq
    obtain rfl := String.toList_inj.mp hNameEq
    exact ⟨rfl, List.append_cancel_left hBehind⟩
  | not _ =>
    rw [display_not_append] at hEq
    exact absurd hEq (name_append_ne_not hName _ _)
  | group hne _ =>
    obtain ⟨m, ms, rfl⟩ := List.exists_cons_of_ne_nil hne
    rw [display_group_append] at hEq
    exact absurd hEq (name_append_ne_group hName _ _)

/-- An expression shows where it ends, and which one it is but for the connectives of lone members.
Induction on the expression; what stands behind it is arbitrary but for its first character. -/
theorem display_append_inj (h : e.Sound asks) (h' : e'.Sound asks) (hx : Ends xs) (hy : Ends ys)
    (hEq : e.display.toList ++ xs = e'.display.toList ++ ys) : SameButLone e e' ∧ xs = ys := by
  induction h generalizing e' xs ys with
  | equals ha =>
    obtain ⟨rfl, hRest⟩ := equals_append_inj hNames (hNames _ _ ha) h' hx hy hEq
    exact ⟨.equals _ _, hRest⟩
  | isNull ha =>
    obtain ⟨rfl, hRest⟩ := isNull_append_inj hNames (hNames _ _ ha) h' hEq
    exact ⟨.isNull _, hRest⟩
  | not h ih =>
    cases h' with
    | equals ha =>
      cases (equals_append_inj hNames (hNames _ _ ha) h.not hy hx hEq.symm).1
    | isNull ha => cases (isNull_append_inj hNames (hNames _ _ ha) h.not hEq.symm).1
    | not h' =>
      rw [display_not_append, display_not_append] at hEq
      obtain ⟨hSame, hRest⟩ := ih h' hx hy (List.cons.inj (List.append_cancel_left hEq)).2
      exact ⟨.not hSame, hRest⟩
    | group hne _ => exact absurd hEq (display_not_ne_group _ _ hne _ _)
  | @group c members hne hMembers ih =>
    cases h' with
    | equals ha =>
      cases (equals_append_inj hNames (hNames _ _ ha) (.group hne hMembers) hy hx hEq.symm).1
    | isNull ha =>
      cases (isNull_append_inj hNames (hNames _ _ ha) (.group hne hMembers) hEq.symm).1
    | not _ => exact absurd hEq.symm (display_not_ne_group _ _ hne _ _)
    | @group d members' hne' hMembers' =>
      obtain ⟨e, es, rfl⟩ := List.exists_cons_of_ne_nil hne
      obtain ⟨e', es', rfl⟩ := List.exists_cons_of_ne_nil hne'
      rw [display_group_append, display_group_append] at hEq
      have hTail : ∀ (k : Connective) (zs : List Expression) (us : List Char),
          Ends (zs.flatMap (k.separator ++ ·.display.toList) ++ ')' :: us) := by
        intro k zs us
        cases zs <;> exact Ends.cons (by decide) _
      obtain ⟨hFirst, hBehind⟩ := ih e List.mem_cons_self (hMembers' e' List.mem_cons_self)
        (hTail c es xs) (hTail d es' ys) (List.cons.inj hEq).2
      apply sameButLone_of_members hFirst _ hBehind
      intro x hx y hy us vs hus hvs hxy
      exact ih x (List.mem_cons_of_mem e hx) (hMembers' y (List.mem_cons_of_mem e' hy)) hus hvs hxy

end Sound

/-! ### What is the same but for lone members -/

theorem displayMembers_congr {es es' : List Expression} (first : Bool)
    (h : List.Forall₂ (fun e e' => display e' = display e) es es') :
    displayMembers c first es' = displayMembers c first es := by
  induction h generalizing first with
  | nil => rfl
  | cons hHead _ ih => rw [displayMembers, displayMembers, hHead, ih]

theorem displayMembers_singleton (c : Connective) (e : Expression) :
    displayMembers c true [e] = e.display := by
  simp [displayMembers]

theorem SameButLone.display_eq (h : SameButLone e e') : e'.display = e.display := by
  induction e generalizing e' with
  | literal l =>
    cases h
    rfl
  | field name =>
    cases h
    rfl
  | equals name l =>
    cases h
    rfl
  | isNull name =>
    cases h
    rfl
  | not e ih =>
    cases h with
    | not h => rw [display, display, ih h]
  | group c members ih =>
    cases h with
    | group _ hMembers =>
      rw [display, display, displayMembers_congr true (forall₂_imp_of_mem hMembers ih)]
    | lone _ d h =>
      rw [display, display, displayMembers_singleton, displayMembers_singleton,
        ih _ List.mem_cons_self h]

/-- A group with a single member says what the member says, whatever its connective is. -/
theorem SameButLone.evaluate_eq (h : SameButLone e e') (r : Record) :
    e'.evaluate r = e.evaluate r := by
  induction e generalizing e' with
  | literal l =>
    cases h
    rfl
  | field name =>
    cases h
    rfl
  | equals name l =>
    cases h
    rfl
  | isNull name =>
    cases h
    rfl
  | not e ih =>
    cases h with
    | not h => rw [evaluate, evaluate, ih h]
  | group c members ih =>
    cases h with
    | group _ hMembers =>
      cases hMembers with
      | nil => rfl
      | cons hHead hTail =>
        rw [evaluate_group (List.cons_ne_nil _ _), evaluate_group (List.cons_ne_nil _ _)]
        exact evaluateMembers_congr (forall₂_imp_of_mem (.cons hHead hTail) ih)
    | lone _ d h =>
      rw [evaluate_group (List.cons_ne_nil _ _), evaluate_group (List.cons_ne_nil _ _),
        evaluateMembers_singleton, evaluateMembers_singleton, ih _ List.mem_cons_self h]

end Expression

theorem isName_of_describes {name : String} {l : Option Literal}
    (h : Tracker.workItemFields.Describes name l) : IsName name := by
  have hAll : ∀ d ∈ Tracker.workItemFields, IsName d.target := by decide
  obtain ⟨d, hd, rfl, -⟩ := h
  exact hAll d hd

/-- Two filters of work items are displayed alike exactly if they are the same tree but for the
connectives of groups with a single member, and then they want the same of every record. -/
theorem displayed_text_tells_filter {s s' : String} {e e' : Expression}
    (h : parse Tracker.workItemFields s = .ok (some e))
    (h' : parse Tracker.workItemFields s' = .ok (some e')) :
    (e.display = e'.display ↔ e.SameButLone e') ∧
      (e.display = e'.display → ∀ r : Record, e.evaluate r = e'.evaluate r) := by
  have hSame : e.display = e'.display → e.SameButLone e' := by
    intro hEq
    have hEnds : Ends [] := nofun
    exact (Expression.display_append_inj (fun _ _ => isName_of_describes) (sound_of_parse h)
      (sound_of_parse h') hEnds hEnds (by rw [hEq])).1
  refine ⟨⟨hSame, fun hAlike => hAlike.display_eq.symm⟩, ?_⟩
  intro hEq r
  exact ((hSame hEq).evaluate_eq r).symm

/-- A title that looks like the end of a group and the start of another one. -/
def looseTitle : Expression :=
  .equals Tracker.titleAttribute (.text "a\") AND (b")

/-- The text of a group of this title alone. -/
def looseGroup (c : Connective) : String :=
  "\x7b\"" ++ c.key ++ "\":[\x7b\"title\":\"a\\\") AND (b\"\x7d]\x7d"

theorem parse_looseGroup (c : Connective) :
    parse Tracker.workItemFields (looseGroup c) = .ok (some (.group c [looseTitle])) := by
  cases c <;> cbv

theorem lone_connective_does_not_show :
    (Expression.group .any [looseTitle]).display = (Expression.group .all [looseTitle]).display ∧
      ∀ r : Record, (Expression.group .any [looseTitle]).evaluate r =
        (Expression.group .all [looseTitle]).evaluate r := by
  obtain ⟨hShown, hMeant⟩ :=
    displayed_text_tells_filter (parse_looseGroup .any) (parse_looseGroup .all)
  have hLone : (Expression.group .any [looseTitle]).SameButLone (.group .all [looseTitle]) :=
    .lone .any .all (.equals _ _)
  exact ⟨hShown.mpr hLone, hMeant (hShown.mpr hLone)⟩

end Worklist.Filter
