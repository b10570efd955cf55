import Worklist.Proofs.Json.Keys
import Worklist.Proofs.Json.Scalar

/-!
# Texts of values

How a value may be laid out as a text, with blanks between the tokens, and what is read of such a
text. Of lists and objects within each other only so many are read; of one that is deeper nothing is
had but the fault that says so, although reading goes on behind it.
-/

namespace Worklist.Json

/-! ### Layouts -/

/-- Nothing but blanks that may stand between tokens. -/
def IsGap (cs : List Char) : Prop :=
  ∀ c ∈ cs, isTokenBlank c = true

/-- What stands in front of an item or a member: a comma, unless it is the first one. -/
inductive Separator : Bool → List Char → Prop where
  | first {gap : List Char} : IsGap gap → Separator true gap
  | comma {before after : List Char} : IsGap before → IsGap after →
      Separator false (before ++ ',' :: after)

/-- A text of items or members up to the closing bracket. -/
inductive Row {α : Type} (R : α → List Char → Prop) : Bool → List α → List Char → Prop where
  | nil {first : Bool} {gap : List Char} : IsGap gap → Row R first [] gap
  | cons {first : Bool} {x : α} {xs : List α} {sep cs rest : List Char} : Separator first sep →
      R x cs → Row R false xs rest → Row R first (x :: xs) (sep ++ (cs ++ rest))

/-- A whole number that fits a 64-bit word with or without a sign. -/
def FitsWord (n : Int) : Prop :=
  -(Text.maxInt64 + 1) ≤ n ∧ n ≤ Text.maxUInt64

theorem fitsWord_toInt (n : Int64) : FitsWord n.toInt := by
  have hLow := n.le_toInt
  have hHigh := n.toInt_lt
  unfold FitsWord Text.maxInt64 Text.maxUInt64
  omega

mutual

/-- The characters are a text of the value. Its numbers are whole. -/
inductive Layout : Json → List Char → Prop where
  | null : Layout .null nullText
  | bool (b : Bool) : Layout (.bool b) (boolText b)
  | whole {n : Int} : FitsWord n → Layout (.number (.whole n)) (Text.decimalInt n)
  | string (s : String) : Layout (.string s) (stringText s)
  | array {items : List Json} {cs : List Char} : Row Layout true items cs →
      Layout (.array items) ('[' :: (cs ++ [']']))
  | object {members : List (String × Json)} {cs : List Char} : Row MemberLayout true members cs →
      Layout (.object members) ('\x7b' :: (cs ++ ['\x7d']))

/-- The characters are a text of the key and the value. -/
inductive MemberLayout : String × Json → List Char → Prop where
  | mk {key : String} {v : Json} {before after cs : List Char} : IsGap before → IsGap after →
      Layout v cs → MemberLayout (key, v) (stringText key ++ (before ++ ':' :: (after ++ cs)))

end

mutual

/-- The tree is what is read of a text of the value where `depth` lists and objects may stand within
each other. -/
inductive Shows : Nat → Located → Json → Prop where
  | null (depth : Nat) (span : Option Span) : Shows depth (.null span) .null
  | bool (depth : Nat) (span : Option Span) (b : Bool) : Shows depth (.bool span b) (.bool b)
  | number (depth : Nat) (span : Option Span) (n : Number) :
      Shows depth (.number span n) (.number n)
  | string (depth : Nat) (span : Option Span) (s : String) :
      Shows depth (.string span s) (.string s)
  | array {depth : Nat} {span : Option Span} {trees : List Located} {items : List Json} :
      ShowsItems depth trees items → Shows (depth + 1) (.array span trees none) (.array items)
  | object {depth : Nat} {span : Option Span} {trees : List (Key × Located)}
      {members : List (String × Json)} : ShowsMembers depth trees members →
      Shows (depth + 1) (.object span trees none) (.object members)
  | deepArray {start place : Place} {skipped : Option Fault} {items : List Json} :
      Shows 0 (.unreadable start ⟨.tooDeep, place⟩ skipped) (.array items)
  | deepObject {start place : Place} {skipped : Option Fault} {members : List (String × Json)} :
      Shows 0 (.unreadable start ⟨.tooDeep, place⟩ skipped) (.object members)

/-- The same of items. -/
inductive ShowsItems : Nat → List Located → List Json → Prop where
  | nil (depth : Nat) : ShowsItems depth [] []
  | cons {depth : Nat} {tree : Located} {v : Json} {trees : List Located} {items : List Json} :
      Shows depth tree v → ShowsItems depth trees items →
      ShowsItems depth (tree :: trees) (v :: items)

/-- The same of members, whose keys can all be used. -/
inductive ShowsMembers : Nat → List (Key × Located) → List (String × Json) → Prop where
  | nil (depth : Nat) : ShowsMembers depth [] []
  | cons {depth : Nat} {key : Key} {tree : Located} {v : Json} {trees : List (Key × Located)}
      {members : List (String × Json)} : key.fault = none → Shows depth tree v →
      ShowsMembers depth trees members →
      ShowsMembers depth ((key, tree) :: trees) ((key.name, v) :: members)

end

/-! ### Gaps -/

variable {c : Char} {gap cs rest : List Char} {first : Bool} {p : Place} {fuel depth : Nat}

theorem IsGap.nil : IsGap [] := fun _ h => nomatch h

theorem IsGap.space : IsGap [' '] :=
  List.forall_mem_singleton.mpr rfl

theorem skipBlanks_gap (p : Place) (h : IsGap gap) (hc : isTokenBlank c = false) :
    skipBlanks p (gap ++ c :: rest) = ⟨p.afterAll gap, c :: rest⟩ := by
  induction gap generalizing p with
  | nil => simp [skipBlanks, hc, Place.afterAll]
  | cons b gap ih =>
    have hb := h b List.mem_cons_self
    rw [List.cons_append, skipBlanks, if_pos hb, ih _ fun x hx => h x (List.mem_cons_of_mem b hx)]
    rfl

theorem skipBlanks_of_not_blank (p : Place) (hc : isTokenBlank c = false) :
    skipBlanks p (c :: rest) = ⟨p, c :: rest⟩ :=
  skipBlanks_gap p .nil hc

theorem EndsNumber.append_gap (hRest : EndsNumber rest) (h : IsGap gap) :
    EndsNumber (gap ++ rest) := by
  cases gap with
  | nil => exact hRest
  | cons b gap =>
    have hb := h b List.mem_cons_self
    rintro c ⟨⟩
    simp only [isTokenBlank, Bool.or_eq_true, beq_iff_eq] at hb
    rcases hb with ((rfl | rfl) | rfl) | rfl <;> decide

theorem Row.endsNumber {α : Type} {R : α → List Char → Prop} {xs : List α}
    (h : Row R false xs cs) (hRest : EndsNumber rest) : EndsNumber (cs ++ rest) := by
  cases h with
  | nil hGap => exact hRest.append_gap hGap
  | cons hSep _ _ =>
    cases hSep with
    | @comma before after hBefore _ =>
      have hComma : ∀ tail, EndsNumber (',' :: tail) := by
        rintro tail c ⟨⟩
        decide
      simpa using (hComma _).append_gap hBefore

/-! ### The first character of a value -/

theorem readValue_gap (h : IsGap gap) (hc : isTokenBlank c = false) :
    readValue (fuel + 1) depth ⟨p, gap ++ c :: rest⟩ =
      readValue (fuel + 1) depth ⟨p.afterAll gap, c :: rest⟩ := by
  rw [readValue, readValue, skipBlanks_gap p h hc, skipBlanks_of_not_blank _ hc]

theorem readValue_quote : readValue (fuel + 1) depth ⟨p, '"' :: rest⟩ = readText p rest := by
  rw [readValue, skipBlanks_of_not_blank p (by decide)]
  rfl

theorem readValue_bracket {trees : List Located} {next : Except Fault Cursor}
    (h : readItems fuel (depth - 1) true ⟨p.plus 1, rest⟩ = (trees, next)) :
    readValue (fuel + 1) depth ⟨p, '[' :: rest⟩ =
      closeContainer depth p (.array · trees ·) next := by
  rw [readValue, skipBlanks_of_not_blank p (by decide)]
  simp [h]

theorem readValue_brace {trees : List (Key × Located)} {next : Except Fault Cursor}
    (h : readMembers fuel (depth - 1) true ⟨p.plus 1, rest⟩ = (trees, next)) :
    readValue (fuel + 1) depth ⟨p, '\x7b' :: rest⟩ =
      closeContainer depth p (.object · trees ·) next := by
  rw [readValue, skipBlanks_of_not_blank p (by decide)]
  simp [h]

theorem readValue_minus :
    readValue (fuel + 1) depth ⟨p, '-' :: rest⟩ =
      numberValue p (readNumber false ⟨p.plus 1, rest⟩) := by
  rw [readValue, skipBlanks_of_not_blank p (by decide)]
  rfl

theorem not_blank_of_isDigit (hc : isDigit c = true) : isTokenBlank c = false := by
  by_contra h
  simp only [isTokenBlank, Bool.not_eq_false, Bool.or_eq_true, beq_iff_eq] at h
  rcases h with ((rfl | rfl) | rfl) | rfl <;> simp [isDigit] at hc

theorem readValue_digit (hc : isDigit c = true) :
    readValue (fuel + 1) depth ⟨p, c :: rest⟩ =
      numberValue p (readNumber true ⟨p, c :: rest⟩) := by
  have hOther : ∀ x : Char, isDigit x = false → c ≠ x := by
    rintro x hx rfl
    rw [hc] at hx
    cases hx
  rw [readValue, skipBlanks_of_not_blank p (not_blank_of_isDigit hc)]
  simp [hOther '"' (by decide), hOther '[' (by decide), hOther '\x7b' (by decide),
    hOther '-' (by decide), hc]

theorem readValue_nullText :
    readValue (fuel + 1) depth ⟨p, nullText ++ rest⟩ =
      readWord nullText .null p (nullText ++ rest) := by
  rw [nullText, List.cons_append, readValue, skipBlanks_of_not_blank p (by decide)]
  rfl

theorem readValue_boolText (b : Bool) :
    readValue (fuel + 1) depth ⟨p, boolText b ++ rest⟩ =
      readWord (boolText b) (.bool · b) p (boolText b ++ rest) := by
  cases b with
  | _ =>
    simp only [boolText, List.cons_append, Bool.false_eq_true, if_false, if_true]
    rw [readValue, skipBlanks_of_not_blank p (by decide)]
    rfl

theorem decimal_eq_digit_cons (n : Nat) :
    ∃ c tail, Text.decimal n = c :: tail ∧ isDigit c = true := by
  cases hDigits : Text.decimal n with
  | nil => exact absurd hDigits (Text.decimal_ne_nil n)
  | cons c tail => exact ⟨c, tail, rfl, isDigit_of_mem_decimal (hDigits ▸ List.mem_cons_self)⟩

theorem readValue_whole {n : Int} (h : FitsWord n) (hRest : EndsNumber rest) :
    ∃ span p', readValue (fuel + 1) depth ⟨p, Text.decimalInt n ++ rest⟩ =
      (.number span (.whole n), .ok ⟨p', rest⟩) := by
  obtain ⟨hLow, hHigh⟩ := h
  cases n with
  | ofNat m =>
    have hm : m ≤ Text.maxUInt64 := Int.ofNat_le.mp hHigh
    obtain ⟨p', hRead⟩ := readNumber_decimal true p hm hRest
    obtain ⟨c, tail, hDigits, hc⟩ := decimal_eq_digit_cons m
    refine ⟨some ⟨p, p'⟩, p', ?_⟩
    rw [hDigits, List.cons_append] at hRead
    rw [Text.decimalInt, hDigits, List.cons_append, readValue_digit hc, hRead]
    rfl
  | negSucc m =>
    have hm : m + 1 ≤ Text.maxInt64 + 1 := by omega
    have hMax : Text.maxInt64 + 1 ≤ Text.maxUInt64 := by decide
    obtain ⟨p', hRead⟩ := readNumber_decimal false (p.plus 1) (hm.trans hMax) hRest
    have hWhole : wholeNumber false (m + 1) = .whole (Int.negSucc m) := by
      rw [wholeNumber, if_neg Bool.false_ne_true, if_neg (by omega)]
      rfl
    refine ⟨some ⟨p, p'⟩, p', ?_⟩
    rw [Text.decimalInt, List.cons_append, readValue_minus, hRead, hWhole]
    rfl

/-- No text of a value begins with a blank or with a closing bracket. -/
theorem Layout.starts {v : Json} (h : Layout v cs) :
    ∃ c tail, cs = c :: tail ∧ isTokenBlank c = false ∧ c ≠ ']' := by
  cases h with
  | null => exact ⟨_, _, rfl, by decide, by decide⟩
  | bool b =>
    cases b with
    | _ => exact ⟨_, _, rfl, by decide, by decide⟩
  | @whole n h =>
    cases n with
    | ofNat m =>
      obtain ⟨c, tail, hDigits, hc⟩ := decimal_eq_digit_cons m
      refine ⟨c, tail, hDigits, not_blank_of_isDigit hc, ?_⟩
      rintro rfl
      cases hc
    | negSucc m => exact ⟨_, _, rfl, by decide, by decide⟩
  | string s => exact ⟨_, _, rfl, by decide, by decide⟩
  | array h => exact ⟨_, _, rfl, by decide, by decide⟩
  | object h => exact ⟨_, _, rfl, by decide, by decide⟩

/-! ### Items and members -/

/-- The value is read of every text of it if there is fuel enough: three steps for a character. -/
def ReadsBack (v : Json) : Prop :=
  ∀ {cs gap rest : List Char} (fuel depth : Nat) (p : Place), Layout v cs → IsGap gap →
    3 * cs.length ≤ fuel → EndsNumber rest →
    ∃ tree p', readValue fuel depth ⟨p, gap ++ (cs ++ rest)⟩ = (tree, .ok ⟨p', rest⟩) ∧
      Shows depth tree v

theorem readItems_end (h : IsGap gap) :
    readItems (fuel + 1) depth first ⟨p, gap ++ ']' :: rest⟩ =
      ([], .ok ⟨(p.afterAll gap).plus 1, rest⟩) := by
  rw [readItems, skipBlanks_gap p h (by decide)]
  rfl

theorem readItems_separator {sep : List Char} (fuel depth : Nat) (p : Place)
    (h : Separator first sep) (hBlank : isTokenBlank c = false) (hEnd : c ≠ ']') :
    ∃ p', readItems (fuel + 1) depth first ⟨p, sep ++ c :: rest⟩ =
      readItem fuel depth ⟨p', c :: rest⟩ := by
  cases h with
  | first hGap =>
    refine ⟨p.afterAll sep, ?_⟩
    rw [readItems, skipBlanks_gap p hGap hBlank]
    simp
  | @comma before after hBefore hAfter =>
    refine ⟨((p.afterAll before).plus 1).afterAll after, ?_⟩
    rw [List.append_assoc, List.cons_append, readItems, skipBlanks_gap p hBefore (by decide)]
    simp [skipBlanks_gap _ hAfter hBlank]

theorem readItem_value {cur next : Cursor} {tree : Located}
    (h : readValue fuel depth cur = (tree, .ok next)) :
    readItem (fuel + 1) depth cur =
      (tree :: (readItems fuel depth false next).1, (readItems fuel depth false next).2) := by
  rw [readItem, h]

theorem readItems_row {items : List Json} (fuel depth : Nat) (p : Place)
    (h : Row Layout first items cs) (ih : ∀ v ∈ items, ReadsBack v)
    (hFuel : 3 * cs.length + 2 ≤ fuel) :
    ∃ trees p', readItems fuel depth first ⟨p, cs ++ ']' :: rest⟩ = (trees, .ok ⟨p', rest⟩) ∧
      ShowsItems depth trees items := by
  induction h generalizing p fuel with
  | nil hGap =>
    obtain ⟨fuel, rfl⟩ : ∃ f, fuel = f + 1 := ⟨fuel - 1, by omega⟩
    exact ⟨[], _, readItems_end hGap, .nil depth⟩
  | @cons first v vs sep cs row hSep hValue hRow ihRow =>
    obtain ⟨c, tail, rfl, hBlank, hEnd⟩ := hValue.starts
    simp only [List.length_append, List.length_cons] at hFuel
    -- Two steps lead to the item. It and the row behind it are read with the fuel that is left.
    obtain ⟨fuel, rfl⟩ : ∃ f, fuel = f + 2 := ⟨fuel - 2, by omega⟩
    have hBehind : EndsNumber (row ++ ']' :: rest) := by
      refine hRow.endsNumber ?_
      rintro x ⟨⟩
      decide
    obtain ⟨p₁, hItem⟩ := readItems_separator (fuel + 1) depth p hSep hBlank hEnd
    obtain ⟨tree, p₂, hRead, hShows⟩ :=
      ih v List.mem_cons_self fuel depth p₁ hValue .nil
        (by rw [List.length_cons]; omega) hBehind
    obtain ⟨trees, p₃, hRest, hTrees⟩ :=
      ihRow fuel p₂ (fun x hx => ih x (List.mem_cons_of_mem v hx)) (by omega)
    refine ⟨tree :: trees, p₃, ?_, .cons hShows hTrees⟩
    rw [List.nil_append, List.cons_append] at hRead
    rw [List.append_assoc, List.append_assoc, List.cons_append, hItem, readItem_value hRead, hRest]

theorem readMembers_end (h : IsGap gap) :
    readMembers (fuel + 1) depth first ⟨p, gap ++ '\x7d' :: rest⟩ =
      ([], .ok ⟨(p.afterAll gap).plus 1, rest⟩) := by
  rw [readMembers, skipBlanks_gap p h (by decide)]
  rfl

theorem readMembers_separator {sep : List Char} (fuel depth : Nat) (p : Place) (key : String)
    (rest : List Char) (h : Separator first sep) :
    ∃ p', readMembers (fuel + 1) depth first ⟨p, sep ++ (stringText key ++ rest)⟩ =
      readMember fuel depth ⟨p', stringText key ++ rest⟩ := by
  have hQuote : isTokenBlank '"' = false := by decide
  rw [stringText, List.cons_append]
  cases h with
  | first hGap =>
    refine ⟨p.afterAll sep, ?_⟩
    rw [readMembers, skipBlanks_gap p hGap hQuote]
    simp
  | @comma before after hBefore hAfter =>
    refine ⟨((p.afterAll before).plus 1).afterAll after, ?_⟩
    rw [List.append_assoc, List.cons_append, readMembers, skipBlanks_gap p hBefore (by decide)]
    simp [skipBlanks_gap _ hAfter hQuote]

/-- The reader comes from the key of a member to its value at the place `q`. -/
theorem readMember_key {before : List Char} (fuel depth : Nat) (p : Place) (key : String)
    (rest : List Char) (h : IsGap before) :
    ∃ k q, k.name = key ∧ k.fault = none ∧ ∀ tree next,
      readValue fuel depth ⟨q, rest⟩ = (tree, .ok next) →
        readMember (fuel + 1) depth ⟨p, stringText key ++ (before ++ ':' :: rest)⟩ =
          ((k, tree) :: (readMembers fuel depth false next).1,
            (readMembers fuel depth false next).2) := by
  obtain ⟨p', hKey⟩ := readString_escaped (p.plus 1) key.toList (before ++ ':' :: rest)
  have hColon : isTokenBlank ':' = false := by decide
  refine ⟨⟨key, some (keyStop ⟨p'.afterAll before, ':' :: rest⟩), none⟩,
    (p'.afterAll before).plus 1, rfl, rfl, ?_⟩
  intro tree next hValue
  rw [stringText, List.cons_append, List.append_assoc, List.singleton_append, readMember]
  simp [hKey, skipBlanks_gap p' h hColon, hValue]

theorem readMembers_row {members : List (String × Json)} (fuel depth : Nat) (p : Place)
    (h : Row MemberLayout first members cs) (ih : ∀ m ∈ members, ReadsBack m.2)
    (hFuel : 3 * cs.length + 2 ≤ fuel) :
    ∃ trees p', readMembers fuel depth first ⟨p, cs ++ '\x7d' :: rest⟩ =
        (trees, .ok ⟨p', rest⟩) ∧ ShowsMembers depth trees members := by
  induction h generalizing p fuel with
  | nil hGap =>
    obtain ⟨fuel, rfl⟩ : ∃ f, fuel = f + 1 := ⟨fuel - 1, by omega⟩
    exact ⟨[], _, readMembers_end hGap, .nil depth⟩
  | @cons first m ms sep cs row hSep hMember hRow ihRow =>
    cases hMember with
    | @mk key v before after cs hBefore hAfter hValue =>
      simp only [List.length_append, List.length_cons] at hFuel
      obtain ⟨fuel, rfl⟩ : ∃ f, fuel = f + 2 := ⟨fuel - 2, by omega⟩
      have hBehind : EndsNumber (row ++ '\x7d' :: rest) := by
        refine hRow.endsNumber ?_
        rintro x ⟨⟩
        decide
      let behind := after ++ (cs ++ (row ++ '\x7d' :: rest))
      obtain ⟨p₁, hMember⟩ :=
        readMembers_separator (fuel + 1) depth p key (before ++ ':' :: behind) hSep
      obtain ⟨k, q, rfl, hFault, hRead⟩ := readMember_key fuel depth p₁ key behind hBefore
      obtain ⟨tree, p₂, hTree, hShows⟩ :=
        ih (k.name, v) List.mem_cons_self fuel depth q hValue hAfter (by omega) hBehind
      obtain ⟨trees, p₃, hRest, hTrees⟩ :=
        ihRow fuel p₂ (fun x hx => ih x (List.mem_cons_of_mem (k.name, v) hx)) (by omega)
      refine ⟨(k, tree) :: trees, p₃, ?_, .cons hFault hShows hTrees⟩
      simp only [List.append_assoc, List.cons_append]
      rw [hMember, hRead tree _ hTree, hRest]

/-! ### Values -/

theorem closeContainer_array {trees : List Located} {items : List Json} (p : Place) (cur : Cursor)
    (h : ShowsItems (depth - 1) trees items) :
    ∃ tree, closeContainer depth p (.array · trees ·) (.ok cur) = (tree, .ok cur) ∧
      Shows depth tree (.array items) := by
  cases depth with
  | zero => exact ⟨_, rfl, .deepArray⟩
  | succ depth => exact ⟨_, rfl, .array h⟩

theorem closeContainer_object {trees : List (Key × Located)} {members : List (String × Json)}
    (p : Place) (cur : Cursor) (h : ShowsMembers (depth - 1) trees members) :
    ∃ tree, closeContainer depth p (.object · trees ·) (.ok cur) = (tree, .ok cur) ∧
      Shows depth tree (.object members) := by
  cases depth with
  | zero => exact ⟨_, rfl, .deepObject⟩
  | succ depth => exact ⟨_, rfl, .object h⟩

theorem ReadsBack.of_no_gap {v : Json}
    (h : ∀ {cs rest : List Char} (fuel depth : Nat) (p : Place), Layout v cs →
      3 * cs.length ≤ fuel + 1 → EndsNumber rest →
      ∃ tree p', readValue (fuel + 1) depth ⟨p, cs ++ rest⟩ = (tree, .ok ⟨p', rest⟩) ∧
        Shows depth tree v) : ReadsBack v := by
  intro cs gap rest fuel depth p hText hGap hFuel hRest
  obtain ⟨c, tail, rfl, hBlank, -⟩ := hText.starts
  have hPos : 0 < (c :: tail).length := List.length_pos_of_ne_nil (List.cons_ne_nil c tail)
  obtain ⟨fuel, rfl⟩ : ∃ f, fuel = f + 1 := ⟨fuel - 1, by omega⟩
  rw [List.cons_append, readValue_gap hGap hBlank]
  exact h fuel depth (p.afterAll gap) hText hFuel hRest

/-- Every value is read of every text of it. Induction on the value: lists and objects are read row
by row. -/
theorem readsBack (v : Json) : ReadsBack v := by
  refine ReadsBack.of_no_gap ?_
  induction v with
  | null =>
    rintro _ rest fuel depth p ⟨⟩ - -
    obtain ⟨span, p', h⟩ := readWord_word nullText .null p rest
    exact ⟨_, p', readValue_nullText.trans h, .null depth span⟩
  | bool b =>
    rintro _ rest fuel depth p ⟨⟩ - -
    obtain ⟨span, p', h⟩ := readWord_word (boolText b) (.bool · b) p rest
    exact ⟨_, p', (readValue_boolText b).trans h, .bool depth span b⟩
  | number n =>
    intro cs rest fuel depth p hText _ hRest
    cases hText with
    | whole hWord =>
      obtain ⟨span, p', h⟩ := readValue_whole hWord hRest
      exact ⟨_, p', h, .number depth span _⟩
  | string s =>
    rintro _ rest fuel depth p ⟨⟩ - -
    obtain ⟨tail, next, hText, h⟩ := readText_stringText p s rest
    rw [hText, readValue_quote, h]
    exact ⟨_, next, rfl, .string depth _ s⟩
  | array items ih =>
    intro cs rest fuel depth p hText hFuel _
    cases hText with
    | array hRow =>
      simp only [List.length_cons, List.length_append] at hFuel
      obtain ⟨trees, p', h, hTrees⟩ := readItems_row fuel (depth - 1) (p.plus 1) hRow
        (fun v hv => ReadsBack.of_no_gap (ih v hv)) (by omega)
      obtain ⟨tree, hClose, hShows⟩ := closeContainer_array p ⟨p', rest⟩ hTrees
      refine ⟨tree, p', ?_, hShows⟩
      rw [List.cons_append, List.append_assoc, List.singleton_append, readValue_bracket h, hClose]
  | object members ih =>
    intro cs rest fuel depth p hText hFuel _
    cases hText with
    | object hRow =>
      simp only [List.length_cons, List.length_append] at hFuel
      obtain ⟨trees, p', h, hTrees⟩ := readMembers_row fuel (depth - 1) (p.plus 1) hRow
        (fun m hm => ReadsBack.of_no_gap (ih m hm)) (by omega)
      obtain ⟨tree, hClose, hShows⟩ := closeContainer_object p ⟨p', rest⟩ hTrees
      refine ⟨tree, p', ?_, hShows⟩
      rw [List.cons_append, List.append_assoc, List.singleton_append, readValue_brace h, hClose]

theorem endFault?_gap (h : IsGap gap) : endFault? ⟨p, gap⟩ = none := by
  induction gap generalizing p with
  | nil => rfl
  | cons c gap ih =>
    have hc := h c List.mem_cons_self
    have hGap := ih (p := p.after c) fun x hx => h x (List.mem_cons_of_mem c hx)
    rw [endFault?] at hGap ⊢
    rw [skipBlanks, if_pos hc]
    exact hGap

/-- What is read of a text of a value with blanks around it. -/
theorem read_layout {v : Json} {before after : List Char} (h : Layout v cs) (hBefore : IsGap before)
    (hAfter : IsGap after) :
    ∃ tree, read (before ++ (cs ++ after)) = (tree, none) ∧ Shows maxDepth tree v := by
  have hEnd : EndsNumber after := by
    have hNil : EndsNumber [] := fun _ hc => nomatch hc
    simpa using hNil.append_gap hAfter
  let fuel := 3 * (before ++ (cs ++ after)).length + 4
  have hFuel : 3 * cs.length ≤ fuel := by
    simp only [fuel, List.length_append]
    omega
  obtain ⟨tree, p', hRead, hShows⟩ := readsBack v fuel maxDepth .start h hBefore hFuel hEnd
  refine ⟨tree, ?_, hShows⟩
  rw [read, readWithin, hRead]
  simp only [endFault?_gap hAfter]

end Worklist.Json
