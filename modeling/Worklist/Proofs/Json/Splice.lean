import Mathlib.Tactic.SplitIfs
import Worklist.Proofs.Json.Locality
import Worklist.Proofs.Json.RoundTrip
import Worklist.Proofs.Text.Blank

/-!
# Texts put into lists

The text of a value may be put into the text of a list, as it stands and with whatever is around it.
If the longer text has a value at all, the item of the list is the value of the shorter text: it may
be that the blanks around it are none to the reader, or that it stands too deep in the list, but it
cannot be read in another way.
-/

namespace Worklist.Json

variable {core : List Char} {fuel depth : Nat} {p : Place} {v x w : Json}

/-! ### Readings that break off -/

/-- A reading that breaks off has no value. -/
def ValueEnds (r : Reading Located) : Prop :=
  ∀ fault, r.2 = .error fault → ∀ v, r.1.value ≠ .ok v

theorem valueEnds_unreadable {start : Place} {fault : Fault} {skipped : Option Fault}
    {next : Except Fault Cursor} : ValueEnds (.unreadable start fault skipped, next) :=
  fun _ _ _ h => nomatch h

theorem valueEnds_ok {tree : Located} {cur : Cursor} : ValueEnds (tree, .ok cur) :=
  fun _ h => nomatch h

theorem valueEnds_readText (start : Place) (rest : List Char) :
    ValueEnds (readText start rest) := by
  unfold readText
  rcases readString (start.plus 1) 0 rest with ⟨⟨chars, refused⟩, fault | cur⟩
  · cases refused <;> exact valueEnds_unreadable
  · cases refused <;> exact valueEnds_ok

theorem valueEnds_numberValue (start : Place) (r : Reading (Except Fault Number)) :
    ValueEnds (numberValue start r) := by
  rcases r with ⟨x, fault | cur⟩
  · cases x <;> exact valueEnds_unreadable
  · cases x <;> exact valueEnds_ok

theorem valueEnds_readWord (word : List Char) (value : Option Span → Located) (start : Place)
    (cs : List Char) : ValueEnds (readWord word value start cs) := by
  unfold readWord
  cases readLetters start word cs with
  | error fault => exact valueEnds_unreadable
  | ok cur => exact valueEnds_ok

theorem valueEnds_closeContainer (depth : Nat) (start : Place)
    {value : Option Span → Option Fault → Located}
    (hValue : ∀ span fault v, (value span (some fault)).value ≠ .ok v)
    (next : Except Fault Cursor) : ValueEnds (closeContainer depth start value next) := by
  cases depth with
  | zero => exact valueEnds_unreadable
  | succ depth =>
    cases next with
    | error fault => exact fun _ _ => hValue _ fault
    | ok cur => exact valueEnds_ok

theorem Located.value_array_broken (span : Option Span) (items : List Located) (fault : Fault)
    (v : Json) : (Located.array span items (some fault)).value ≠ .ok v := by
  intro h
  obtain ⟨-, -, hEnding, -⟩ := value_array_eq_ok_iff.mp h
  cases hEnding

theorem Located.value_object_broken (span : Option Span) (members : List (Key × Located))
    (fault : Fault) (v : Json) : (Located.object span members (some fault)).value ≠ .ok v := by
  intro h
  obtain ⟨-, -, hEnding, -⟩ := value_object_eq_ok_iff.mp h
  cases hEnding

theorem valueEnds_readValue (fuel depth : Nat) (cur : Cursor) :
    ValueEnds (readValue fuel depth cur) := by
  cases fuel with
  | zero =>
    rw [readValue]
    exact valueEnds_unreadable
  | succ fuel =>
    rw [readValue]
    rcases skipBlanks cur.place cur.rest with ⟨p, _ | ⟨c, rest⟩⟩
    · exact valueEnds_unreadable
    · dsimp only
      split_ifs
      case _ => exact valueEnds_readText p rest
      case _ => exact valueEnds_closeContainer depth p (fun _ => Located.value_array_broken _ _) _
      case _ => exact valueEnds_closeContainer depth p (fun _ => Located.value_object_broken _ _) _
      case _ => exact valueEnds_numberValue p _
      case _ => exact valueEnds_numberValue p _
      case _ => exact valueEnds_readWord _ _ p _
      case _ => exact valueEnds_readWord _ _ p _
      case _ => exact valueEnds_readWord _ _ p _
      case _ => exact valueEnds_unreadable

theorem next_of_value {tree : Located} {next : Except Fault Cursor} {cur : Cursor}
    (h : readValue fuel depth cur = (tree, next)) (hValue : tree.value = .ok v) :
    ∃ cur', next = .ok cur' := by
  cases next with
  | ok cur' => exact ⟨cur', rfl⟩
  | error fault =>
    have hEnds := valueEnds_readValue fuel depth cur
    rw [h] at hEnds
    exact absurd hValue (hEnds fault rfl v)

theorem isGap_of_endFault? {cs : List Char} (h : endFault? ⟨p, cs⟩ = none) : IsGap cs := by
  induction cs generalizing p with
  | nil => exact .nil
  | cons c cs ih =>
    rw [endFault?, skipBlanks] at h
    by_cases hc : isTokenBlank c = true
    · rw [if_pos hc] at h
      exact List.forall_mem_cons.mpr ⟨hc, ih h⟩
    · rw [if_neg hc] at h
      cases h

/-- A text with a value is read up to blanks at its end. -/
theorem readValue_of_parse (h : parse core = .ok v) :
    ∃ tree cur, readValue (3 * core.length + 4) maxDepth ⟨.start, core⟩ = (tree, .ok cur) ∧
      tree.value = .ok v ∧ IsGap cur.rest := by
  obtain ⟨hValue, hEnd⟩ := parse_eq_ok_iff.mp h
  rw [read, readWithin] at hValue hEnd
  rcases hRead : readValue (3 * core.length + 4) maxDepth ⟨.start, core⟩ with ⟨tree, fault | cur⟩
  · rw [hRead] at hValue
    obtain ⟨cur, hCur⟩ := next_of_value hRead hValue
    cases hCur
  · rw [hRead] at hValue hEnd
    exact ⟨tree, cur, rfl, hValue, isGap_of_endFault? hEnd⟩

/-! ### Blanks that the reader does not know -/

/-- No value starts with the character. -/
def StartsNothing (c : Char) : Prop :=
  isTokenBlank c = false ∧ isDigit c = false ∧ c ∉ ['"', '[', '\x7b', '-', 'n', 't', 'f']

theorem readValue_of_startsNothing {c : Char} (h : StartsNothing c) (fuel depth : Nat) (p : Place)
    (rest : List Char) : ∃ fault, (readValue fuel depth ⟨p, c :: rest⟩).2 = .error fault := by
  obtain ⟨hBlank, hDigit, hOther⟩ := h
  simp only [List.mem_cons, List.not_mem_nil, or_false, not_or] at hOther
  cases fuel with
  | zero => exact ⟨_, by rw [readValue, broken]⟩
  | succ fuel =>
    refine ⟨⟨.valueMissing, p.afterByte c⟩, ?_⟩
    rw [readValue, skipBlanks_of_not_blank p hBlank]
    simp [hOther, hDigit, broken]

theorem isBlank_of_isTokenBlank {c : Char} (h : isTokenBlank c = true) : Text.isBlank c = true := by
  simp only [isTokenBlank, Bool.or_eq_true, beq_iff_eq] at h
  rcases h with ((rfl | rfl) | rfl) | rfl <;> decide +kernel

theorem ne_of_isBlank {b c : Char} (hb : Text.isBlank b = true) (hc : Text.isBlank c = false) :
    b ≠ c := by
  rintro rfl
  rw [hb] at hc
  cases hc

theorem isDigit_of_isBlank {c : Char} (h : Text.isBlank c = true) : isDigit c = false := by
  by_contra hDigit
  rw [Text.isBlank_of_isDigit (isDigit_iff.mp (Bool.eq_true_of_not_eq_false hDigit))] at h
  cases h

theorem startsNothing_of_isBlank {c : Char} (hBlank : Text.isBlank c = true)
    (hToken : isTokenBlank c = false) : StartsNothing c := by
  refine ⟨hToken, isDigit_of_isBlank hBlank, ?_⟩
  have hOther := fun x => ne_of_isBlank (c := x) hBlank
  simp only [List.mem_cons, List.not_mem_nil, or_false, not_or]
  exact ⟨hOther '"' (by decide +kernel), hOther '[' (by decide +kernel),
    hOther '\x7b' (by decide +kernel), hOther '-' (by decide +kernel),
    hOther 'n' (by decide +kernel), hOther 't' (by decide +kernel), hOther 'f' (by decide +kernel)⟩

theorem EndsNumber.append_blanks {pad rest : List Char} (hRest : EndsNumber rest)
    (hPad : ∀ b ∈ pad, Text.isBlank b = true) : EndsNumber (pad ++ rest) := by
  cases pad with
  | nil => exact hRest
  | cons b pad =>
    have hb := hPad b List.mem_cons_self
    have hOther := fun x => ne_of_isBlank (c := x) hb
    rintro c ⟨⟩
    exact ⟨isDigit_of_isBlank hb, hOther '.' (by decide +kernel), hOther 'e' (by decide +kernel),
      hOther 'E' (by decide +kernel)⟩

/-- Blanks in front of a character are passed over, or there is one among them that stops the
reader. -/
theorem skipBlanks_blanks {pad : List Char} (hPad : ∀ b ∈ pad, Text.isBlank b = true) (p : Place)
    (rest : List Char) :
    IsGap pad ∨ ∃ p' b more, skipBlanks p (pad ++ rest) = ⟨p', b :: more⟩ ∧
      Text.isBlank b = true ∧ isTokenBlank b = false := by
  induction pad generalizing p with
  | nil => exact .inl .nil
  | cons b pad ih =>
    obtain ⟨hb, hPad⟩ := List.forall_mem_cons.mp hPad
    rw [List.cons_append, skipBlanks]
    cases hToken : isTokenBlank b with
    | true =>
      rcases ih hPad (p.after b) with hGap | hStop
      · exact .inl (List.forall_mem_cons.mpr ⟨hToken, hGap⟩)
      · exact .inr hStop
    | false => exact .inr ⟨p, b, _, rfl, hb, hToken⟩

/-! ### Items -/

variable {lead trail second rest : List Char} {cur : Cursor}

theorem readItem_eq_ok {items : List Located} {cur next : Cursor}
    (h : readItem fuel depth cur = (items, .ok next)) :
    ∃ f tree cur' rest, fuel = f + 1 ∧ readValue f depth cur = (tree, .ok cur') ∧
      items = tree :: rest ∧ readItems f depth false cur' = (rest, .ok next) := by
  cases fuel with
  | zero => simp [readItem] at h
  | succ fuel =>
    rw [readItem] at h
    rcases hRead : readValue fuel depth cur with ⟨tree, fault | cur'⟩
    · simp [hRead] at h
    · rw [hRead] at h
      obtain ⟨hItems, hNext⟩ := Prod.mk.inj h
      exact ⟨fuel, tree, cur', _, rfl, hRead, hItems.symm, Prod.ext rfl hNext⟩

/-- Blanks that the reader does not know cannot stand in front of an item or a closing bracket. -/
theorem isGap_of_readItems {pad : List Char} {first : Bool} {items : List Located}
    (hPad : ∀ b ∈ pad, Text.isBlank b = true)
    (h : readItems fuel depth first ⟨p, pad ++ rest⟩ = (items, .ok cur)) : IsGap pad := by
  rcases skipBlanks_blanks hPad p rest with hGap | ⟨p', b, more, hStop, hBlank, hToken⟩
  · exact hGap
  have hClose : b ≠ ']' := ne_of_isBlank hBlank (by decide +kernel)
  have hComma : b ≠ ',' := ne_of_isBlank hBlank (by decide +kernel)
  cases fuel with
  | zero => simp [readItems] at h
  | succ fuel =>
    rw [readItems, hStop] at h
    cases first with
    | false => simp [hComma] at h
    | true =>
      obtain ⟨f, tree, cur', _, rfl, hRead, -⟩ := readItem_eq_ok (by simpa using h)
      obtain ⟨fault, hFault⟩ :=
        readValue_of_startsNothing (startsNothing_of_isBlank hBlank hToken) f depth p' more
      rw [hRead] at hFault
      cases hFault

/-- The first item behind a separator, and the items that follow it. -/
theorem readItems_item {sep tail : List Char} {c : Char} {first : Bool} {items : List Located}
    (hSep : Separator first sep) (hBlank : isTokenBlank c = false) (hClose : c ≠ ']')
    (h : readItems fuel depth first ⟨p, sep ++ c :: tail⟩ = (items, .ok cur)) :
    ∃ f p' tree cur' rest, fuel = f + 2 ∧ readValue f depth ⟨p', c :: tail⟩ = (tree, .ok cur') ∧
      items = tree :: rest ∧ readItems f depth false cur' = (rest, .ok cur) := by
  cases fuel with
  | zero => simp [readItems] at h
  | succ fuel =>
    obtain ⟨p', hItem⟩ := readItems_separator fuel depth p hSep hBlank hClose
    obtain ⟨f, tree, cur', rest, rfl, hItems⟩ := readItem_eq_ok (hItem ▸ h)
    exact ⟨f, p', tree, cur', rest, rfl, hItems⟩

/-- The text of a value with blanks around it. -/
structure Framed (v : Json) (lead core trail : List Char) : Prop where
  parse : parse core = .ok v
  head : ∀ c ∈ core.head?, Text.isBlank c = false
  lead : ∀ b ∈ lead, Text.isBlank b = true
  trail : ∀ b ∈ trail, Text.isBlank b = true

/-- The text of a value begins with a character that a value starts with, blanks apart. -/
theorem Framed.starts (h : Framed v lead core trail) :
    ∃ c tail, core = c :: tail ∧ isTokenBlank c = false ∧ c ≠ ']' := by
  obtain ⟨tree, cur, hRead, -⟩ := readValue_of_parse h.parse
  cases core with
  | nil =>
    simp only [List.length_nil, readValue, skipBlanks, broken] at hRead
    cases hRead
  | cons c tail =>
    refine ⟨c, tail, rfl, ?_, ?_⟩
    · by_contra hToken
      have hBlank := isBlank_of_isTokenBlank (Bool.eq_true_of_not_eq_false hToken)
      rw [h.head c rfl] at hBlank
      cases hBlank
    · rintro rfl
      have hNothing : StartsNothing ']' := ⟨by decide, by decide, by decide⟩
      obtain ⟨fault, hFault⟩ := readValue_of_startsNothing hNothing
        (3 * (']' :: tail).length + 4) maxDepth .start tail
      rw [hRead] at hFault
      cases hFault

/-- The first item of a list is read up to the blanks behind its text. -/
theorem first_of_readItems {items : List Located} (hFramed : Framed v lead core trail)
    (hFuel : 3 * core.length + 6 ≤ fuel)
    (h : readItems fuel depth true ⟨p, lead ++ (core ++ (trail ++ ',' :: rest))⟩ =
      (items, .ok cur)) :
    ∃ f p' pad first others, fuel = f + 2 ∧ items = first :: others ∧
      (∀ v', first.value = .ok v' → v = v') ∧ IsGap pad ∧
      readItems f depth false ⟨p', pad ++ ',' :: rest⟩ = (others, .ok cur) := by
  obtain ⟨tree, ⟨p₁, gap⟩, hCore, hValue, hGap⟩ := readValue_of_parse hFramed.parse
  have hLead := isGap_of_readItems hFramed.lead h
  obtain ⟨c, tail, rfl, hBlank, hClose⟩ := hFramed.starts
  rw [List.cons_append] at h
  obtain ⟨f, p₂, first, cur₂, others, rfl, hFirst, rfl, hRest⟩ :=
    readItems_item (.first hLead) hBlank hClose h
  have hComma : EndsNumber (',' :: rest) := by
    rintro x ⟨⟩
    decide
  have hFuelFirst : 3 * (c :: tail).length + 4 ≤ f := by omega
  obtain ⟨p₃, hNext, hAgrees⟩ := readValue_append (hComma.append_blanks hFramed.trail) hFuelFirst
    maxDepth depth .start p₂ (c :: tail) ⟨p₁, gap⟩ (by rw [hCore])
  rw [List.cons_append, hFirst] at hNext hAgrees
  rw [hCore] at hAgrees
  cases hNext
  have hPad : ∀ b ∈ gap ++ trail, Text.isBlank b = true := by
    intro b hb
    rcases List.mem_append.mp hb with hb | hb
    · exact isBlank_of_isTokenBlank (hGap b hb)
    · exact hFramed.trail b hb
  rw [← List.append_assoc] at hRest
  exact ⟨f, p₃, gap ++ trail, first, others, rfl, rfl, fun v' hv' => hAgrees v v' hValue hv',
    isGap_of_readItems hPad hRest, hRest⟩

/-- The last item of a list is read up to the bracket. -/
theorem last_of_readItems {pad : List Char} {items : List Located} (hPad : IsGap pad)
    (hSecond : Layout x second) (hFuel : 3 * second.length + 12 ≤ fuel)
    (h : readItems fuel depth false ⟨p, pad ++ ',' :: ' ' :: (second ++ ']' :: rest)⟩ =
      (items, .ok cur)) :
    ∃ last, items = [last] ∧ Shows depth last x ∧ cur.rest = rest := by
  obtain ⟨d, more, rfl, hBlank, hClose⟩ := hSecond.starts
  have hSplit : pad ++ ',' :: ' ' :: (d :: more ++ ']' :: rest) =
      (pad ++ ',' :: [' ']) ++ d :: (more ++ ']' :: rest) := by
    simp
  rw [hSplit] at h
  obtain ⟨f, p', last, cur', others, rfl, hLast, rfl, hEnd⟩ :=
    readItems_item (.comma hPad .space) hBlank hClose h
  have hBracket : EndsNumber (']' :: rest) := by
    rintro x ⟨⟩
    decide
  obtain ⟨tree, p'', hRead, hShows⟩ :=
    readsBack x f depth p' hSecond .nil (by omega) hBracket
  rw [List.nil_append, List.cons_append, hLast] at hRead
  cases hRead
  obtain ⟨f, rfl⟩ : ∃ g, f = g + 1 := ⟨f - 1, by omega⟩
  have hNone : readItems (f + 1) depth false ⟨p'', ']' :: rest⟩ = ([], .ok ⟨p''.plus 1, rest⟩) :=
    readItems_end IsGap.nil
  rw [hEnd] at hNone
  cases hNone
  exact ⟨last, rfl, hShows, rfl⟩

/-! ### Objects with a list -/

theorem value_of_closeContainer {start : Place} {value : Option Span → Option Fault → Located}
    {next : Except Fault Cursor} {tree : Located}
    (h : closeContainer depth start value next = (tree, .ok cur)) (hw : tree.value = .ok w) :
    next = .ok cur ∧ ∃ span, tree = value span none := by
  cases depth with
  | zero =>
    cases h
    cases hw
  | succ depth =>
    cases next with
    | error fault => cases h
    | ok cur =>
      cases h
      exact ⟨rfl, _, rfl⟩

theorem items_of_bracket {tree : Located}
    (h : readValue (fuel + 1) depth ⟨p, '[' :: rest⟩ = (tree, .ok cur))
    (hw : tree.value = .ok w) :
    ∃ items span, readItems fuel (depth - 1) true ⟨p.plus 1, rest⟩ = (items, .ok cur) ∧
      tree = .array span items none := by
  rcases hItems : readItems fuel (depth - 1) true ⟨p.plus 1, rest⟩ with ⟨items, next⟩
  rw [readValue_bracket hItems] at h
  obtain ⟨rfl, span, rfl⟩ := value_of_closeContainer h hw
  exact ⟨items, span, rfl, rfl⟩

theorem members_of_brace {tree : Located}
    (h : readValue (fuel + 1) depth ⟨p, '\x7b' :: rest⟩ = (tree, .ok cur))
    (hw : tree.value = .ok w) :
    ∃ members span, readMembers fuel (depth - 1) true ⟨p.plus 1, rest⟩ = (members, .ok cur) ∧
      tree = .object span members none := by
  rcases hMembers : readMembers fuel (depth - 1) true ⟨p.plus 1, rest⟩ with ⟨members, next⟩
  rw [readValue_brace hMembers] at h
  obtain ⟨rfl, span, rfl⟩ := value_of_closeContainer h hw
  exact ⟨members, span, rfl, rfl⟩

/-- A list is read whose first item is the text of a value with blanks around it. -/
theorem value_of_listText {tree : Located} (hFramed : Framed v lead core trail)
    (hSecond : Layout x second) (hKeyed : x.Keyed)
    (hFuel : 3 * core.length + 3 * second.length + 21 ≤ fuel)
    (h : readValue fuel depth ⟨p, ' ' :: '[' ::
      (lead ++ (core ++ (trail ++ ',' :: ' ' :: (second ++ ']' :: rest))))⟩ = (tree, .ok cur))
    (hw : tree.value = .ok w) : w = .array [v, x] ∧ cur.rest = rest := by
  obtain ⟨fuel, rfl⟩ : ∃ f, fuel = f + 1 := ⟨fuel - 1, by omega⟩
  rw [← List.singleton_append, readValue_gap .space (by decide)] at h
  obtain ⟨items, span, hItems, rfl⟩ := items_of_bracket h hw
  obtain ⟨f, p', pad, first, others, rfl, rfl, hFirst, hPad, hOthers⟩ :=
    first_of_readItems hFramed (by omega) hItems
  obtain ⟨last, rfl, hShows, hRest⟩ := last_of_readItems hPad hSecond (by omega) hOthers
  obtain ⟨vs, hvs, -, rfl⟩ := Located.value_array_eq_ok_iff.mp hw
  rcases Located.itemValues_eq_ok_iff.mp hvs with _ | ⟨hv, _ | ⟨hx, ⟨⟩⟩⟩
  rcases hShows.value hKeyed with ⟨-, hLast⟩ | ⟨-, fault, hLast, -⟩
  · rw [hLast] at hx
    cases hx
    rw [← hFirst _ hv]
    exact ⟨rfl, hRest⟩
  · rw [hLast] at hx
    cases hx

theorem next_of_readMember_key {key : String} {members : List (Key × Located)} {next : Cursor}
    (h : readMember fuel depth ⟨p, stringText key ++ ':' :: rest⟩ = (members, .ok next)) :
    ∃ f k q tree cur ms, fuel = f + 1 ∧ k.name = key ∧
      readValue f depth ⟨q, rest⟩ = (tree, .ok cur) ∧ members = (k, tree) :: ms ∧
      readMembers f depth false cur = (ms, .ok next) := by
  cases fuel with
  | zero => simp [readMember] at h
  | succ fuel =>
    obtain ⟨p', hKey⟩ := readString_escaped (p.plus 1) key.toList (':' :: rest)
    have hColon : skipBlanks p' (':' :: rest) = ⟨p', ':' :: rest⟩ :=
      skipBlanks_of_not_blank p' (by decide)
    obtain ⟨k, hName, hMember⟩ := readMember_of_key hKey hColon fuel depth
    rw [stringText, List.cons_append, List.append_assoc, List.singleton_append, hMember] at h
    rcases hRead : readValue fuel depth ⟨p'.plus 1, rest⟩ with ⟨tree, fault | cur⟩
    · simp [hRead] at h
    · rw [hRead] at h
      obtain ⟨hMembers, hNext⟩ := Prod.mk.inj h
      exact ⟨fuel, k, _, tree, cur, _, rfl, by simpa using hName, hRead, hMembers.symm,
        Prod.ext rfl hNext⟩

/-- The text of an object whose one member is a list of two items. -/
def pairText (key : String) (first second : List Char) : List Char :=
  '\x7b' :: (stringText key ++ ':' :: ' ' :: '[' ::
    (first ++ ',' :: ' ' :: (second ++ [']', '\x7d'])))

/-- The text of a value may be put into the object as it stands. If the object can be read, then
with this value. -/
theorem value_of_pairText {key : String} (hFramed : Framed v lead core trail)
    (hSecond : Layout x second) (hKeyed : x.Keyed)
    (h : parse (pairText key (lead ++ (core ++ trail)) second) = .ok w) :
    w = .object [(key, .array [v, x])] := by
  obtain ⟨tree, cur, hRead, hValue, -⟩ := readValue_of_parse h
  let list := lead ++ (core ++ (trail ++ ',' :: ' ' :: (second ++ ']' :: ['\x7d'])))
  have hText : pairText key (lead ++ (core ++ trail)) second =
      '\x7b' :: ([] ++ (stringText key ++ ':' :: ' ' :: '[' :: list)) := by
    simp [pairText, list]
  have hLength : 3 * core.length + 3 * second.length + 21 ≤
      3 * (pairText key (lead ++ (core ++ trail)) second).length := by
    simp only [pairText, List.length_cons, List.length_append, List.length_nil]
    omega
  obtain ⟨fuel, hFuel⟩ : ∃ f, 3 * (pairText key (lead ++ (core ++ trail)) second).length + 4 =
    f + 2 := ⟨_, rfl⟩
  rw [hFuel, hText] at hRead
  obtain ⟨members, span, hMembers, rfl⟩ := members_of_brace hRead hValue
  have hNoGap : Separator true [] := .first .nil
  obtain ⟨p', hMember⟩ := readMembers_separator fuel (maxDepth - 1) (Place.plus .start 1) key
    (':' :: ' ' :: '[' :: list) hNoGap
  rw [hMember] at hMembers
  obtain ⟨f, k, q, l, cur₂, ms, rfl, hName, hList, rfl, hEnd⟩ := next_of_readMember_key hMembers
  obtain ⟨vs, hvs, -, rfl⟩ := Located.value_object_eq_ok_iff.mp hValue
  rcases Located.memberValues_eq_ok_iff.mp hvs with _ | ⟨⟨-, hKey, hMemberValue⟩, hOthers⟩
  obtain ⟨hw, hRest⟩ :=
    value_of_listText hFramed hSecond hKeyed (by omega) hList hMemberValue
  -- Behind the list there is nothing but the brace.
  obtain ⟨p₂, rest⟩ := cur₂
  obtain rfl : rest = ['\x7d'] := hRest
  obtain ⟨f, rfl⟩ : ∃ g, f = g + 1 := ⟨f - 1, by omega⟩
  have hNone : readMembers (f + 1) (maxDepth - 1) false ⟨p₂, ['\x7d']⟩ =
      ([], .ok ⟨p₂.plus 1, []⟩) := readMembers_end IsGap.nil
  rw [hEnd] at hNone
  cases hNone
  cases hOthers
  rw [collect_of_nodup (by simp), ← hw, ← hName, hKey]

end Worklist.Json
