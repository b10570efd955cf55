import Mathlib.Tactic.SplitIfs
import Worklist.Proofs.Json.Keys
import Worklist.Proofs.Json.Scalar

/-!
# Reading in front of other text

A value that is read up to some place of a text is read in the same way if more text follows, if it
stands elsewhere, and if lists and objects are around it. Only a number has to know that it ends, so
what follows must not go on with one.
-/

namespace Worklist.Json

variable {behind cs : List Char} {p q : Place}

/-- Where the first reading comes to an end, so does the second, with the text behind still to be
read, and what they have is related. -/
def Continues {α β : Type} (R : α → β → Prop) (behind : List Char) (first : Reading α)
    (second : Reading β) : Prop :=
  ∀ cur, first.2 = .ok cur → ∃ place, second.2 = .ok ⟨place, cur.rest ++ behind⟩ ∧
    R first.1 second.1

section

variable {α β γ δ : Type} {R : α → β → Prop} {S : γ → δ → Prop} {x : α} {y : β}

theorem Continues.of_error {fault : Fault} {first : Reading α} {second : Reading β}
    (h : first.2 = .error fault) : Continues R behind first second := by
  intro cur hCur
  rw [h] at hCur
  cases hCur

theorem Continues.ok (rest : List Char) (h : R x y) :
    Continues R behind (x, .ok ⟨p, rest⟩) (y, .ok ⟨q, rest ++ behind⟩) := by
  rintro _ ⟨⟩
  exact ⟨q, rfl, h⟩

theorem Continues.map {first : Reading α} {second : Reading β} (h : Continues R behind first second)
    {f : α → γ} {g : β → δ} (hRS : ∀ x y, R x y → S (f x) (g y)) :
    Continues S behind (f first.1, first.2) (g second.1, second.2) := by
  intro cur hCur
  obtain ⟨place, hPlace, hR⟩ := h cur hCur
  exact ⟨place, hPlace, hRS _ _ hR⟩

end

/-! ### Blanks and texts -/

theorem skipBlanks_append {c : Char} {rest : List Char} (h : (skipBlanks p cs).rest = c :: rest)
    (q : Place) (behind : List Char) :
    ∃ q', skipBlanks q (cs ++ behind) = ⟨q', c :: (rest ++ behind)⟩ := by
  induction cs generalizing p q with
  | nil => cases h
  | cons d cs ih =>
    rw [skipBlanks] at h
    rw [List.cons_append, skipBlanks]
    split
    case isTrue hBlank =>
      rw [if_pos hBlank] at h
      exact ih h _
    case isFalse hBlank =>
      rw [if_neg hBlank] at h
      cases h
      exact ⟨q, rfl⟩

theorem afterBytes?_append {n : Nat} (h : (p.afterBytes? n cs).isSome) (q : Place)
    (behind : List Char) :
    (q.afterBytes? n (cs ++ behind)).isSome := by
  induction cs generalizing p q n with
  | nil =>
    cases n with
    | zero => simp [Place.afterBytes?]
    | succ n => cases h
  | cons c cs ih =>
    cases n with
    | zero => rfl
    | succ n =>
      rw [Place.afterBytes?] at h
      rw [List.cons_append, Place.afterBytes?]
      split
      case isTrue hSize =>
        rw [if_pos hSize] at h
        exact ih h _
      case isFalse => rfl

theorem length_of_afterBytes? {n : Nat} (h : (p.afterBytes? n cs).isSome)
    (hSize : ∀ c ∈ cs.take n, c.utf8Size = 1) : n ≤ cs.length := by
  induction cs generalizing p n with
  | nil =>
    cases n with
    | zero => exact Nat.le_refl 0
    | succ n => cases h
  | cons c cs ih =>
    cases n with
    | zero => exact Nat.zero_le _
    | succ n =>
      have hc := hSize c (by simp)
      rw [Place.afterBytes?, hc, if_pos (Nat.le_add_left 1 n), Nat.add_sub_cancel] at h
      have hRest := ih h fun d hd => hSize d (by simp [hd])
      rw [List.length_cons]
      omega

theorem utf8Size_of_hexValue? {c : Char} {d : Nat} (h : Text.hexValue? c = some d) :
    c.utf8Size = 1 := by
  have hSmall : c ≤ 'f' := by
    unfold Text.hexValue? at h
    split at h
    case isTrue hDigit => exact Char.le_trans hDigit.2 (by decide)
    case isFalse =>
      split at h
      case isTrue hLower => exact hLower.2
      case isFalse =>
        split at h
        case isTrue hUpper => exact Char.le_trans hUpper.2 (by decide)
        case isFalse => cases h
  rw [Char.utf8Size_eq_one_iff]
  exact UInt32.le_trans (Char.le_def.mp hSmall) (by decide)

theorem utf8Size_of_mapM_hexValue? {ds : List Nat} (h : cs.mapM Text.hexValue? = some ds) :
    ∀ c ∈ cs, c.utf8Size = 1 := by
  induction cs generalizing ds with
  | nil => exact fun _ hc => nomatch hc
  | cons c cs ih =>
    rw [List.mapM_cons] at h
    obtain ⟨d, hd, h⟩ := Option.bind_eq_some_iff.mp h
    obtain ⟨ds, hds, -⟩ := Option.bind_eq_some_iff.mp h
    exact List.forall_mem_cons.mpr ⟨utf8Size_of_hexValue? hd, ih hds⟩

/-- Four digits are read from as many characters, so what follows makes no difference. -/
theorem fourDigits_append {n : Nat} (h : fourDigits p cs = .ok n) (q : Place)
    (behind : List Char) :
    fourDigits q (cs ++ behind) = .ok n ∧ 4 ≤ cs.length := by
  unfold fourDigits at h
  split at h
  case h_1 => cases h
  case h_2 stop hStop =>
    split at h
    case h_2 => cases h
    case h_1 ds hDigits =>
      have hSome : (p.afterBytes? 4 cs).isSome := by
        rw [hStop]
        rfl
      have hLength := length_of_afterBytes? hSome (utf8Size_of_mapM_hexValue? hDigits)
      obtain ⟨stop', hStop'⟩ :=
        Option.isSome_iff_exists.mp (afterBytes?_append hSome q behind)
      refine ⟨?_, hLength⟩
      rw [fourDigits, hStop', List.take_append_of_le_length hLength, hDigits]
      exact h

/-- The second escape is the first one, or the first breaks off. -/
def Escape.Continues : Escape → Escape → Prop
  | .char c n, e => e = .char c n
  | .refused _ n, e => ∃ fault, e = .refused fault n
  | .broken _, _ => True

theorem codeEscape_continues (p q : Place) (cs behind : List Char) :
    (codeEscape p cs).Continues (codeEscape q (cs ++ behind)) := by
  rw [codeEscape]
  split
  case h_1 => trivial
  case h_2 n hFour =>
    obtain ⟨hFour', hLength⟩ := fourDigits_append hFour q behind
    rw [codeEscape, hFour']
    simp only [List.drop_append_of_le_length hLength]
    split
    case isTrue => exact ⟨_, rfl⟩
    case isFalse =>
      split
      case isTrue => rfl
      case isFalse =>
        split
        case h_1 => trivial
        case h_2 => trivial
        case h_3 more hDrop =>
          rw [hDrop]
          simp only [List.cons_append]
          split
          case h_1 => trivial
          case h_2 m hMore =>
            rw [(fourDigits_append hMore _ behind).1]
            dsimp only
            split
            case isTrue => rfl
            case isFalse => exact ⟨_, rfl⟩
        case h_4 c more hLetter hDrop =>
          rw [hDrop, List.cons_append, List.cons_append]
          split
          case h_1 hEq => cases hEq
          case h_2 hEq => cases hEq
          case h_3 hEq => exact absurd (List.cons.inj (List.cons.inj hEq).2).1 hLetter
          case h_4 => exact ⟨_, rfl⟩
          case h_5 d tail _ _ hNone hEq =>
            cases hEq
            exact absurd rfl (hNone c _ rfl)
        case h_5 c tail hEnd _ hOther hDrop =>
          have hc : c ≠ '\\' := by
            intro hEq
            cases tail with
            | nil => exact hEnd hEq rfl
            | cons d tail => exact hOther d tail hEq rfl
          rw [hDrop, List.cons_append]
          split
          case h_1 hEq => cases hEq
          case h_2 hEq => exact absurd (List.cons.inj hEq).1 hc
          case h_3 hEq => exact absurd (List.cons.inj hEq).1 hc
          case h_4 hEq => exact absurd (List.cons.inj hEq).1 hc
          case h_5 => exact ⟨_, rfl⟩

theorem escapeAt_continues (p q : Place) (cs behind : List Char) :
    (escapeAt p cs).Continues (escapeAt q (cs ++ behind)) := by
  cases cs with
  | nil => trivial
  | cons c rest =>
    rw [List.cons_append, escapeAt, escapeAt]
    split_ifs
    case _ => rfl
    case _ => rfl
    case _ => rfl
    case _ => rfl
    case _ => rfl
    case _ => rfl
    case _ => exact codeEscape_continues _ _ rest behind
    case _ => trivial

/-- The same characters are read; if they can be used in front of nothing, they can be used here. -/
theorem readString_continues (p q : Place) (done : Nat) (cs behind : List Char) :
    Continues (fun x y : Characters => y.chars = x.chars ∧ (x.refused = none → y.refused = none))
      behind (readString p done cs) (readString q done (cs ++ behind)) := by
  induction cs generalizing p q done with
  | nil => exact .of_error rfl
  | cons c rest ih =>
    rw [List.cons_append]
    cases done with
    | succ n =>
      rw [readString, readString]
      exact ih _ _ n
    | zero =>
      rw [readString, readString]
      dsimp only
      split_ifs with hQuote hBackslash
      case _ => exact .ok rest ⟨rfl, id⟩
      case _ =>
        have hEscape := escapeAt_continues (p.plus 1) (q.plus 1) rest behind
        cases hFirst : escapeAt (p.plus 1) rest with
        | char e n =>
          rw [hFirst] at hEscape
          rw [hEscape]
          refine (ih (p.plus 1) (q.plus 1) n).map fun x y hxy => ⟨?_, hxy.2⟩
          exact congrArg (e :: ·) hxy.1
        | refused fault n =>
          rw [hFirst] at hEscape
          obtain ⟨fault', hEscape⟩ := hEscape
          rw [hEscape]
          refine (ih (p.plus 1) (q.plus 1) n).map (f := fun x => { x with refused := some fault })
            (g := fun y => { y with refused := some fault' }) fun x y hxy => ?_
          refine ⟨hxy.1, ?_⟩
          rintro ⟨⟩
        | broken fault => exact .of_error rfl
      case _ => exact .of_error rfl
      case _ =>
        refine (ih (p.after c) (q.after c) 0).map fun x y hxy => ⟨?_, hxy.2⟩
        exact congrArg (c :: ·) hxy.1

/-! ### Numbers -/

/-- The second number is the first one, unless the first cannot be represented. -/
def NumberContinues (x y : Except Fault Number) : Prop :=
  ∀ n, x = .ok n → y = .ok n

theorem takeWhile_isDigit_append (h : EndsNumber behind) (cs : List Char) :
    (cs ++ behind).takeWhile isDigit = cs.takeWhile isDigit ∧
      (cs ++ behind).dropWhile isDigit = cs.dropWhile isDigit ++ behind := by
  induction cs with
  | nil =>
    cases behind with
    | nil => exact ⟨rfl, rfl⟩
    | cons c behind =>
      have hc := (h c rfl).1
      simp [hc]
  | cons c cs ih =>
    rw [List.cons_append, List.takeWhile_cons, List.dropWhile_cons, List.takeWhile_cons,
      List.dropWhile_cons]
    by_cases hc : isDigit c = true
    · simp [hc, ih]
    · simp [hc]

theorem finishReal_continues (positive : Bool) (significand : Nat) (exponent : Int)
    (rest : List Char) : Continues NumberContinues behind
      (finishReal positive significand exponent ⟨p, rest⟩)
      (finishReal positive significand exponent ⟨q, rest ++ behind⟩) := by
  unfold finishReal
  cases scale? significand exponent with
  | some x => exact .ok rest fun _ h => h
  | none => exact .ok rest fun _ h => nomatch h

theorem readExponentDigits_continues (h : EndsNumber behind) (up positive : Bool)
    (significand : Nat) (exponent : Int) (cs : List Char) : Continues NumberContinues behind
      (readExponentDigits up positive significand exponent ⟨p, cs⟩)
      (readExponentDigits up positive significand exponent ⟨q, cs ++ behind⟩) := by
  obtain ⟨hTake, hDrop⟩ := takeWhile_isDigit_append h cs
  unfold readExponentDigits
  simp only [hTake, hDrop]
  cases hDigits : cs.takeWhile isDigit with
  | nil =>
    cases cs with
    | nil => exact .of_error rfl
    | cons c cs => exact .of_error rfl
  | cons d ds =>
    dsimp only
    split
    case h_1 => exact finishReal_continues _ _ _ _
    case h_2 =>
      split
      case isTrue => exact .ok _ fun _ h => nomatch h
      case isFalse => exact .ok _ fun _ h => h

theorem readExponent_continues (h : EndsNumber behind) (positive : Bool) (significand : Nat)
    (exponent : Int) (cs : List Char) : Continues NumberContinues behind
      (readExponent positive significand exponent ⟨p, cs⟩)
      (readExponent positive significand exponent ⟨q, cs ++ behind⟩) := by
  cases cs with
  | nil => exact .of_error rfl
  | cons c cs =>
    by_cases hPlus : c = '+'
    · subst hPlus
      exact readExponentDigits_continues h true positive significand exponent cs
    by_cases hMinus : c = '-'
    · subst hMinus
      exact readExponentDigits_continues h false positive significand exponent cs
    have hPlain : ∀ place rest, readExponent positive significand exponent ⟨place, c :: rest⟩ =
        readExponentDigits true positive significand exponent ⟨place, c :: rest⟩ := by
      simp [readExponent, hPlus, hMinus]
    rw [List.cons_append, hPlain, hPlain]
    exact readExponentDigits_continues h true positive significand exponent (c :: cs)

theorem readScale_plain (positive : Bool) (significand : Nat) (exponent : Int) {rest : List Char}
    (h : ∀ c ∈ rest.head?, c ≠ 'e' ∧ c ≠ 'E') : readScale positive significand exponent ⟨p, rest⟩ =
      finishReal positive significand exponent ⟨p, rest⟩ := by
  unfold readScale
  split
  case h_1 hRest => exact absurd rfl (h 'e' (by simp_all)).1
  case h_2 hRest => exact absurd rfl (h 'E' (by simp_all)).2
  case h_3 => rfl

theorem readScale_continues (h : EndsNumber behind) (positive : Bool) (significand : Nat)
    (exponent : Int) (cs : List Char) : Continues NumberContinues behind
      (readScale positive significand exponent ⟨p, cs⟩)
      (readScale positive significand exponent ⟨q, cs ++ behind⟩) := by
  cases cs with
  | nil =>
    rw [List.nil_append, readScale_plain _ _ _ (by simp),
      readScale_plain _ _ _ fun c hc => (h c hc).2.2]
    exact finishReal_continues _ _ _ []
  | cons c cs =>
    by_cases hSmall : c = 'e'
    · subst hSmall
      exact readExponent_continues h positive significand exponent cs
    by_cases hLarge : c = 'E'
    · subst hLarge
      exact readExponent_continues h positive significand exponent cs
    rw [readScale_plain _ _ _ (by simp [hSmall, hLarge]),
      readScale_plain _ _ _ (by simp [hSmall, hLarge])]
    exact finishReal_continues _ _ _ (c :: cs)

theorem readFraction_continues (h : EndsNumber behind) (positive : Bool) (significand : Nat)
    (exponent : Int) (cs : List Char) : Continues NumberContinues behind
      (readFraction positive significand exponent ⟨p, cs⟩)
      (readFraction positive significand exponent ⟨q, cs ++ behind⟩) := by
  obtain ⟨hTake, hDrop⟩ := takeWhile_isDigit_append h cs
  unfold readFraction
  simp only [hTake, hDrop]
  cases hDigits : cs.takeWhile isDigit with
  | nil =>
    cases cs with
    | nil => exact .of_error rfl
    | cons c cs => exact .of_error rfl
  | cons d ds => exact readScale_continues h _ _ _ _

theorem readBehindWhole_plain (positive : Bool) (digits : List Char) {rest : List Char}
    (h : ∀ c ∈ rest.head?, c ≠ '.' ∧ c ≠ 'e' ∧ c ≠ 'E') :
    readBehindWhole positive digits ⟨p, rest⟩ =
      match collectDigits Text.maxUInt64 0 digits with
      | (n, []) => (.ok (wholeNumber positive n), .ok ⟨p, rest⟩)
      | (n, d :: left) => finishReal positive n (d :: left).length ⟨p, rest⟩ := by
  unfold readBehindWhole
  obtain ⟨n, left⟩ := collectDigits Text.maxUInt64 0 digits
  dsimp only
  split
  case h_1 => exact absurd rfl (h '.' (by simp_all)).1
  case h_2 => exact absurd rfl (h 'e' (by simp_all)).2.1
  case h_3 => exact absurd rfl (h 'E' (by simp_all)).2.2
  case h_4 => cases left <;> rfl

theorem readBehindWhole_continues (h : EndsNumber behind) (positive : Bool) (digits : List Char)
    (cs : List Char) : Continues NumberContinues behind (readBehindWhole positive digits ⟨p, cs⟩)
      (readBehindWhole positive digits ⟨q, cs ++ behind⟩) := by
  have hPlain : (∀ c ∈ cs.head?, c ≠ '.' ∧ c ≠ 'e' ∧ c ≠ 'E') →
      (∀ c ∈ (cs ++ behind).head?, c ≠ '.' ∧ c ≠ 'e' ∧ c ≠ 'E') →
      Continues NumberContinues behind (readBehindWhole positive digits ⟨p, cs⟩)
        (readBehindWhole positive digits ⟨q, cs ++ behind⟩) := by
    intro hFirst hSecond
    rw [readBehindWhole_plain _ _ hFirst, readBehindWhole_plain _ _ hSecond]
    obtain ⟨n, left⟩ := collectDigits Text.maxUInt64 0 digits
    cases left with
    | nil => exact .ok cs fun _ hn => hn
    | cons d left => exact finishReal_continues _ _ _ cs
  cases cs with
  | nil => exact hPlain (by simp) fun c hc => (h c hc).2
  | cons c cs =>
    by_cases hPoint : c = '.'
    · subst hPoint
      exact readFraction_continues h positive _ _ cs
    by_cases hSmall : c = 'e'
    · subst hSmall
      exact readScale_continues h positive _ _ ('e' :: cs)
    by_cases hLarge : c = 'E'
    · subst hLarge
      exact readScale_continues h positive _ _ ('E' :: cs)
    exact hPlain (by simp [hPoint, hSmall, hLarge]) (by simp [hPoint, hSmall, hLarge])

theorem readNumber_continues (h : EndsNumber behind) (positive : Bool) (cs : List Char) :
    Continues NumberContinues behind (readNumber positive ⟨p, cs⟩)
      (readNumber positive ⟨q, cs ++ behind⟩) := by
  obtain ⟨hTake, hDrop⟩ := takeWhile_isDigit_append h cs
  unfold readNumber
  simp only [hTake, hDrop]
  split
  case h_1 => exact .of_error rfl
  case h_2 => exact .of_error rfl
  case h_3 => exact .of_error rfl
  case h_4 d ds hNoZero hDigits =>
    split
    case h_1 hNone _ => cases hDigits.symm.trans hNone
    case h_2 hNone _ => cases hDigits.symm.trans hNone
    case h_3 _ d' ds' hZero =>
      cases hDigits.symm.trans hZero
      exact (hNoZero d' ds' rfl rfl).elim
    case h_4 => exact readBehindWhole_continues h positive _ _

/-! ### Values -/

/-- Two trees that both have a value have the same. -/
def Located.Agrees (l l' : Located) : Prop :=
  ∀ v v', l.value = .ok v → l'.value = .ok v' → v = v'

theorem Located.Agrees.of_eq {l l' : Located} (h : l'.value = l.value) : l.Agrees l' := by
  intro v v' hv hv'
  rw [h, hv] at hv'
  exact Except.ok.inj hv'

theorem Located.agrees_unreadable (start : Place) (fault : Fault) (skipped : Option Fault)
    (l : Located) : (Located.unreadable start fault skipped).Agrees l :=
  fun _ _ h => nomatch h

theorem Located.agrees_of_unreadable (l : Located) (start : Place) (fault : Fault)
    (skipped : Option Fault) : l.Agrees (.unreadable start fault skipped) :=
  fun _ _ _ h => nomatch h

theorem Located.value_array_eq_ok_iff {span : Option Span} {items : List Located}
    {ending : Option Fault} {v : Json} :
    (Located.array span items ending).value = .ok v ↔
      ∃ vs, itemValues items = .ok vs ∧ ending = none ∧ v = .array vs := by
  simp only [value, bind_eq_ok_iff, refuse_eq_ok_iff]
  constructor
  · rintro ⟨vs, hItems, -, hEnding, hEq⟩
    exact ⟨vs, hItems, hEnding, (Except.ok.inj hEq).symm⟩
  · rintro ⟨vs, hItems, hEnding, rfl⟩
    exact ⟨vs, hItems, (), hEnding, rfl⟩

theorem Located.value_object_eq_ok_iff {span : Option Span} {members : List (Key × Located)}
    {ending : Option Fault} {v : Json} :
    (Located.object span members ending).value = .ok v ↔
      ∃ ms, memberValues members = .ok ms ∧ ending = none ∧ v = .object (collect ms) := by
  simp only [value, bind_eq_ok_iff, refuse_eq_ok_iff]
  constructor
  · rintro ⟨ms, hMembers, -, hEnding, hEq⟩
    exact ⟨ms, hMembers, hEnding, (Except.ok.inj hEq).symm⟩
  · rintro ⟨ms, hMembers, hEnding, rfl⟩
    exact ⟨ms, hMembers, (), hEnding, rfl⟩

theorem Located.agrees_array {items items' : List Located} (h : List.Forall₂ Agrees items items')
    (span span' : Option Span) (ending ending' : Option Fault) :
    (Located.array span items ending).Agrees (.array span' items' ending') := by
  have hItems : ∀ vs vs', itemValues items = .ok vs → itemValues items' = .ok vs' → vs = vs' := by
    intro vs vs' hvs hvs'
    rw [itemValues_eq_ok_iff] at hvs hvs'
    induction h generalizing vs vs' with
    | nil =>
      cases hvs
      cases hvs'
      rfl
    | cons hFirst _ ih =>
      cases hvs with
      | cons hv hRest =>
        cases hvs' with
        | cons hv' hRest' => rw [hFirst _ _ hv hv', ih _ _ hRest hRest']
  intro v v' hv hv'
  obtain ⟨vs, hvs, -, rfl⟩ := value_array_eq_ok_iff.mp hv
  obtain ⟨vs', hvs', -, rfl⟩ := value_array_eq_ok_iff.mp hv'
  rw [hItems vs vs' hvs hvs']

/-- The members have the same keys, and their values agree. -/
def MembersAgree : List (Key × Located) → List (Key × Located) → Prop :=
  List.Forall₂ fun m m' => m'.1.name = m.1.name ∧ m.2.Agrees m'.2

theorem Located.agrees_object {members members' : List (Key × Located)}
    (h : MembersAgree members members') (span span' : Option Span) (ending ending' : Option Fault) :
    (Located.object span members ending).Agrees (.object span' members' ending') := by
  have hMembers : ∀ ms ms', memberValues members = .ok ms → memberValues members' = .ok ms' →
      ms = ms' := by
    intro ms ms' hms hms'
    rw [memberValues_eq_ok_iff] at hms hms'
    induction h generalizing ms ms' with
    | nil =>
      cases hms
      cases hms'
      rfl
    | cons hFirst _ ih =>
      cases hms with
      | cons hm hRest =>
        cases hms' with
        | cons hm' hRest' =>
          obtain ⟨-, hKey, hv⟩ := hm
          obtain ⟨-, hKey', hv'⟩ := hm'
          have hSame := Prod.ext (hKey.symm.trans (hFirst.1.symm.trans hKey')) (hFirst.2 _ _ hv hv')
          rw [hSame, ih _ _ hRest hRest']
  intro v v' hv hv'
  obtain ⟨ms, hms, -, rfl⟩ := value_object_eq_ok_iff.mp hv
  obtain ⟨ms', hms', -, rfl⟩ := value_object_eq_ok_iff.mp hv'
  rw [hMembers ms ms' hms hms']

theorem readText_continues (p q : Place) (cs behind : List Char) :
    Continues Located.Agrees behind (readText p cs) (readText q (cs ++ behind)) := by
  have hString := readString_continues (p.plus 1) (q.plus 1) 0 cs behind
  unfold readText
  generalize readString (p.plus 1) 0 cs = x at hString ⊢
  rcases x with ⟨⟨chars, refused⟩, fault | cur⟩
  · cases refused <;> exact .of_error rfl
  · obtain ⟨place, hPlace, hChars, hRefused⟩ := hString cur rfl
    generalize readString (q.plus 1) 0 (cs ++ behind) = y at hPlace hChars hRefused ⊢
    rcases y with ⟨⟨chars', refused'⟩, next⟩
    cases hPlace
    cases hChars
    cases refused with
    | some fault =>
      cases refused' <;> exact .ok cur.rest (Located.agrees_unreadable _ _ _ _)
    | none =>
      cases hRefused rfl
      exact .ok cur.rest (.of_eq rfl)

theorem numberValue_continues {x y : Reading (Except Fault Number)}
    (h : Continues NumberContinues behind x y) :
    Continues Located.Agrees behind (numberValue p x) (numberValue q y) := by
  rcases x with ⟨x, fault | cur⟩
  · cases x <;> exact .of_error rfl
  · obtain ⟨place, hPlace, hNumber⟩ := h cur rfl
    rcases y with ⟨y, next⟩
    cases hPlace
    cases x with
    | error fault =>
      cases y <;> exact .ok cur.rest (Located.agrees_unreadable _ _ _ _)
    | ok n =>
      cases hNumber n rfl
      exact .ok cur.rest (.of_eq rfl)

theorem readLetters_append {word : List Char} {cur : Cursor} (h : readLetters p word cs = .ok cur)
    (q : Place) (behind : List Char) :
    ∃ place, readLetters q word (cs ++ behind) = .ok ⟨place, cur.rest ++ behind⟩ := by
  induction word generalizing p q cs with
  | nil =>
    cases h
    exact ⟨q, by simp [readLetters]⟩
  | cons w word ih =>
    cases cs with
    | nil => cases h
    | cons c cs =>
      rw [readLetters] at h
      split at h
      case isTrue hc =>
        rw [List.cons_append, readLetters, if_pos hc]
        exact ih h _
      case isFalse => cases h

theorem readWord_continues (word : List Char) {value : Option Span → Located}
    (hValue : ∀ span span', (value span).Agrees (value span')) (p q : Place)
    (cs behind : List Char) : Continues Located.Agrees behind (readWord word value p cs)
      (readWord word value q (cs ++ behind)) := by
  unfold readWord
  cases hLetters : readLetters p word cs with
  | error fault => exact .of_error rfl
  | ok cur =>
    obtain ⟨place, hSecond⟩ := readLetters_append hLetters q behind
    rw [hSecond]
    exact .ok cur.rest (hValue _ _)

theorem closeContainer_next (depth : Nat) (start : Place)
    (value : Option Span → Option Fault → Located) (next : Except Fault Cursor) :
    (closeContainer depth start value next).2 = next := by
  cases depth <;> rfl

theorem closeContainer_continues {α : Type} {R : α → α → Prop} {x y : Reading α}
    {value : Option Span → α → Option Fault → Located} (depth depth' : Nat) (p q : Place)
    (h : Continues R behind x y)
    (hValue : ∀ a b, R a b → ∀ span span' ending ending',
      (value span a ending).Agrees (value span' b ending')) :
    Continues Located.Agrees behind (closeContainer depth p (value · x.1 ·) x.2)
      (closeContainer depth' q (value · y.1 ·) y.2) := by
  intro cur hCur
  rw [closeContainer_next] at hCur
  obtain ⟨place, hPlace, hR⟩ := h cur hCur
  refine ⟨place, by rw [closeContainer_next, hPlace], ?_⟩
  rw [hCur, hPlace]
  cases depth with
  | zero => exact Located.agrees_unreadable _ _ _ _
  | succ depth =>
    cases depth' with
    | zero => exact Located.agrees_of_unreadable _ _ _ _
    | succ depth' => exact hValue _ _ hR _ _ _ _

/-! ### Items and members -/

/-- An item or a member starts at the cursor, behind a comma unless it is the first one. -/
inductive Starts (close : Char) (p : Place) (cs : List Char) : Bool → Cursor → Prop
  | first {p' : Place} {c : Char} {rest : List Char} : skipBlanks p cs = ⟨p', c :: rest⟩ →
      c ≠ close → Starts close p cs true ⟨p', c :: rest⟩
  | comma {p' p'' : Place} {c : Char} {rest rest' : List Char} :
      skipBlanks p cs = ⟨p', ',' :: rest⟩ → skipBlanks (p'.plus 1) rest = ⟨p'', c :: rest'⟩ →
      c ≠ close → Starts close p cs false ⟨p'', c :: rest'⟩

theorem Starts.append {close : Char} {first : Bool} {cur : Cursor} (h : Starts close p cs first cur)
    (q : Place) (behind : List Char) :
    ∃ q', Starts close q (cs ++ behind) first ⟨q', cur.rest ++ behind⟩ := by
  cases h with
  | first hBlanks hc =>
    obtain ⟨q', hSecond⟩ := skipBlanks_append (congrArg Cursor.rest hBlanks) q behind
    exact ⟨q', .first hSecond hc⟩
  | comma hBefore hAfter hc =>
    obtain ⟨q', hBefore'⟩ := skipBlanks_append (congrArg Cursor.rest hBefore) q behind
    obtain ⟨q'', hAfter'⟩ :=
      skipBlanks_append (congrArg Cursor.rest hAfter) (q'.plus 1) behind
    exact ⟨q'', .comma hBefore' hAfter' hc⟩

theorem readItems_of_starts {first : Bool} {cur : Cursor} (h : Starts ']' p cs first cur)
    (fuel depth : Nat) : readItems (fuel + 1) depth first ⟨p, cs⟩ = readItem fuel depth cur := by
  cases h with
  | first hBlanks hc =>
    rw [readItems, hBlanks]
    dsimp only
    split
    case h_1 hEq => cases hEq
    case h_2 hEq => exact absurd (List.cons.inj hEq).1 hc
    case h_3 hEq => rw [if_pos rfl]
  | comma hBefore hAfter hc =>
    rw [readItems, hBefore]
    simp [hAfter]

theorem readItems_of_close {rest : List Char} {p' : Place} (h : skipBlanks p cs = ⟨p', ']' :: rest⟩)
    (fuel depth : Nat) (first : Bool) :
    readItems (fuel + 1) depth first ⟨p, cs⟩ = ([], .ok ⟨p'.plus 1, rest⟩) := by
  rw [readItems, h]
  rfl

/-- The list ends, or an item starts, or the reading breaks off. -/
theorem readItems_cases (fuel depth : Nat) (first : Bool) (p : Place) (cs : List Char) :
    (∃ p' rest, skipBlanks p cs = ⟨p', ']' :: rest⟩) ∨ (∃ cur, Starts ']' p cs first cur) ∨
      ∃ fault, readItems (fuel + 1) depth first ⟨p, cs⟩ = ([], .error fault) := by
  rw [readItems]
  rcases hBlanks : skipBlanks p cs with ⟨p', _ | ⟨c, rest⟩⟩
  · exact .inr (.inr ⟨_, rfl⟩)
  · by_cases hClose : c = ']'
    · exact .inl ⟨p', rest, by rw [hClose]⟩
    · cases first with
      | true => exact .inr (.inl ⟨_, .first hBlanks hClose⟩)
      | false =>
        by_cases hComma : c = ','
        · subst hComma
          rcases hAfter : skipBlanks (p'.plus 1) rest with ⟨p'', _ | ⟨d, rest'⟩⟩
          · exact .inr (.inr ⟨⟨.endBeforeValue, p''⟩, by simp [hAfter]⟩)
          · by_cases hd : d = ']'
            · subst hd
              exact .inr (.inr ⟨⟨.commaBeforeListEnd, p''.plus 1⟩, by simp [hAfter]⟩)
            · exact .inr (.inl ⟨_, .comma hBlanks hAfter hd⟩)
        · exact .inr (.inr ⟨⟨.listNotContinued, p'.afterByte c⟩, by simp [hComma]⟩)

theorem readMembers_of_starts {first : Bool} {cur : Cursor} (h : Starts '\x7d' p cs first cur)
    (fuel depth : Nat) :
    readMembers (fuel + 1) depth first ⟨p, cs⟩ = readMember fuel depth cur := by
  cases h with
  | first hBlanks hc =>
    rw [readMembers, hBlanks]
    simp
  | comma hBefore hAfter hc =>
    rw [readMembers, hBefore]
    simp [hAfter]

theorem readMembers_of_close {rest : List Char} {p' : Place}
    (h : skipBlanks p cs = ⟨p', '\x7d' :: rest⟩) (fuel depth : Nat) (first : Bool) :
    readMembers (fuel + 1) depth first ⟨p, cs⟩ = ([], .ok ⟨p'.plus 1, rest⟩) := by
  rw [readMembers, h]
  rfl

/-- The object ends, or a member starts, or the reading breaks off. -/
theorem readMembers_cases (fuel depth : Nat) (first : Bool) (p : Place) (cs : List Char) :
    (∃ p' rest, skipBlanks p cs = ⟨p', '\x7d' :: rest⟩) ∨
      (∃ cur, Starts '\x7d' p cs first cur) ∨
      ∃ fault, readMembers (fuel + 1) depth first ⟨p, cs⟩ = ([], .error fault) := by
  rw [readMembers]
  rcases hBlanks : skipBlanks p cs with ⟨p', _ | ⟨c, rest⟩⟩
  · exact .inr (.inr ⟨_, rfl⟩)
  · by_cases hClose : c = '\x7d'
    · exact .inl ⟨p', rest, by rw [hClose]⟩
    · cases first with
      | true => exact .inr (.inl ⟨_, .first hBlanks hClose⟩)
      | false =>
        by_cases hComma : c = ','
        · subst hComma
          rcases hAfter : skipBlanks (p'.plus 1) rest with ⟨p'', _ | ⟨d, rest'⟩⟩
          · exact .inr (.inr ⟨⟨.endAfterMember, p''⟩, by simp [hAfter]⟩)
          · by_cases hd : d = '\x7d'
            · subst hd
              exact .inr (.inr ⟨⟨.commaBeforeObjectEnd, p''.plus 1⟩, by simp [hAfter]⟩)
            · exact .inr (.inl ⟨_, .comma hBlanks hAfter hd⟩)
        · exact .inr (.inr ⟨⟨.objectNotContinued, p'.afterByte c⟩, by simp [hComma]⟩)

/-- A member starts with its key and a colon, or the reading breaks off. -/
theorem readMember_cases (fuel depth : Nat) (p : Place) (cs : List Char) :
    (∃ tail key next p' rest, cs = '"' :: tail ∧
      readString (p.plus 1) 0 tail = (key, .ok next) ∧
      skipBlanks next.place next.rest = ⟨p', ':' :: rest⟩) ∨
      ∃ fault, (readMember (fuel + 1) depth ⟨p, cs⟩).2 = .error fault := by
  rw [readMember]
  rcases cs with _ | ⟨c, tail⟩
  · exact .inr ⟨_, rfl⟩
  · by_cases hQuote : c = '"'
    · subst hQuote
      rcases hKey : readString (p.plus 1) 0 tail with ⟨⟨chars, refused⟩, fault | next⟩
      · cases refused <;> exact .inr ⟨fault, by simp [hKey]⟩
      · rcases hBlanks : skipBlanks next.place next.rest with ⟨p', _ | ⟨d, rest⟩⟩
        · exact .inr ⟨⟨.endInObject, p'⟩, by simp [hKey, hBlanks]⟩
        · by_cases hColon : d = ':'
          · subst hColon
            exact .inl ⟨tail, _, next, p', rest, rfl, hKey, hBlanks⟩
          · refine .inr ⟨⟨.colonMissing, p'.afterByte d⟩, ?_⟩
            simp only [hKey, hBlanks]
            split
            case h_1 hEq => exact absurd (List.cons.inj hEq).1 hColon
            case h_2 => rfl
    · exact .inr ⟨⟨.keyNotText, p.afterByte c⟩, by simp⟩

/-- Behind the colon the value is read, and after it the other members. -/
theorem readMember_of_key {tail rest : List Char} {key : Characters} {next : Cursor} {p' : Place}
    (hKey : readString (p.plus 1) 0 tail = (key, .ok next))
    (hColon : skipBlanks next.place next.rest = ⟨p', ':' :: rest⟩) (fuel depth : Nat) :
    ∃ k : Key, k.name = String.ofList key.chars ∧
      readMember (fuel + 1) depth ⟨p, '"' :: tail⟩ =
        match readValue fuel depth ⟨p'.plus 1, rest⟩ with
        | (value, .error fault) => ([(k, value)], .error fault)
        | (value, .ok next) => ((k, value) :: (readMembers fuel depth false next).1,
            (readMembers fuel depth false next).2) := by
  refine ⟨⟨String.ofList key.chars, some (keyStop ⟨p', ':' :: rest⟩), key.refused⟩, rfl, ?_⟩
  obtain ⟨chars, refused⟩ := key
  rcases hValue : readValue fuel depth ⟨p'.plus 1, rest⟩ with ⟨value, fault | next⟩
  · simp [readMember, hKey, hColon, hValue]
  · simp [readMember, hKey, hColon, hValue]

/-! ### Everything that is read -/

/-- With the one fuel everything is read as with the other in front of the text behind. -/
structure ReadsOn (behind : List Char) (fuel fuel' : Nat) : Prop where
  value : ∀ depth depth' p q cs, Continues Located.Agrees behind (readValue fuel depth ⟨p, cs⟩)
    (readValue fuel' depth' ⟨q, cs ++ behind⟩)
  items : ∀ depth depth' first p q cs, Continues (List.Forall₂ Located.Agrees) behind
    (readItems fuel depth first ⟨p, cs⟩) (readItems fuel' depth' first ⟨q, cs ++ behind⟩)
  item : ∀ depth depth' p q cs, Continues (List.Forall₂ Located.Agrees) behind
    (readItem fuel depth ⟨p, cs⟩) (readItem fuel' depth' ⟨q, cs ++ behind⟩)
  members : ∀ depth depth' first p q cs, Continues MembersAgree behind
    (readMembers fuel depth first ⟨p, cs⟩) (readMembers fuel' depth' first ⟨q, cs ++ behind⟩)
  member : ∀ depth depth' p q cs, Continues MembersAgree behind
    (readMember fuel depth ⟨p, cs⟩) (readMember fuel' depth' ⟨q, cs ++ behind⟩)

theorem readsOn_zero (behind : List Char) (fuel' : Nat) : ReadsOn behind 0 fuel' where
  value _ _ _ _ _ := .of_error (by rw [readValue, broken])
  items _ _ _ _ _ _ := .of_error (by rw [readItems])
  item _ _ _ _ _ := .of_error (by rw [readItem])
  members _ _ _ _ _ _ := .of_error (by rw [readMembers])
  member _ _ _ _ _ := .of_error (by rw [readMember])

section Step

variable {fuel fuel' : Nat} (h : ReadsOn behind fuel fuel') (depth depth' : Nat) (p q : Place)
  (cs : List Char)
include h

theorem ReadsOn.value_succ (hEnd : EndsNumber behind) :
    Continues Located.Agrees behind (readValue (fuel + 1) depth ⟨p, cs⟩)
      (readValue (fuel' + 1) depth' ⟨q, cs ++ behind⟩) := by
  rw [readValue, readValue]
  cases hBlanks : skipBlanks p cs with
  | mk p' rest =>
    cases rest with
    | nil =>
      dsimp only
      exact .of_error rfl
    | cons c rest =>
      have hRest : (skipBlanks p cs).rest = c :: rest := by rw [hBlanks]
      obtain ⟨q', hSecond⟩ := skipBlanks_append hRest q behind
      rw [hSecond]
      dsimp only
      split_ifs
      case _ => exact readText_continues p' q' rest behind
      case _ =>
        exact closeContainer_continues depth depth' p' q' (h.items _ _ true _ _ rest)
          fun a b hab => Located.agrees_array hab
      case _ =>
        exact closeContainer_continues depth depth' p' q' (h.members _ _ true _ _ rest)
          fun a b hab => Located.agrees_object hab
      case _ => exact numberValue_continues (readNumber_continues hEnd false rest)
      case _ => exact numberValue_continues (readNumber_continues hEnd true (c :: rest))
      case _ => exact readWord_continues _ (fun _ _ => .of_eq rfl) p' q' (c :: rest) behind
      case _ => exact readWord_continues _ (fun _ _ => .of_eq rfl) p' q' (c :: rest) behind
      case _ => exact readWord_continues _ (fun _ _ => .of_eq rfl) p' q' (c :: rest) behind
      case _ => exact .of_error rfl

theorem ReadsOn.item_succ : Continues (List.Forall₂ Located.Agrees) behind
    (readItem (fuel + 1) depth ⟨p, cs⟩) (readItem (fuel' + 1) depth' ⟨q, cs ++ behind⟩) := by
  have hValue := h.value depth depth' p q cs
  rw [readItem, readItem]
  generalize readValue fuel depth ⟨p, cs⟩ = x at hValue ⊢
  generalize readValue fuel' depth' ⟨q, cs ++ behind⟩ = y at hValue ⊢
  rcases x with ⟨x, fault | ⟨p', rest⟩⟩
  · exact .of_error rfl
  · obtain ⟨q', hNext, hAgrees⟩ := hValue _ rfl
    rcases y with ⟨y, next⟩
    cases hNext
    exact (h.items depth depth' false p' q' rest).map fun _ _ => .cons hAgrees

theorem ReadsOn.items_succ (first : Bool) : Continues (List.Forall₂ Located.Agrees) behind
    (readItems (fuel + 1) depth first ⟨p, cs⟩)
    (readItems (fuel' + 1) depth' first ⟨q, cs ++ behind⟩) := by
  rcases readItems_cases fuel depth first p cs with
    ⟨p', rest, hClose⟩ | ⟨cur, hStarts⟩ | ⟨fault, hFault⟩
  · obtain ⟨q', hClose'⟩ := skipBlanks_append (congrArg Cursor.rest hClose) q behind
    rw [readItems_of_close hClose, readItems_of_close hClose']
    exact .ok rest .nil
  · obtain ⟨q', hStarts'⟩ := hStarts.append q behind
    rw [readItems_of_starts hStarts, readItems_of_starts hStarts']
    exact h.item depth depth' _ _ cur.rest
  · rw [hFault]
    exact .of_error rfl

theorem ReadsOn.members_succ (first : Bool) : Continues MembersAgree behind
    (readMembers (fuel + 1) depth first ⟨p, cs⟩)
    (readMembers (fuel' + 1) depth' first ⟨q, cs ++ behind⟩) := by
  rcases readMembers_cases fuel depth first p cs with
    ⟨p', rest, hClose⟩ | ⟨cur, hStarts⟩ | ⟨fault, hFault⟩
  · obtain ⟨q', hClose'⟩ := skipBlanks_append (congrArg Cursor.rest hClose) q behind
    rw [readMembers_of_close hClose, readMembers_of_close hClose']
    exact .ok rest .nil
  · obtain ⟨q', hStarts'⟩ := hStarts.append q behind
    rw [readMembers_of_starts hStarts, readMembers_of_starts hStarts']
    exact h.member depth depth' _ _ cur.rest
  · rw [hFault]
    exact .of_error rfl

theorem ReadsOn.member_succ : Continues MembersAgree behind
    (readMember (fuel + 1) depth ⟨p, cs⟩) (readMember (fuel' + 1) depth' ⟨q, cs ++ behind⟩) := by
  rcases readMember_cases fuel depth p cs with
    ⟨tail, key, next, p', rest, rfl, hKey, hColon⟩ | ⟨fault, hFault⟩
  · obtain ⟨place, hPlace, hChars, -⟩ :=
      readString_continues (p.plus 1) (q.plus 1) 0 tail behind next (by rw [hKey])
    rw [hKey] at hChars
    obtain ⟨q', hColon'⟩ := skipBlanks_append (congrArg Cursor.rest hColon) place behind
    obtain ⟨k, hName, hRead⟩ := readMember_of_key hKey hColon fuel depth
    obtain ⟨k', hName', hRead'⟩ :=
      readMember_of_key (Prod.ext rfl hPlace) hColon' fuel' depth'
    have hNames : k'.name = k.name := by rw [hName, hName', hChars]
    have hValue := h.value depth depth' (p'.plus 1) (q'.plus 1) rest
    rw [List.cons_append, hRead, hRead']
    generalize readValue fuel depth ⟨p'.plus 1, rest⟩ = x at hValue ⊢
    generalize readValue fuel' depth' ⟨q'.plus 1, rest ++ behind⟩ = y at hValue ⊢
    rcases x with ⟨x, fault | ⟨p'', rest⟩⟩
    · exact .of_error rfl
    · obtain ⟨q'', hNext, hAgrees⟩ := hValue _ rfl
      rcases y with ⟨y, next⟩
      cases hNext
      exact (h.members depth depth' false p'' q'' rest).map fun _ _ => .cons ⟨hNames, hAgrees⟩
  · exact .of_error hFault

end Step

/-- A value that is read to its end is read in the same way in front of other text. -/
theorem readValue_append (hEnd : EndsNumber behind) {fuel fuel' : Nat} (hFuel : fuel ≤ fuel')
    (depth depth' : Nat) (p q : Place) (cs : List Char) :
    Continues Located.Agrees behind (readValue fuel depth ⟨p, cs⟩)
      (readValue fuel' depth' ⟨q, cs ++ behind⟩) := by
  have hReads : ∀ fuel fuel', fuel ≤ fuel' → ReadsOn behind fuel fuel' := by
    intro fuel
    induction fuel with
    | zero => exact fun fuel' _ => readsOn_zero behind fuel'
    | succ fuel ih =>
      intro fuel' hFuel
      obtain ⟨fuel', rfl⟩ := Nat.exists_eq_add_of_le' (Nat.le_trans (Nat.le_add_left 1 fuel) hFuel)
      have hStep := ih fuel' (Nat.le_of_succ_le_succ hFuel)
      exact ⟨fun depth depth' p q cs => hStep.value_succ depth depth' p q cs hEnd,
        fun depth depth' first p q cs => hStep.items_succ depth depth' p q cs first,
        hStep.item_succ,
        fun depth depth' first p q cs => hStep.members_succ depth depth' p q cs first,
        hStep.member_succ⟩
  exact (hReads fuel fuel' hFuel).value depth depth' p q cs

end Worklist.Json
