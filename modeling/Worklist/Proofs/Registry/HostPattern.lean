import Mathlib
import Worklist.Proofs.Pattern.Words
import Worklist.Registry.Basic

/-!
# The pattern of a host

The text of the pattern of a host is read part by part, with every character of the host standing
for itself. So it means what it should, and the only reason to refuse it is its size: a host of a
few hundred thousand characters has a pattern that is too large.
-/

namespace Worklist.Pattern

/-! ### What the text means -/

/-- The characters that the name of a space may have: all but slashes and blanks. -/
def spaceSet : CharSet :=
  .compl (.union (.single '/') .blank)

/-- The part for the name of a space. -/
def spaceNode : Node :=
  .capture 1 (some spaceCapture) (.iterate (.one spaceSet) 1 none true)

/-- The part for a number. -/
def numberNode : Node :=
  .capture 2 (some numberCapture) (.iterate (.one .digit) 1 none true)

/-- The part for the scheme of a link. -/
def schemeNode : Node :=
  .chain [.literal "http".toList, optionally (.literal ['s']), .literal "://".toList]

/-- The text between the space and the number of a link. -/
def planPath : List Char :=
  "/plan/detail/".toList

/-- The pattern of the links of a host. -/
def ofHost (host : List Char) : Pattern where
  source := hostText host
  body := .chain [.at .textStart, optionally schemeNode, .literal (host ++ ['/']), spaceNode,
    .literal planPath, numberNode, optionally (.literal ['/']), .at .textEnd]

variable {f g : Nat} {s s' s'' : Scan} {c : Char} {n n' : Nested Node} {cs rest : List Char}
  {names : List String} {parts parts' : List (Nested Node)}

/-! ### Steps of reading -/

theorem run_space (h : s.flags.spaced = false) : Step.space.run s = some ((), s) := by
  simp [Step.space, Step.flags, h]

theorem run_take?_single (h : s.rest.head? ≠ some c) :
    (Step.take? [c]).run s = some (false, s) := by
  have hPrefix : [c].isPrefixOf s.rest = false := by
    cases hRest : s.rest with
    | nil => rfl
    | cons d ds =>
      rw [hRest] at h
      have hne : c ≠ d := fun hEq => h (hEq ▸ rfl)
      simp [List.isPrefixOf, hne]
  simp only [Step.take?, Step.rest, StateT.run_bind, StateT.run_get, bind_assoc, pure_bind, hPrefix]
  rfl

/-- No sign of repetition is next. -/
def EndsPart (rest : List Char) : Prop :=
  ∀ c ∈ rest.head?, c ∉ ['*', '+', '?', '\x7b']

theorem endsPart_cons (h : c ∉ ['*', '+', '?', '\x7b']) : EndsPart (c :: rest) := by
  rintro _ ⟨⟩
  exact h

theorem readRepeats_of_endsPart (hFlags : s.flags.spaced = false) (hEnds : EndsPart s.rest) :
    (readRepeats (f + 1) n).run s = some (n, s) := by
  have hNone : ∀ c ∈ ['*', '+', '?', '\x7b'], (Step.take? [c]).run s = some (false, s) :=
    fun c hc => run_take?_single fun h => hEnds c h hc
  simp only [List.forall_mem_cons] at hNone
  obtain ⟨hStar, hPlus, hMark, hBrace, -⟩ := hNone
  simp [readRepeats, readRepeat?, run_space hFlags, hStar, hPlus, hMark, hBrace]

theorem readRepeats_of_sign (least : Nat) (most : Option Nat)
    (hSign : readRepeat?.run ⟨c :: rest, .initial, g, names⟩ =
      some (some (least, most), ⟨rest, .initial, g, names⟩)) (hEnds : EndsPart rest) :
    (readRepeats (f + 2) n).run ⟨c :: rest, .initial, g, names⟩ =
      some (⟨.repetition n.value least most true, n.depth + 1⟩, ⟨rest, .initial, g, names⟩) := by
  have hMarked : (Step.take? ['?']).run ⟨rest, .initial, g, names⟩ =
      some (false, ⟨rest, .initial, g, names⟩) :=
    run_take?_single fun h => hEnds '?' h (by decide)
  have hRest := readRepeats_of_endsPart (f := f) (s := ⟨rest, .initial, g, names⟩)
    (n := ⟨.repetition n.value least most true, n.depth + 1⟩) rfl hEnds
  rw [readRepeats]
  have hSpace := run_space (s := ⟨c :: rest, .initial, g, names⟩) rfl
  simp only [StateT.run_bind, hSpace, hSign, hMarked, Option.bind_eq_bind, Option.bind_some]
  exact hRest

/-- Reading a sequence at the first state reads the parts, and then goes on at the second. Every
part takes one of the steps that reading may have inside of itself, and twenty more are left. -/
def Leads (s : Scan) (parts : List (Nested Node)) (s' : Scan) : Prop :=
  ∀ f, (readSequence (f + 20 + parts.length)).run s =
    ((readSequence (f + 20)).run s').map fun (more, e) => (parts ++ more, e)

theorem Leads.trans (h : Leads s parts s') (h' : Leads s' parts' s'') :
    Leads s (parts ++ parts') s'' := by
  intro f
  have hSteps : f + 20 + (parts ++ parts').length = f + parts'.length + 20 + parts.length := by
    rw [List.length_append]
    omega
  have hMore : f + parts'.length + 20 = f + 20 + parts'.length := by omega
  rw [hSteps, h, hMore, h', Option.map_map]
  simp only [Function.comp_def, List.append_assoc]

/-- A part with its signs of repetition is read first, unless a sign of the sequence comes first. -/
theorem readSequence_part (hFlags : s.flags.spaced = false) (hHead : s.rest.head? = some c)
    (hBar : c ≠ '|') (hClose : c ≠ ')') (hItem : (readItem f c).run s = some (.part n, s'))
    (hRepeats : (readRepeats f n).run s' = some (n', s'')) :
    (readSequence (f + 1)).run s =
      ((readSequence f).run s'').map fun (more, e) => (n' :: more, e) := by
  rw [readSequence]
  simp only [StateT.run_bind, run_space hFlags, Step.rest, StateT.run_get, bind_assoc,
    Option.bind_eq_bind, pure_bind, Option.bind_some, hHead]
  simp only [StateT.run_bind, hItem, hRepeats, Option.bind_eq_bind, Option.bind_some,
    Option.map_eq_bind]
  rfl

theorem leads_part (hFlags : s.flags.spaced = false) (hHead : s.rest.head? = some c)
    (hBar : c ≠ '|') (hClose : c ≠ ')')
    (hItem : ∀ f, (readItem (f + 20) c).run s = some (.part n, s'))
    (hRepeats : ∀ f, (readRepeats (f + 20) n).run s' = some (n', s'')) : Leads s [n'] s'' :=
  fun f => readSequence_part hFlags hHead hBar hClose (hItem f) (hRepeats f)

theorem readSequence_end (hFlags : s.flags.spaced = false)
    (hHead : s.rest.head? ∈ [none, some ')']) : (readSequence (f + 1)).run s = some ([], s) := by
  rw [readSequence]
  simp only [StateT.run_bind, run_space hFlags, Step.rest, StateT.run_get, bind_assoc,
    Option.bind_eq_bind, pure_bind, Option.bind_some]
  rcases List.mem_cons.mp hHead with hHead | hHead
  · rw [hHead]
    rfl
  · rw [List.mem_singleton.mp hHead]
    rfl

/-- There are no other choices at the end of a part. -/
theorem readChoices_of_sequence (hSequence : (readSequence f).run s = some (parts, s'))
    (hHead : s'.rest.head? ∈ [none, some ')']) : (readChoices (f + 1)).run s =
      some ([⟨.sequence (parts.map (·.value)), depthOf (parts.map (·.depth))⟩], s') := by
  have hBar : (Step.take? ['|']).run s' = some (false, s') := by
    apply run_take?_single
    rcases List.mem_cons.mp hHead with hHead | hHead
    · rw [hHead]
      decide
    · rw [List.mem_singleton.mp hHead]
      decide
  rw [readChoices]
  simp only [StateT.run_bind, hSequence, Option.bind_eq_bind, Option.bind_some, hBar]
  rfl

/-! ### Characters that stand for themselves -/

/-- What a character that stands for itself is read as. -/
def charPart (c : Char) : Nested Node :=
  ⟨.literal [c], 0⟩

theorem metaCharacters_eq : metaCharacters = ['\\', '.', '+', '*', '?', '(', ')', '|', '[', ']',
    '\x7b', '\x7d', '^', '$', '#', '&', '-', '~'] :=
  rfl

theorem readItem_plain (h : c ∉ metaCharacters) :
    (readItem (f + 1) c).run ⟨c :: rest, .initial, g, names⟩ =
      some (.part (charPart c), ⟨rest, .initial, g, names⟩) := by
  simp only [metaCharacters_eq, List.mem_cons, not_or, List.not_mem_nil] at h
  simp [readItem, Step.next, Step.rest, Step.goTo, Step.flags, h, charNode, charPart,
    Flags.initial]

theorem readItem_escaped (h : c ∈ metaCharacters) :
    (readItem (f + 1) '\\').run ⟨'\\' :: c :: rest, .initial, g, names⟩ =
      some (.part (charPart c), ⟨rest, .initial, g, names⟩) := by
  have hAll : metaCharacters.all fun c =>
      isEscapable c && decide (c ∉ ['x', 'u', 'U', 'p', 'P']) := by decide
  have hEscapable : isEscapable c ∧ c ∉ ['x', 'u', 'U', 'p', 'P'] := by
    simpa using List.all_eq_true.mp hAll c h
  simp only [List.mem_cons, not_or] at hEscapable
  simp [readItem, Step.next, Step.rest, Step.goTo, Step.flags, hEscapable, readEscape, escapeNode,
    charNode, charPart, Flags.initial]

theorem escape_cons (c : Char) (cs : List Char) :
    escape (c :: cs) = (if c ∈ metaCharacters then ['\\', c] else [c]) ++ escape cs :=
  List.flatMap_cons

theorem endsPart_escape (cs : List Char) (h : EndsPart rest) : EndsPart (escape cs ++ rest) := by
  cases cs with
  | nil => exact h
  | cons c cs =>
    rw [escape_cons]
    split
    case isTrue =>
      rintro d ⟨⟩
      decide
    case isFalse hPlain =>
      rintro d ⟨⟩ hSign
      have hMeta : ['*', '+', '?', '\x7b'].all (metaCharacters.contains ·) := by decide
      exact hPlain (List.contains_iff_mem.mp (List.all_eq_true.mp hMeta c hSign))

theorem leads_char (h : EndsPart rest) (c : Char) :
    Leads ⟨escape [c] ++ rest, .initial, g, names⟩ [charPart c] ⟨rest, .initial, g, names⟩ := by
  have hRepeats : ∀ f, (readRepeats (f + 20) (charPart c)).run ⟨rest, .initial, g, names⟩ =
      some (charPart c, ⟨rest, .initial, g, names⟩) :=
    fun f => readRepeats_of_endsPart rfl h
  rw [escape_cons]
  split
  case isTrue hMeta =>
    exact leads_part rfl rfl (by decide) (by decide) (fun f => readItem_escaped hMeta) hRepeats
  case isFalse hPlain =>
    have hBar : c ≠ '|' := fun hEq => hPlain (hEq ▸ by decide)
    have hClose : c ≠ ')' := fun hEq => hPlain (hEq ▸ by decide)
    exact leads_part rfl rfl hBar hClose (fun f => readItem_plain hPlain) hRepeats

/-- A text in which nothing has a meaning of its own is read character by character. -/
theorem leads_escape (h : EndsPart rest) (cs : List Char) :
    Leads ⟨escape cs ++ rest, .initial, g, names⟩ (cs.map charPart) ⟨rest, .initial, g, names⟩ := by
  induction cs with
  | nil =>
    intro f
    simp [escape]
  | cons c cs ih =>
    have hFirst : Leads ⟨escape [c] ++ (escape cs ++ rest), .initial, g, names⟩ [charPart c]
        ⟨escape cs ++ rest, .initial, g, names⟩ :=
      leads_char (endsPart_escape cs h) c
    rw [escape_cons] at hFirst ⊢
    simp only [escape, List.flatMap_nil, List.append_nil] at hFirst
    rw [List.append_assoc]
    exact hFirst.trans ih

/-! ### Parts in parentheses -/

theorem readName_run (hStart : isNameStart c = true) (hRest : cs.all isNameChar = true)
    (hClose : (c :: cs).all (· != '>') = true) (hNew : String.ofList (c :: cs) ∉ names) :
    readName.run ⟨c :: cs ++ '>' :: rest, .initial, g, names⟩ =
      some (String.ofList (c :: cs), ⟨rest, .initial, g, String.ofList (c :: cs) :: names⟩) := by
  have hName : (c :: cs ++ '>' :: rest).takeWhile (· != '>') = c :: cs := by
    rw [List.takeWhile_append_of_pos (List.all_eq_true.mp hClose)]
    simp
  have hNeed : (Step.need ['>']).run ⟨'>' :: rest, .initial, g, names⟩ =
      some ((), ⟨rest, .initial, g, names⟩) := rfl
  have hValid : (!isNameStart c || !cs.all isNameChar ||
      names.contains (String.ofList (c :: cs))) = false := by
    rw [hStart, hRest]
    simpa using hNew
  rw [readName]
  simp only [Step.rest, Step.goTo, StateT.run_bind, StateT.run_get, bind_assoc, pure_bind,
    StateT.run_modify, hName, List.drop_left]
  simp only [hNeed, Option.bind_eq_bind, Option.bind_some, hValid]
  rfl

/-- A part that is kept under a name is read with the choices in it. -/
theorem readItem_capture {name : String} {word : List Char} {choices : List (Nested Node)}
    (hName : readName.run ⟨word ++ '>' :: rest, .initial, g, names⟩ =
      some (name, ⟨rest, .initial, g, name :: names⟩))
    (hChoices : (readChoices f).run ⟨rest, .initial, g + 1, name :: names⟩ =
      some (choices, ⟨')' :: cs, .initial, g + 1, name :: names⟩)) :
    (readItem (f + 2) '(').run
        ⟨'(' :: '?' :: 'P' :: '<' :: (word ++ '>' :: rest), .initial, g, names⟩ =
      some (.part ⟨.capture (g + 1) (some name) (.choice (choices.map (·.value))),
          depthOf (choices.map (·.depth)) + 1⟩, ⟨cs, .initial, g + 1, name :: names⟩) := by
  have hAround : looksAround.run ⟨'?' :: 'P' :: '<' :: (word ++ '>' :: rest), .initial, g, names⟩ =
      some (false, ⟨'?' :: 'P' :: '<' :: (word ++ '>' :: rest), .initial, g, names⟩) := rfl
  have hTake : (Step.take? ['?', 'P', '<']).run
      ⟨'?' :: 'P' :: '<' :: (word ++ '>' :: rest), .initial, g, names⟩ =
      some (true, ⟨word ++ '>' :: rest, .initial, g, names⟩) := rfl
  have hNeed : (Step.need [')']).run ⟨')' :: cs, .initial, g + 1, name :: names⟩ =
      some ((), ⟨cs, .initial, g + 1, name :: names⟩) := rfl
  have hSpaced : Flags.initial.spaced = false := rfl
  rw [readItem, readGroup]
  simp [Step.next, Step.rest, Step.goTo, Step.flags, run_space, hAround, hTake, hName, hChoices,
    hNeed, hSpaced]

/-- One part with its signs of repetition is all that stands in parentheses. -/
theorem readChoices_part (hFlags : s.flags.spaced = false) (hHead : s.rest.head? = some c)
    (hBar : c ≠ '|') (hClose : c ≠ ')') (hItem : (readItem (f + 1) c).run s = some (.part n, s'))
    (hRepeats : (readRepeats (f + 1) n).run s' = some (n', s''))
    (hFlags' : s''.flags.spaced = false) (hEnd : s''.rest.head? = some ')') :
    (readChoices (f + 3)).run s = some ([⟨.sequence [n'.value], n'.depth⟩], s'') := by
  have hEnd' : s''.rest.head? ∈ [none, some ')'] := by
    rw [hEnd]
    decide
  have hSequence : (readSequence (f + 2)).run s = some ([n'], s'') := by
    rw [readSequence_part hFlags hHead hBar hClose hItem hRepeats, readSequence_end hFlags' hEnd']
    rfl
  rw [readChoices_of_sequence hSequence hEnd']
  simp [depthOf]

/-- A part that is kept under a name and in which one thing is repeated. -/
theorem leads_capture {name : String} {word : List Char} {m : Node} {d : Nat}
    (hEnds : EndsPart rest) (hBar : c ≠ '|') (hClose : c ≠ ')') (hTakes : m.isVacuous = false)
    (hName : readName.run ⟨word ++ '>' :: c :: cs, .initial, g, names⟩ =
      some (name, ⟨c :: cs, .initial, g, name :: names⟩))
    (hItem : ∀ f, (readItem (f + 16) c).run ⟨c :: cs, .initial, g + 1, name :: names⟩ =
      some (.part ⟨m, d⟩, ⟨'+' :: ')' :: rest, .initial, g + 1, name :: names⟩)) :
    Leads ⟨'(' :: '?' :: 'P' :: '<' :: (word ++ '>' :: c :: cs), .initial, g, names⟩
      [⟨.capture (g + 1) (some name) (.iterate m 1 none true), d + 2⟩]
      ⟨rest, .initial, g + 1, name :: names⟩ := by
  have hRepeated : m.repetition 1 none true = .iterate m 1 none true := by
    simp [Node.repetition, hTakes]
  have hRepeats : ∀ f, (readRepeats (f + 16) ⟨m, d⟩).run
      ⟨'+' :: ')' :: rest, .initial, g + 1, name :: names⟩ =
        some (⟨.iterate m 1 none true, d + 1⟩, ⟨')' :: rest, .initial, g + 1, name :: names⟩) := by
    intro f
    rw [← hRepeated]
    exact readRepeats_of_sign 1 none rfl (endsPart_cons (by decide))
  have hPart : ∀ f, (readItem (f + 20) '(').run
      ⟨'(' :: '?' :: 'P' :: '<' :: (word ++ '>' :: c :: cs), .initial, g, names⟩ =
        some (.part ⟨.capture (g + 1) (some name) (.iterate m 1 none true), d + 2⟩,
          ⟨rest, .initial, g + 1, name :: names⟩) := by
    intro f
    have hChoices := readChoices_part rfl rfl hBar hClose (hItem f) (hRepeats f) rfl rfl
    rw [readItem_capture hName hChoices]
    simp [depthOf, Node.choice, Node.sequence, Node.joinTexts, Node.links, Node.chain,
      Node.branches, Node.plainChoice, Node.asSet?, Node.firstOf]
  exact leads_part rfl rfl (by decide) (by decide) hPart fun _ => readRepeats_of_endsPart rfl hEnds

/-! ### The parts of a host's pattern -/

theorem leads_start (hEnds : EndsPart rest) :
    Leads ⟨'^' :: rest, .initial, g, names⟩ [⟨.at .textStart, 0⟩] ⟨rest, .initial, g, names⟩ :=
  leads_part rfl rfl (by decide) (by decide) (fun _ => rfl)
    fun _ => readRepeats_of_endsPart rfl hEnds

theorem leads_end (g : Nat) (names : List String) :
    Leads ⟨['$'], .initial, g, names⟩ [⟨.at .textEnd, 0⟩] ⟨[], .initial, g, names⟩ :=
  leads_part rfl rfl (by decide) (by decide) (fun _ => rfl)
    fun _ => readRepeats_of_endsPart rfl nofun

theorem leads_scheme (hEnds : EndsPart rest) :
    Leads ⟨"(?:https?://)?".toList ++ rest, .initial, g, names⟩ [⟨optionally schemeNode, 4⟩]
      ⟨rest, .initial, g, names⟩ := by
  have hItem : ∀ f, (readItem (f + 20) '(').run
      ⟨"(?:https?://)?".toList ++ rest, .initial, g, names⟩ =
        some (.part ⟨schemeNode, 3⟩, ⟨'?' :: rest, .initial, g, names⟩) := by
    intro f
    cbv
  exact leads_part rfl rfl (by decide) (by decide) hItem
    fun _ => readRepeats_of_sign 0 (some 1) rfl hEnds

theorem leads_slash (hEnds : EndsPart rest) :
    Leads ⟨'/' :: '?' :: rest, .initial, g, names⟩ [⟨optionally (.literal ['/']), 1⟩]
      ⟨rest, .initial, g, names⟩ :=
  leads_part rfl rfl (by decide) (by decide) (fun _ => readItem_plain (by decide))
    fun _ => readRepeats_of_sign 0 (some 1) rfl hEnds

theorem readItem_set {set : CharSet} {d : Nat}
    (h : (readSet f).run ⟨cs, .initial, g, names⟩ = some (⟨set, d⟩, s')) :
    (readItem (f + 1) '[').run ⟨'[' :: cs, .initial, g, names⟩ =
      some (.part ⟨.ofSet set, d⟩, s') := by
  simp [readItem, Step.next, Step.rest, Step.goTo, Step.flags, h]

theorem readSet_space : (readSet (f + 10)).run
    ⟨'^' :: '/' :: '\\' :: 's' :: ']' :: rest, .initial, g, names⟩ =
      some (⟨spaceSet, 2⟩, ⟨rest, .initial, g, names⟩) :=
  rfl

theorem leads_space (hEnds : EndsPart rest) :
    Leads ⟨'(' :: '?' :: 'P' :: '<' :: (spaceCapture.toList ++
        '>' :: '[' :: '^' :: '/' :: '\\' :: 's' :: ']' :: '+' :: ')' :: rest), .initial, 0, []⟩
      [⟨spaceNode, 4⟩] ⟨rest, .initial, 1, [spaceCapture]⟩ := by
  have hName : ∀ rest, readName.run ⟨spaceCapture.toList ++ '>' :: rest, .initial, 0, []⟩ =
      some (spaceCapture, ⟨rest, .initial, 0, [spaceCapture]⟩) := fun _ =>
    readName_run (by decide +kernel) (by decide +kernel) (by decide) List.not_mem_nil
  have hSet : Node.ofSet spaceSet = .one spaceSet := by decide +kernel
  refine leads_capture hEnds (by decide) (by decide) rfl (hName _) fun f => ?_
  rw [readItem_set (readSet_space (f := f + 5)), hSet]

theorem readItem_digit : (readItem (f + 1) '\\').run ⟨'\\' :: 'd' :: rest, .initial, g, names⟩ =
    some (.part ⟨.ofSet .digit, 0⟩, ⟨rest, .initial, g, names⟩) :=
  rfl

theorem leads_number (hEnds : EndsPart rest) :
    Leads ⟨'(' :: '?' :: 'P' :: '<' :: (numberCapture.toList ++
        '>' :: '\\' :: 'd' :: '+' :: ')' :: rest), .initial, 1, [spaceCapture]⟩
      [⟨numberNode, 2⟩] ⟨rest, .initial, 2, [numberCapture, spaceCapture]⟩ := by
  have hName : ∀ rest,
      readName.run ⟨numberCapture.toList ++ '>' :: rest, .initial, 1, [spaceCapture]⟩ =
        some (numberCapture, ⟨rest, .initial, 1, [numberCapture, spaceCapture]⟩) := fun _ =>
    readName_run (by decide +kernel) (by decide +kernel) (by decide) (by decide)
  have hSet : Node.ofSet .digit = .one .digit := by decide +kernel
  refine leads_capture hEnds (by decide) (by decide) rfl (hName _) fun f => ?_
  rw [readItem_digit (f := f + 15), hSet]

/-! ### The whole pattern -/

/-- What the text of the pattern of a host is read as. -/
def hostParts (host : List Char) : List (Nested Node) :=
  [⟨.at .textStart, 0⟩] ++ ([⟨optionally schemeNode, 4⟩] ++ ((host ++ ['/']).map charPart ++
    ([⟨spaceNode, 4⟩] ++ (planPath.map charPart ++ ([⟨numberNode, 2⟩] ++
      ([⟨optionally (.literal ['/']), 1⟩] ++ [⟨.at .textEnd, 0⟩]))))))

theorem escape_append (cs rest : List Char) : escape (cs ++ rest) = escape cs ++ escape rest :=
  List.flatMap_append

theorem toList_hostText (host : List Char) : (hostText host).toList =
    '^' :: ("(?:https?://)?".toList ++ (escape (host ++ ['/']) ++
      '(' :: '?' :: 'P' :: '<' :: (spaceCapture.toList ++
        '>' :: '[' :: '^' :: '/' :: '\\' :: 's' :: ']' :: '+' :: ')' :: (escape planPath ++
          '(' :: '?' :: 'P' :: '<' :: (numberCapture.toList ++
            '>' :: '\\' :: 'd' :: '+' :: ')' :: '/' :: '?' :: ['$']))))) := by
  have hSlash : escape ['/'] = ['/'] := rfl
  have hPath : escape planPath = planPath := by decide +kernel
  have hScheme : "^(?:https?://)?".toList = '^' :: "(?:https?://)?".toList := by decide +kernel
  have hSpace : "/(?P<".toList = ['/', '(', '?', 'P', '<'] := by decide +kernel
  have hNumber : ">[^/\\s]+)/plan/detail/(?P<".toList =
      ['>', '[', '^', '/', '\\', 's', ']', '+', ')'] ++ planPath ++ ['(', '?', 'P', '<'] := by
    decide +kernel
  have hEnd : ">\\d+)/?$".toList = ['>', '\\', 'd', '+', ')', '/', '?', '$'] := by decide +kernel
  unfold hostText
  simp only [String.toList_append, String.toList_ofList, escape_append, hSlash, hPath, hScheme,
    hSpace, hNumber, hEnd, List.append_assoc, List.cons_append, List.nil_append]

theorem leads_hostText (host : List Char) :
    Leads ⟨(hostText host).toList, .initial, 0, []⟩ (hostParts host)
      ⟨[], .initial, 2, [numberCapture, spaceCapture]⟩ := by
  rw [toList_hostText]
  have hOpen : ∀ rest, EndsPart ('(' :: rest) := fun _ => endsPart_cons (by decide)
  exact (leads_start (hOpen _)).trans ((leads_scheme (endsPart_escape _ (hOpen _))).trans
    ((leads_escape (hOpen _) _).trans ((leads_space (endsPart_escape planPath (hOpen _))).trans
      ((leads_escape (hOpen _) planPath).trans ((leads_number (endsPart_cons (by decide))).trans
        ((leads_slash (endsPart_cons (by decide))).trans (leads_end _ _)))))))

/-- Characters in a row are one text, if something else follows. -/
theorem joinTexts_chars {cs : List Char} (hChars : cs ≠ []) {rest : List Node}
    (hRest : ∀ text more, Node.joinTexts rest ≠ .literal text :: more) :
    Node.joinTexts (cs.map (fun c => .literal [c]) ++ rest) =
      .literal cs :: Node.joinTexts rest := by
  induction cs with
  | nil => exact absurd rfl hChars
  | cons c cs ih =>
    rw [List.map_cons, List.cons_append, Node.joinTexts]
    by_cases hMore : cs = []
    · rw [hMore]
      split
      case h_1 text more hText => exact absurd hText (hRest text more)
      case h_2 => rfl
    · rw [ih hMore]
      rfl

theorem body_hostParts (host : List Char) :
    Node.choice [Node.sequence ((hostParts host).map (·.value))] = (ofHost host).body := by
  have hValues : (hostParts host).map (·.value) = .at .textStart :: optionally schemeNode ::
      ((host ++ ['/']).map (fun c => Node.literal [c]) ++ spaceNode ::
        (planPath.map (fun c => Node.literal [c]) ++
          [numberNode, optionally (.literal ['/']), .at .textEnd])) := by
    simp [hostParts, charPart, Function.comp_def]
  have hLinks : ((hostParts host).map (·.value)).flatMap Node.links =
      (hostParts host).map (·.value) := by
    have hChars : ∀ cs : List Char, (cs.map fun c => Node.literal [c]).flatMap Node.links =
        cs.map fun c => Node.literal [c] := by
      intro cs
      rw [List.flatMap_map, List.map_eq_flatMap]
      rfl
    rw [hValues, List.flatMap_cons, List.flatMap_cons, List.flatMap_append, hChars,
      List.flatMap_cons, List.flatMap_append, hChars]
    rfl
  have hPath : Node.joinTexts (planPath.map (fun c => Node.literal [c]) ++
      [numberNode, optionally (.literal ['/']), .at .textEnd]) =
        [.literal planPath, numberNode, optionally (.literal ['/']), .at .textEnd] :=
    joinTexts_chars (by decide) nofun
  have hJoined : Node.joinTexts ((hostParts host).map (·.value)) =
      [.at .textStart, optionally schemeNode, .literal (host ++ ['/']), spaceNode,
        .literal planPath, numberNode, optionally (.literal ['/']), .at .textEnd] := by
    have hSpace : ∀ rest, Node.joinTexts (spaceNode :: rest) = spaceNode :: Node.joinTexts rest :=
      fun _ => rfl
    have hStart : ∀ rest, Node.joinTexts (.at .textStart :: optionally schemeNode :: rest) =
        .at .textStart :: optionally schemeNode :: Node.joinTexts rest := fun _ => rfl
    rw [hValues, hStart, joinTexts_chars (by simp) (by rintro _ _ ⟨⟩), hSpace, hPath]
  rw [Node.sequence, hLinks, hJoined]
  rfl

theorem foldl_max_le {m : Nat} {ds : List Nat} (h : ∀ d ∈ ds, d ≤ m) {start : Nat}
    (hStart : start ≤ m) : ds.foldl max start ≤ m := by
  induction ds generalizing start with
  | nil => exact hStart
  | cons d ds ih =>
    exact ih (fun d hd => h d (List.mem_cons_of_mem _ hd))
      (Nat.max_le.mpr ⟨hStart, h d List.mem_cons_self⟩)

theorem depthOf_hostParts_le (host : List Char) : depthOf ((hostParts host).map (·.depth)) ≤ 5 := by
  have hDepths : ∀ d ∈ (hostParts host).map (·.depth), d ≤ 4 := by
    simp only [hostParts, List.map_append, List.map_map, List.forall_mem_append]
    simp [charPart]
  have hDeepest := foldl_max_le hDepths (Nat.zero_le 4)
  unfold depthOf
  dsimp only
  split
  · omega
  · omega

theorem length_le_escape (cs : List Char) : cs.length ≤ (escape cs).length := by
  induction cs with
  | nil => exact Nat.le_refl 0
  | cons c cs ih =>
    rw [escape_cons, List.length_append, List.length_cons]
    split
    · simp only [List.length_cons, List.length_nil]
      omega
    · simp only [List.length_cons, List.length_nil]
      omega

theorem readChoices_hostText (host : List Char) :
    (readChoices (4 * (hostText host).toList.length + 4)).run
        ⟨(hostText host).toList, .initial, 0, []⟩ =
      some ([⟨.sequence ((hostParts host).map (·.value)),
        depthOf ((hostParts host).map (·.depth))⟩],
          ⟨[], .initial, 2, [numberCapture, spaceCapture]⟩) := by
  have hLength : (hostParts host).length + 10 ≤ (hostText host).toList.length := by
    have hHost := length_le_escape (host ++ ['/'])
    have hPath := length_le_escape planPath
    rw [toList_hostText, hostParts]
    simp only [List.length_append, List.length_cons, List.length_map, List.length_nil] at hHost ⊢
    omega
  obtain ⟨f, hFuel⟩ : ∃ f, 4 * (hostText host).toList.length + 4 =
      f + 20 + (hostParts host).length + 1 :=
    ⟨4 * (hostText host).toList.length - 17 - (hostParts host).length, by omega⟩
  rw [hFuel]
  apply readChoices_of_sequence
  · rw [leads_hostText, readSequence_end rfl (by decide)]
    simp
  · decide

/-! ### Its size -/

/-- The most bytes of a host whose pattern is not too large. -/
def maxHostSize : Nat := 327420

theorem size_literal (d : Direction) (cs : List Char) :
    (Node.literal cs).size d = stateSize * (String.ofList cs).utf8ByteSize := by
  have hFold : ∀ start, cs.foldl (fun size c => size + stateSize * c.utf8Size) start =
      start + stateSize * (String.ofList cs).utf8ByteSize := by
    induction cs with
    | nil => exact fun _ => rfl
    | cons c cs ih =>
      intro start
      rw [List.foldl_cons, ih, String.ofList_cons, String.utf8ByteSize_append,
        String.utf8ByteSize_singleton, Nat.mul_add, Nat.add_assoc]
  exact (hFold 0).trans (Nat.zero_add _)

/-- The size of the pattern grows with the bytes of the host. -/
theorem size_ofHost (d : Direction) (host : List Char) : (ofHost host).body.size d =
    (ofHost []).body.size d + stateSize * (String.ofList host).utf8ByteSize := by
  have hSeq : ∀ a b : Node, (Node.seq a b).size d = a.size d + b.size d := fun _ _ => rfl
  have hHost : (Node.literal (host ++ ['/'])).size d =
      (Node.literal ([] ++ ['/'])).size d + stateSize * (String.ofList host).utf8ByteSize := by
    rw [size_literal, size_literal, String.ofList_append, String.utf8ByteSize_append, Nat.mul_add,
      Nat.add_comm]
    rfl
  simp only [ofHost, Node.chain, List.foldl_cons, List.foldl_nil, hSeq, hHost]
  omega

theorem fits_ofHost (host : List Char) :
    (ofHost host).body.fits = true ↔ (String.ofList host).utf8ByteSize ≤ maxHostSize := by
  have hForward : (ofHost []).body.size .forward = 3640 := by decide +kernel
  have hBackward : (ofHost []).body.size .backward = 8172 := by decide +kernel
  rw [Node.fits, List.all_eq_true]
  simp only [List.forall_mem_cons, List.not_mem_nil, false_implies, implies_true, and_true,
    decide_eq_true_eq, size_ofHost .forward host, size_ofHost .backward host, hForward, hBackward,
    frameSize, stateSize, maxSize, maxHostSize]
  omega

/-- The pattern of a host is refused only if the host is too long. -/
theorem parse?_hostText (host : List Char) : parse? (hostText host) =
    if (String.ofList host).utf8ByteSize ≤ maxHostSize then some (ofHost host) else none := by
  have hDepth : depthOf [depthOf ((hostParts host).map (·.depth))] ≤ maxDepth := by
    have hOne : ∀ d, depthOf [d] = d := fun d => Nat.zero_max d
    rw [hOne]
    exact Nat.le_trans (depthOf_hostParts_le host) (by decide)
  rw [parse?]
  simp only [readChoices_hostText, Option.bind_eq_bind, Option.bind_some, List.map_cons,
    List.map_nil, body_hostParts]
  by_cases hFits : (ofHost host).body.fits = true
  · rw [if_pos ((fits_ofHost host).mp hFits), if_pos ⟨rfl, hDepth, hFits⟩]
    rfl
  · rw [if_neg (mt (fits_ofHost host).mpr hFits), if_neg fun h => hFits h.2.2]
    rfl

end Worklist.Pattern
