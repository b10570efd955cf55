import Worklist.Proofs.Pattern.Matching
import Worklist.Proofs.Registry.HostPattern

/-!
# Links to work items

The links of a host are the texts that its pattern matches, and what the pattern keeps under the
name of the number are the digits of the link. A text may be a link of several hosts, as a host may
have a scheme or a path of its own; its digits are the same for each of them, because they stand
after the last slash that is not the last character.
-/

namespace Worklist

/-- The schemes that a link may start with. -/
def schemes : List (List Char) :=
  [[], "http://".toList, "https://".toList]

/-- A link of a host to a work item. -/
structure Link where
  /-- The scheme, or nothing. -/
  scheme : List Char
  host : List Char
  space : List Char
  /-- The number of the work item. -/
  digits : List Char
  /-- The slash at the end, or nothing. -/
  slash : List Char
  /-- The scheme is one that links may have. -/
  scheme_mem : scheme ∈ schemes
  /-- There is a space. -/
  space_ne : space ≠ []
  /-- It has neither slashes nor blanks. -/
  space_plain : ∀ c ∈ space, c ≠ '/' ∧ Text.isBlank c = false
  /-- There is a number. -/
  digits_ne : digits ≠ []
  /-- It consists of decimal digits of any script. -/
  digits_decimal : ∀ c ∈ digits, Pattern.CharSet.digit.contains c = true
  /-- No more than one slash stands at the end. -/
  slash_mem : slash ∈ [[], ['/']]

namespace Link

/-- The link as it is written. -/
def text (l : Link) : List Char :=
  l.scheme ++ (l.host ++ ['/']) ++ l.space ++ Pattern.planPath ++ l.digits ++ l.slash

/-- What the pattern of the host keeps of the link. -/
def captures (l : Link) : Pattern.Captures :=
  [(spaceCapture, l.space), (numberCapture, l.digits)]

/-! ### The digits of a text -/

/-- What stands after the last slash of a text, if a slash at its end does not count. -/
def lastPart (cs : List Char) : List Char :=
  let backwards := match cs.reverse with
    | '/' :: rest => rest
    | rest => rest
  (backwards.takeWhile (· != '/')).reverse

theorem slash_not_decimal : Pattern.CharSet.digit.contains '/' = false := by
  decide +kernel

theorem lastPart_text (l : Link) : lastPart l.text = l.digits := by
  have hPlain : ∀ c ∈ l.digits, c ≠ '/' := by
    rintro c hc rfl
    exact absurd (l.digits_decimal '/' hc) (by simp [slash_not_decimal])
  obtain ⟨front, hFront⟩ : ∃ front, l.text = front ++ ['/'] ++ l.digits ++ l.slash := by
    have hPath : Pattern.planPath = "/plan/detail".toList ++ ['/'] := rfl
    refine ⟨l.scheme ++ (l.host ++ ['/']) ++ l.space ++ "/plan/detail".toList, ?_⟩
    rw [text, hPath, ← List.append_assoc]
  have hRun : ((l.digits.reverse ++ '/' :: front.reverse).takeWhile (· != '/')).reverse =
      l.digits := by
    rw [List.takeWhile_append_of_pos (by simpa using hPlain)]
    simp
  rw [hFront, lastPart]
  rcases List.mem_cons.mp l.slash_mem with hSlash | hSlash
  · obtain ⟨d, ds, hd⟩ := List.exists_cons_of_ne_nil (List.reverse_ne_nil_iff.mpr l.digits_ne)
    have hNoSlash : d ≠ '/' := hPlain d (by rw [← List.mem_reverse, hd]; exact List.mem_cons_self)
    rw [hd] at hRun
    simpa [hSlash, hd, hNoSlash] using hRun
  · rw [List.mem_singleton.mp hSlash]
    simpa using hRun

/-- A text has one number, whatever host it is a link of. -/
theorem digits_eq_of_text_eq {l l' : Link} (h : l.text = l'.text) : l.digits = l'.digits := by
  rw [← l.lastPart_text, h, l'.lastPart_text]

end Link

/-! ### The pattern of a host -/

namespace Pattern

open Link

variable {text : List Char}

theorem meets_textStart_iff {i : Nat} (hi : i ≤ text.length) :
    (Spot.inText text i).meets .textStart = true ↔ i = 0 := by
  simp only [Spot.meets, Spot.inText, Option.isNone_iff_eq_none, List.getLast?_eq_none_iff,
    List.take_eq_nil_iff]
  constructor
  · rintro (h | rfl)
    · exact h
    · simpa using hi
  · exact .inl

theorem meets_textEnd_iff {i : Nat} :
    (Spot.inText text i).meets .textEnd = true ↔ text.drop i = [] :=
  List.isEmpty_iff

theorem readsAt_textStart {i : Nat} (hi : i ≤ text.length) :
    (Node.at .textStart).ReadsAt text i fun w kept kept' => i = 0 ∧ w = [] ∧ kept' = kept := by
  rintro kept ⟨j, kept'⟩
  constructor
  · rintro ⟨hStart, hEnd⟩
    cases hEnd
    exact ⟨[], stands_nil.mpr rfl, (meets_textStart_iff hi).mp hStart, rfl, rfl⟩
  · rintro ⟨w, hw, hStart, rfl, rfl⟩
    cases stands_nil.mp hw
    exact ⟨(meets_textStart_iff hi).mpr hStart, rfl⟩

theorem reads_scheme :
    (optionally schemeNode).Reads text fun w kept kept' => w ∈ schemes ∧ kept' = kept := by
  have hNode : (optionally schemeNode).Reads text _ :=
    (((reads_literal _).seq (reads_literal ['s']).optionally).seq (reads_literal _)).optionally
  refine hNode.congr fun w kept kept' => ⟨?_, ?_⟩
  · rintro (⟨rfl, rfl⟩ |
      ⟨_, _, _, rfl, ⟨_, _, _, rfl, ⟨rfl, rfl⟩, ⟨rfl, rfl⟩ | ⟨rfl, rfl⟩⟩, rfl, rfl⟩)
    · exact ⟨by decide, rfl⟩
    · exact ⟨by decide, rfl⟩
    · exact ⟨by decide, rfl⟩
  · rintro ⟨hScheme, hKept⟩
    rcases List.mem_cons.mp hScheme with rfl | hScheme
    · exact .inl ⟨rfl, hKept⟩
    rcases List.mem_cons.mp hScheme with rfl | hScheme
    · exact .inr ⟨_, _, kept, rfl, ⟨_, _, kept, rfl, ⟨rfl, rfl⟩, .inl ⟨rfl, rfl⟩⟩, rfl, hKept⟩
    · cases List.mem_singleton.mp hScheme
      exact .inr ⟨_, _, kept, rfl, ⟨_, _, kept, rfl, ⟨rfl, rfl⟩, .inr ⟨rfl, rfl⟩⟩, rfl, hKept⟩

theorem reads_space :
    spaceNode.Reads text fun w kept kept' => (w ≠ [] ∧ ∀ c ∈ w, c ≠ '/' ∧ Text.isBlank c = false) ∧
      kept' = kept.keep spaceCapture w := by
  have hPlain : ∀ c, spaceSet.contains c = true ↔ c ≠ '/' ∧ Text.isBlank c = false := by
    intro c
    have hSlash : (CharSet.single '/').contains c = true ↔ c = '/' := by
      simp only [CharSet.single, CharSet.contains, Bool.and_eq_true, decide_eq_true_eq]
      exact ⟨fun h => Char.le_antisymm h.2 h.1, fun h => h ▸ ⟨Char.le_refl _, Char.le_refl _⟩⟩
    simp [spaceSet, CharSet.contains, ← hSlash]
  have hNode : spaceNode.Reads text _ := (reads_run _ true).capture 1 spaceCapture
  refine hNode.congr fun w kept kept' => ?_
  simp only [Reading.named, Reading.run, hPlain, and_assoc, exists_and_left, exists_eq_left]

theorem reads_number :
    numberNode.Reads text fun w kept kept' => (w ≠ [] ∧ ∀ c ∈ w, CharSet.digit.contains c = true) ∧
      kept' = kept.keep numberCapture w := by
  have hNode : numberNode.Reads text _ := (reads_run .digit true).capture 2 numberCapture
  refine hNode.congr fun w kept kept' => ?_
  simp only [Reading.named, Reading.run, and_assoc, exists_and_left, exists_eq_left]

theorem reads_slash :
    (optionally (.literal ['/'])).Reads text fun w kept kept' =>
      w ∈ [[], ['/']] ∧ kept' = kept := by
  refine (reads_literal ['/']).optionally.congr fun w kept kept' => ?_
  simp [Reading.either, Reading.word, or_and_right]

/-- The ways of the pattern of a host are the links of the host. -/
theorem way_ofHost_iff {host : List Char} {i j : Nat} {kept : Captures} (hi : i ≤ text.length) :
    (Pattern.ofHost host).body.Way text (i, []) (j, kept) ↔
      i = 0 ∧ j = text.length ∧
        ∃ l : Link, l.host = host ∧ l.text = text ∧ kept = l.captures := by
  have hParts := ((((((readsAt_textStart hi).seq reads_scheme).seq
    (reads_literal (host ++ ['/']))).seq reads_space).seq (reads_literal planPath)).seq
    reads_number).seq reads_slash
  constructor
  · rintro ⟨⟨m, mid⟩, hWay, hEnd, hLast⟩
    cases hLast
    obtain ⟨w, hStands, hReads⟩ := (hParts [] (j, kept)).mp hWay
    obtain ⟨_, slash, _, rfl, ⟨_, digits, _, rfl, ⟨_, _, _, rfl, ⟨_, space, _, rfl,
      ⟨_, _, _, rfl, ⟨start, scheme, _, rfl, ⟨rfl, rfl, rfl⟩, hScheme, rfl⟩, rfl, rfl⟩,
      hSpace, rfl⟩, rfl, rfl⟩, hDigits, rfl⟩, hSlash, rfl⟩ := hReads
    obtain ⟨hText, hLength⟩ := stands_to_end hStands hi (meets_textEnd_iff.mp hEnd)
    exact ⟨rfl, hLength, ⟨scheme, host, space, digits, slash, hScheme, hSpace.1,
      hSpace.2, hDigits.1, hDigits.2, hSlash⟩, rfl, hText.symm, rfl⟩
  · rintro ⟨rfl, rfl, l, rfl, rfl, rfl⟩
    refine ⟨(l.text.length, l.captures), (hParts [] _).mpr ⟨l.text, stands_drop hi, ?_⟩,
      meets_textEnd_iff.mpr List.drop_length, rfl⟩
    exact ⟨_, l.slash, _, rfl, ⟨_, l.digits, _, rfl, ⟨_, _, _, rfl, ⟨_, l.space, _, rfl,
      ⟨_, _, _, rfl, ⟨[], l.scheme, _, rfl, ⟨rfl, rfl, rfl⟩, l.scheme_mem, rfl⟩, rfl, rfl⟩,
      ⟨l.space_ne, l.space_plain⟩, rfl⟩, rfl, rfl⟩, ⟨l.digits_ne, l.digits_decimal⟩, rfl⟩,
      l.slash_mem, rfl⟩

theorem tame_ofHost (host : List Char) : (Pattern.ofHost host).body.Tame := by
  have hRun : ∀ s : CharSet, s ≠ .none → (Node.one s).advances = true := by
    intro s hs
    simp [Node.advances, Node.shortest, hs]
  refine ⟨⟨⟨⟨⟨⟨⟨trivial, ⟨⟨trivial, trivial, ?_⟩, trivial⟩, ?_⟩, trivial⟩, ?_⟩, trivial⟩, ?_⟩,
    trivial, ?_⟩, trivial⟩
  · rintro ⟨⟩
  · rintro ⟨⟩
  · exact ⟨trivial, fun _ => hRun _ (by rintro ⟨⟩)⟩
  · exact ⟨trivial, fun _ => hRun _ (by rintro ⟨⟩)⟩
  · rintro ⟨⟩

theorem link_of_search {host : List Char} {kept : Captures}
    (h : (Pattern.ofHost host).search text = some kept) :
    ∃ l : Link, l.host = host ∧ l.text = text ∧ kept = l.captures := by
  obtain ⟨i, hi, j, hWay⟩ := way_of_search h
  exact ((way_ofHost_iff hi).mp hWay).2.2

theorem search_isSome_of_link (l : Link) : ((Pattern.ofHost l.host).search l.text).isSome := by
  rw [search_isSome_iff (tame_ofHost l.host)]
  exact ⟨0, Nat.zero_le _, l.text.length, [], l.captures,
    (way_ofHost_iff (Nat.zero_le _)).mpr ⟨rfl, rfl, l, rfl, rfl, rfl⟩⟩

end Pattern

end Worklist
