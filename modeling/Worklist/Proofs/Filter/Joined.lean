import Worklist.Proofs.Filter.Composition
import Worklist.Proofs.Filter.Grammar
import Worklist.Proofs.Json.Splice
import Worklist.Proofs.Text.Blank

/-!
# Filters joined as texts

The text of a filter may be put, as it stands, into one group with another filter. What comes of it
need not be a filter, since blanks stand in it that a blank text is allowed at its ends only, and
since it is one step deeper; but if it is one, then it says what both filters say.
-/

namespace Worklist.Filter

variable {t : FieldTable} {members : List (String × Json)} {second : List Char} {s : String}
  {f f' : Option Expression} {e e' g : Expression}

/-- The text of a filter in one group with another filter, which stands alone if the text is
blank. -/
def joinedText (filter : String) (second : List Char) : String :=
  String.ofList (if Text.trim filter.toList = [] then second
    else Json.pairText Connective.all.key filter.toList second)

/-- What a filter says together with another one. -/
def joined : Option Expression → Expression → Expression
  | none, e' => e'
  | some e, e' => .group .all [e, e']

theorem joinedText_ends (hLayout : Json.Layout (.object members) second) (s : String) :
    ∃ cs, (joinedText s second).toList = '\x7b' :: (cs ++ ['\x7d']) := by
  rw [joinedText, String.toList_ofList]
  split
  · cases hLayout with
    | object => exact ⟨_, rfl⟩
  · refine ⟨Json.stringText Connective.all.key ++ ':' :: ' ' :: '[' ::
      (s.toList ++ ',' :: ' ' :: (second ++ [']'])), ?_⟩
    simp [Json.pairText]

theorem trim_joinedText (hLayout : Json.Layout (.object members) second) (s : String) :
    Text.trim (joinedText s second).toList = (joinedText s second).toList := by
  obtain ⟨cs, hText⟩ := joinedText_ends hLayout s
  rw [hText, Text.trim_of_ends (by decide +kernel) (by decide +kernel)]

/-- The text is not blank. -/
theorem exists_of_parse_joinedText (hLayout : Json.Layout (.object members) second)
    (h : parse t (joinedText s second) = .ok f') : ∃ g, f' = some g := by
  cases f' with
  | some g => exact ⟨g, rfl⟩
  | none =>
    have hNil := Text.trim_eq_nil_iff.mpr (parse_eq_ok_none_iff.mp h)
    obtain ⟨cs, hText⟩ := joinedText_ends hLayout s
    rw [trim_joinedText hLayout, hText] at hNil
    cases hNil

theorem says_single_iff {key : String} {v : Json} (hKey : key ≠ negateKey) :
    Says t (.object [(key, v)]) g ↔ NodeOf t (key, v) g := by
  have hPredicates : predicateMembers [(key, v)] = [(key, v)] := by
    simp [predicateMembers, hKey]
  constructor
  · intro h
    cases h with
    | object hMarks hNodes hBody =>
      rw [hPredicates] at hNodes
      rcases hNodes with _ | ⟨hNode, ⟨⟩⟩
      cases hBody
      rcases hMarks with hMark | ⟨rfl, -⟩
      · exact absurd (congrArg Prod.fst (List.mem_singleton.mp hMark)).symm hKey
      · exact hNode
  · intro h
    have hMarks : Marks [(key, v)] false := .inr ⟨rfl, List.forall_mem_singleton.mpr hKey⟩
    have hNodes : List.Forall₂ (NodeOf t) (predicateMembers [(key, v)]) [g] := by
      rw [hPredicates]
      exact .cons h .nil
    exact Says.object hMarks hNodes (.one g)

/-- A group of two filters says both. -/
theorem eq_group_of_says {v x : Json}
    (hKeyed : (Json.object [(Connective.all.key, .array [v, x])]).Keyed)
    (hv : ofJson t v = .ok e) (hx : ofJson t x = .ok e')
    (h : ofJson t (.object [(Connective.all.key, .array [v, x])]) = .ok g) :
    g = .group .all [e, e'] := by
  rw [ofJson_says_iff hKeyed, says_single_iff Connective.all.key_ne_negateKey, nodeOf_iff] at h
  cases hKeyed with
  | object _ hMembers =>
    cases hMembers _ (List.mem_singleton.mpr rfl) with
    | array hItems =>
      rw [List.forall_mem_cons, List.forall_mem_singleton] at hItems
      rcases h with ⟨c, hc, items, nodes, ⟨⟩, -, hNodes, rfl⟩ | ⟨hField, -⟩
      · cases Connective.key_injective hc
        rcases hNodes with _ | ⟨hFirst, _ | ⟨hSecond, ⟨⟩⟩⟩
        rw [← ofJson_says_iff hItems.1, hv] at hFirst
        rw [← ofJson_says_iff hItems.2, hx] at hSecond
        cases hFirst
        cases hSecond
        rfl
      · exact absurd rfl (hField.ne_key .all)

/-- A filter that stands in one group with another one, as a text, says what they both say. -/
theorem eq_joined_of_parse (hFirst : parse t s = .ok f)
    (hLayout : Json.Layout (.object members) second) (hKeyed : (Json.object members).Keyed)
    (hSecond : ofJson t (.object members) = .ok e')
    (h : parse t (joinedText s second) = .ok f') : f' = some (joined f e') := by
  obtain ⟨g, rfl⟩ := exists_of_parse_joinedText hLayout h
  refine congrArg some ?_
  obtain ⟨v, hParse, hg⟩ := parse_eq_ok_some_iff.mp h
  rw [trim_joinedText hLayout, joinedText, String.toList_ofList] at hParse
  cases f with
  | none =>
    rw [if_pos (Text.trim_eq_nil_iff.mpr (parse_eq_ok_none_iff.mp hFirst))] at hParse
    have hBack := Json.parse_layout hLayout .nil .nil hKeyed
    rw [List.append_nil, List.nil_append, hParse] at hBack
    rcases hBack with ⟨-, hEq⟩ | ⟨-, fault, hEq, -⟩
    · cases hEq
      exact Except.ok.inj (hg.symm.trans hSecond)
    · cases hEq
  | some e =>
    obtain ⟨w, hw, hFilter⟩ := parse_eq_ok_some_iff.mp hFirst
    have hSome : Text.trim s.toList ≠ [] := by
      intro hBlank
      rw [parse_eq_ok_none_iff.mpr (Text.trim_eq_nil_iff.mp hBlank)] at hFirst
      cases hFirst
    obtain ⟨lead, trail, hText, hLead, hTrail⟩ := Text.exists_eq_trim s.toList
    rw [if_neg hSome, hText] at hParse
    have hFramed : Json.Framed w lead (Text.trim s.toList) trail :=
      ⟨hw, Text.head?_trim, hLead, hTrail⟩
    obtain rfl := Json.value_of_pairText hFramed hLayout hKeyed hParse
    exact eq_group_of_says (Json.keyed_of_parse hParse) hFilter hSecond hg

theorem meets_joined {r : Record} (hFirst : ∀ e, f = some e → e.Settled r)
    (hSecond : e'.Settled r) : (joined f e').meets r = (meetsFilter r f && e'.meets r) := by
  cases f with
  | none => rfl
  | some e =>
    have hBoth : ∀ x ∈ [e, e'], x.Settled r :=
      List.forall_mem_cons.mpr ⟨hFirst e rfl, List.forall_mem_singleton.mpr hSecond⟩
    rw [joined, Expression.meets_group (List.cons_ne_nil _ _) hBoth, Expression.truth_all_meets]
    simp [meetsFilter]

end Worklist.Filter
