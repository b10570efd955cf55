import Mathlib.Data.String.Basic
import Worklist.Proofs.Pattern.Visits
import Worklist.Proofs.Registry.Runs
import Worklist.Proofs.Text.Blank

/-!
# The order of registrations

Patterns that are registered under different names are all kept, whichever comes first, and what can
be asked of a registry is told by what it keeps. So the order does not show, neither in the names
nor in what is matched. If several patterns match a text, the one with the least name does, and it
keeps the texts of those of its named parts that were visited.
-/

namespace Worklist

open Pattern

/-! ### Matches -/

namespace KnownUrl

variable {known : KnownUrl} {text : List Char} {m : UrlMatch}

/-- The pattern is found in the text. -/
def Matches (known : KnownUrl) (text : List Char) : Prop :=
  ∃ i j vs, Finds known.pattern text i j vs

/-- The match has the name of the pattern, and of each part that was visited when it was found, and
of no other, the text of the last visit. -/
structure Explains (known : KnownUrl) (text : List Char) (m : UrlMatch) : Prop where
  name : m.name = known.name
  once : (m.captures.map (·.1)).Nodup
  found : ∃ i j vs, Finds known.pattern text i j vs ∧
    (∀ g, m.capture? g = (lastVisit? g vs).map fun v => String.ofList (v.word text)) ∧
    ∀ v ∈ vs, v.name ∈ known.pattern.body.names

theorem lookup_map_ofList (kept : Captures) (g : String) :
    (kept.map fun (name, cs) => (name, String.ofList cs)).lookup g =
      (kept.lookup g).map String.ofList := by
  induction kept with
  | nil => rfl
  | cons pair kept ih =>
    rw [List.map_cons, List.lookup_cons, List.lookup_cons, ih]
    split <;> rfl

theorem explains_of_match? (h : known.match? text = some m) : known.Explains text m := by
  obtain ⟨kept, hSearch, rfl⟩ := Option.map_eq_some_iff.mp h
  obtain ⟨i, j, vs, hFinds, rfl⟩ := search_eq_some_iff_finds.mp hSearch
  refine ⟨rfl, ?_, i, j, vs, hFinds, ?_, hFinds.trip.names⟩
  · rw [List.map_map]
    exact Captures.nodup_keepVisits
  · intro g
    rw [UrlMatch.capture?, lookup_map_ofList, Captures.lookup_keepVisits, Option.map_map]
    rfl

theorem isSome_match?_iff : (known.match? text).isSome ↔ known.Matches text := by
  rw [match?, Option.isSome_map, Option.isSome_iff_exists]
  constructor
  · rintro ⟨kept, hSearch⟩
    obtain ⟨i, j, vs, hFinds, -⟩ := search_eq_some_iff_finds.mp hSearch
    exact ⟨i, j, vs, hFinds⟩
  · rintro ⟨i, j, vs, hFinds⟩
    exact ⟨_, search_eq_some_iff_finds.mpr ⟨i, j, vs, hFinds, rfl⟩⟩

end KnownUrl

namespace HostRegistry

variable {r r' : HostRegistry} {k : KnownUrl} {c : Call} {calls calls' : List Call}
  {pair : String × String} {pairs pairs' : List (String × String)}

theorem isSome_matchUrl_iff {text : String} :
    (r.matchUrl text).isSome ↔ ∃ k ∈ r.known, k.Matches (Text.trim text.toList) := by
  rw [matchUrl, List.isSome_findSome?, List.any_eq_true]
  simp only [KnownUrl.isSome_match?_iff]

/-- Of the patterns that match the one with the least name does. -/
theorem least_of_matchUrl (hOwn : r.OwnNames) {text : String} {m : UrlMatch}
    (h : r.matchUrl text = some m) :
    ∃ k ∈ r.known, k.Explains (Text.trim text.toList) m ∧
      ∀ k' ∈ r.known, k'.Matches (Text.trim text.toList) → k.name ≤ k'.name := by
  obtain ⟨before, k, behind, hKnown, hMatch, hBefore⟩ := List.findSome?_eq_some_iff.mp h
  have hOrdered := known_ascending hOwn
  rw [hKnown] at hOrdered ⊢
  refine ⟨k, by simp, KnownUrl.explains_of_match? hMatch, ?_⟩
  intro k' hk' hMatches
  rcases List.mem_append.mp hk' with hk' | hk'
  · have hSome := KnownUrl.isSome_match?_iff.mpr hMatches
    rw [hBefore k' hk'] at hSome
    cases hSome
  · rcases List.mem_cons.mp hk' with rfl | hk'
    · exact String.le_refl _
    · have hTail := (List.pairwise_append.mp hOrdered).2.1
      exact Std.le_of_lt ((List.pairwise_cons.mp hTail).1 k' hk')

theorem matchUrl_of_blanks {lead trail : String} (hLead : ∀ b ∈ lead.toList, Text.isBlank b = true)
    (hTrail : ∀ b ∈ trail.toList, Text.isBlank b = true) (text : String) :
    r.matchUrl (lead ++ (text ++ trail)) = r.matchUrl text := by
  rw [matchUrl, String.toList_append, String.toList_append,
    Text.trim_append_of_blank hLead hTrail, matchUrl]

/-! ### What is kept -/

/-- The call registers a pattern under a name, in either way. -/
inductive Call.Registers : Call → String × String → Prop
  | register (name pattern : String) : Registers (.register name pattern) (name, pattern)
  | registerIfAbsent (name pattern : String) :
    Registers (.registerIfAbsent name pattern) (name, pattern)

/-- What is known is the pattern that the text of the pair means, under the name of the pair. -/
def Compiles (pair : String × String) (k : KnownUrl) : Prop :=
  pair.1 = k.name ∧ Pattern.parse? pair.2 = some k.pattern

/-- What is known is one of the patterns of the pairs. -/
def Among (pairs : List (String × String)) (k : KnownUrl) : Prop :=
  ∃ pair ∈ pairs, Compiles pair k

theorem Call.Registers.offers_iff (h : c.Registers pair) : c.Offers k ↔ Compiles pair k := by
  rcases k with ⟨name, p⟩
  cases h with
  | register name pattern =>
    constructor
    · rintro ⟨hParse⟩
      exact ⟨rfl, hParse⟩
    · rintro ⟨rfl, hParse⟩
      exact .register hParse
  | registerIfAbsent name pattern =>
    constructor
    · rintro (_ | ⟨hParse⟩)
      exact ⟨rfl, hParse⟩
    · rintro ⟨rfl, hParse⟩
      exact .registerIfAbsent hParse

/-- Registering under a free name adds the pattern, if it is one. -/
theorem mem_known_after (hOwn : r.OwnNames) (h : c.Registers pair)
    (hFree : r.lookup pair.1 = none) :
    k ∈ (r.after c).known ↔ k ∈ r.known ∨ Compiles pair k := by
  have hPerforms := r.performs c
  rw [after]
  generalize r.perform c = run at hPerforms
  cases hPerforms with
  | refused e hNothing => exact (or_iff_left (mt h.offers_iff.mpr (hNothing k))).symm
  | taken hYields hThere =>
    refine (or_iff_left fun hCompiles => ?_).symm
    rw [hCompiles.1] at hFree
    exact hThere k (h.offers_iff.mpr hCompiles) hFree
  | kept known hOffered hHeeded =>
    rw [(h.offers_iff.mp hOffered).1] at hFree
    rw [mem_known_insert hOwn hFree, ← h.offers_iff, hOffered.iff_eq]

/-- Induction on the calls: the names of those that follow stay free. -/
theorem mem_known_afterAll (hOwn : r.OwnNames) (hCalls : List.Forall₂ Call.Registers calls pairs)
    (hNames : (pairs.map (·.1)).Nodup) (hFree : ∀ pair ∈ pairs, r.lookup pair.1 = none) :
    k ∈ (r.afterAll calls).known ↔ k ∈ r.known ∨ Among pairs k := by
  induction hCalls generalizing r with
  | nil => simp [afterAll, Among]
  | @cons c pair calls pairs hCall hCalls ih =>
    obtain ⟨hFirst, hRest⟩ := List.nodup_cons.mp hNames
    have hHere := hFree pair List.mem_cons_self
    have hStill : ∀ other ∈ pairs, (r.after c).lookup other.1 = none := by
      intro other hOther
      by_contra hTaken
      obtain ⟨k, hLookup⟩ := Option.ne_none_iff_exists'.mp hTaken
      have hName := hOwn.after c _ _ (mem_entries_iff.mpr hLookup)
      have hMem := (mem_known_iff (hOwn.after c)).mpr (hName ▸ hLookup)
      rcases (mem_known_after hOwn hCall hHere).mp hMem with hOld | hNew
      · have hOld := (mem_known_iff hOwn).mp hOld
        rw [hName, hFree other (List.mem_cons_of_mem pair hOther)] at hOld
        cases hOld
      · apply hFirst
        exact List.mem_map.mpr ⟨other, hOther, (hNew.1.trans hName).symm⟩
    have hTail : k ∈ ((r.after c).afterAll calls).known ↔
        k ∈ (r.after c).known ∨ Among pairs k := ih (hOwn.after c) hRest hStill
    rw [afterAll, List.foldl_cons, ← afterAll, hTail, mem_known_after hOwn hCall hHere, or_assoc,
      Among, Among, List.exists_mem_cons_iff]

theorem mem_known_of_registered (hCalls : List.Forall₂ Call.Registers calls pairs)
    (hNames : (pairs.map (·.1)).Nodup) :
    k ∈ (empty.afterAll calls).known ↔ Among pairs k := by
  rw [mem_known_afterAll ownNames_empty hCalls hNames fun _ _ => rfl]
  simp [known, empty]

/-- The registry keeps the patterns of the pairs and nothing else, and matches by them. A text is
matched exactly if one of them is found in it, and a tame one is found wherever it has a trip. -/
structure KeepsJust (r : HostRegistry) (pairs : List (String × String)) : Prop where
  names : ∀ name, name ∈ r.names ↔
    ∃ pair ∈ pairs, pair.1 = name ∧ (Pattern.parse? pair.2).isSome
  ascending : r.names.Pairwise (· < ·)
  lookup : ∀ name k, r.lookup name = some k ↔ k.name = name ∧ Among pairs k
  found : ∀ text, (r.matchUrl text).isSome ↔
    ∃ k, Among pairs k ∧ k.Matches (Text.trim text.toList)
  trips : ∀ text k, Among pairs k → k.pattern.body.Tame →
    ∀ i ≤ (Text.trim text.toList).length, ∀ j vs,
      k.pattern.body.Trip (Text.trim text.toList) i j vs → (r.matchUrl text).isSome
  least : ∀ text m, r.matchUrl text = some m →
    ∃ k, Among pairs k ∧ k.Explains (Text.trim text.toList) m ∧
      ∀ k', Among pairs k' → k'.Matches (Text.trim text.toList) → k.name ≤ k'.name
  blanks : ∀ lead text trail : String, (∀ b ∈ lead.toList, Text.isBlank b = true) →
    (∀ b ∈ trail.toList, Text.isBlank b = true) →
    r.matchUrl (lead ++ (text ++ trail)) = r.matchUrl text

theorem lookup_eq_some_iff (hOwn : r.OwnNames) {name : String} :
    r.lookup name = some k ↔ k.name = name ∧ k ∈ r.known := by
  constructor
  · intro h
    have hName := hOwn name k (mem_entries_iff.mpr h)
    exact ⟨hName, (mem_known_iff hOwn).mpr (hName ▸ h)⟩
  · rintro ⟨rfl, hMem⟩
    exact (mem_known_iff hOwn).mp hMem

theorem keepsJust_of_mem_known_iff (hOwn : r.OwnNames) (h : ∀ k, k ∈ r.known ↔ Among pairs k) :
    r.KeepsJust pairs where
  names name := by
    rw [mem_names_iff, Option.isSome_iff_exists]
    constructor
    · rintro ⟨k, hk⟩
      obtain rfl := ((lookup_eq_some_iff hOwn).mp hk).1
      obtain ⟨pair, hPair, hName, hParse⟩ := (h k).mp ((mem_known_iff hOwn).mpr hk)
      exact ⟨pair, hPair, hName, by rw [hParse]; rfl⟩
    · rintro ⟨pair, hPair, rfl, hParse⟩
      obtain ⟨p, hp⟩ := Option.isSome_iff_exists.mp hParse
      exact ⟨⟨pair.1, p⟩, (lookup_eq_some_iff hOwn).mpr ⟨rfl, (h _).mpr ⟨pair, hPair, rfl, hp⟩⟩⟩
  ascending := r.names_ascending
  lookup name k := by
    rw [lookup_eq_some_iff hOwn, h]
  found text := by
    simp only [isSome_matchUrl_iff, h]
  trips text k hk hTame i hi j vs hTrip := by
    apply isSome_matchUrl_iff.mpr
    exact ⟨k, (h k).mpr hk, exists_finds_of_tame hTame hi hTrip⟩
  least text m hMatch := by
    obtain ⟨k, hk, hExplains, hLeast⟩ := least_of_matchUrl hOwn hMatch
    refine ⟨k, (h k).mp hk, hExplains, ?_⟩
    intro k' hk'
    exact hLeast k' ((h k').mpr hk')
  blanks _ text _ hLead hTrail := matchUrl_of_blanks hLead hTrail text

/-- Nothing that can be asked of a registry tells it from the other. -/
structure Alike (r r' : HostRegistry) : Prop where
  names : r.names = r'.names
  lookup : ∀ name, r.lookup name = r'.lookup name
  matchUrl : ∀ text, r.matchUrl text = r'.matchUrl text

/-- What is kept under each name is all there is to a registry. -/
theorem alike_of_lookup (hOwn : r.OwnNames) (hOwn' : r'.OwnNames)
    (h : ∀ name, r.lookup name = r'.lookup name) : r.Alike r' where
  names := by
    have hNodup : ∀ r : HostRegistry, r.names.Nodup := fun r => r.perm_names.nodup_iff.mpr r.nodup
    have hPerm : r.names.Perm r'.names := by
      refine (List.perm_ext_iff_of_nodup (hNodup r) (hNodup r')).mpr fun name => ?_
      rw [mem_names_iff, mem_names_iff, h]
    exact hPerm.eq_of_pairwise
      (fun a b _ _ hab hba => absurd (String.lt_trans hab hba) (String.lt_irrefl _))
      r.names_ascending r'.names_ascending
  lookup := h
  matchUrl text := by
    rw [matchUrl, matchUrl, known_eq_of_lookup hOwn hOwn' h]

/-- Registering the same patterns in another order gives a registry that is alike, and both keep
these patterns and nothing else. -/
theorem registration_order_does_not_show (hNames : (pairs.map (·.1)).Nodup)
    (hOrder : pairs.Perm pairs') (hCalls : List.Forall₂ Call.Registers calls pairs)
    (hCalls' : List.Forall₂ Call.Registers calls' pairs') :
    (empty.afterAll calls).Alike (empty.afterAll calls') ∧
      (empty.afterAll calls).KeepsJust pairs := by
  have hOwn := ownNames_empty.afterAll calls
  have hOwn' := ownNames_empty.afterAll calls'
  have hMem : ∀ k, k ∈ (empty.afterAll calls).known ↔ Among pairs k :=
    fun k => mem_known_of_registered hCalls hNames
  have hNames' : (pairs'.map (·.1)).Nodup := (hOrder.map _).nodup_iff.mp hNames
  refine ⟨alike_of_lookup hOwn hOwn' fun name => ?_, keepsJust_of_mem_known_iff hOwn hMem⟩
  ext k
  rw [lookup_eq_some_iff hOwn, lookup_eq_some_iff hOwn', hMem,
    mem_known_of_registered hCalls' hNames', Among, Among]
  simp only [hOrder.mem_iff]

/-- A pattern for words, and one for words with a number or a mark. -/
def wordPatterns : List (String × String) :=
  [("words", "(?P<word>[a-z]+)/?"), ("marked", "(?P<word>[a-z]+)(?:(?P<number>[0-9]+)|!)")]

/-- The pattern for words comes first, and the other one if its name is free. -/
def wordsFirst : List Call :=
  [.register "words" "(?P<word>[a-z]+)/?",
    .registerIfAbsent "marked" "(?P<word>[a-z]+)(?:(?P<number>[0-9]+)|!)"]

/-- The pattern for words comes last. -/
def markedFirst : List Call :=
  [.register "marked" "(?P<word>[a-z]+)(?:(?P<number>[0-9]+)|!)",
    .register "words" "(?P<word>[a-z]+)/?"]

theorem words_and_marked_words :
    (wordPatterns.map (·.1)).Nodup ∧
      (empty.afterAll wordsFirst).names = (empty.afterAll markedFirst).names ∧
      (empty.afterAll wordsFirst).names = ["marked", "words"] ∧
      (empty.afterAll markedFirst).matchUrl "page" = some ⟨"words", [("word", "page")]⟩ ∧
      (empty.afterAll wordsFirst).matchUrl " page!\n" = some ⟨"marked", [("word", "page")]⟩ := by
  have hNames : (wordPatterns.map (·.1)).Nodup := by decide
  have hOrder : wordPatterns.Perm wordPatterns.reverse := (List.reverse_perm _).symm
  have hFirst : List.Forall₂ Call.Registers wordsFirst wordPatterns :=
    .cons (.register _ _) (.cons (.registerIfAbsent _ _) .nil)
  have hSecond : List.Forall₂ Call.Registers markedFirst wordPatterns.reverse :=
    .cons (.register _ _) (.cons (.register _ _) .nil)
  obtain ⟨hAlike, hKeeps⟩ := registration_order_does_not_show hNames hOrder hFirst hSecond
  -- What was registered last stands first, which is the order of the names already.
  have hSorted : (empty.afterAll wordsFirst).names = ["marked", "words"] :=
    (List.mergeSort_of_pairwise (by decide +kernel)).trans (by decide +kernel)
  have hKnown : (empty.afterAll wordsFirst).known =
      (empty.afterAll wordsFirst).entries.map (·.2) :=
    List.mergeSort_of_pairwise (by decide +kernel)
  refine ⟨hNames, hAlike.names, hSorted, ?_, ?_⟩
  · rw [← hAlike.matchUrl, matchUrl, hKnown]
    decide +kernel
  · have hBlanks := hKeeps.blanks " " "page!" "\n" (by simp [Text.isBlank])
      (by simp [Text.isBlank])
    have hMatch : (empty.afterAll wordsFirst).matchUrl "page!" =
        some ⟨"marked", [("word", "page")]⟩ := by
      rw [matchUrl, hKnown]
      decide +kernel
    exact hBlanks.trans hMatch

end HostRegistry

end Worklist
