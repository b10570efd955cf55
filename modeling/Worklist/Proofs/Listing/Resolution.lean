import Mathlib.Data.List.Induction
import Worklist.Listing.Query
import Worklist.Proofs.Registry.Links
import Worklist.Proofs.Registry.Runs
import Worklist.Proofs.Text.Blank

/-!
# What a search text asks for

A registry that has been told of hosts only holds the links of these hosts and nothing else, except
that a host without a name, or one whose pattern is too large, is refused. So a text is found in it
exactly if it is a link of one of the others, and then its number is the number of the link,
whichever of the hosts is matched first.
-/

namespace Worklist

namespace HostRegistry

variable {r : HostRegistry} {k : KnownUrl}

/-- The registry that has been told of hosts, one after the other. -/
def ofHosts (hosts : List String) : HostRegistry :=
  empty.afterAll (hosts.map .registerHost)

/-- The host is one of those that can be registered: it has a name, and its pattern is one. -/
structure IsAmong (hosts : List String) (host : List Char) : Prop where
  told : ∃ text ∈ hosts, NormalizesTo text host
  named : host ≠ []
  compiles : (Pattern.parse? (Pattern.hostText host)).isSome

/-- The pattern of the links of a host under its name. -/
def linksOf (host : List Char) : KnownUrl :=
  ⟨patternName (String.ofList host), Pattern.ofHost host⟩

theorem linksOf_injective {a b : List Char} (h : (linksOf a).name = (linksOf b).name) : a = b := by
  have hLists := congrArg String.toList h
  simpa [linksOf, patternName] using hLists

theorem offers_iff_links {text : String} :
    (Call.registerHost text).Offers k ↔ ∃ host, IsAmong [text] host ∧ k = linksOf host := by
  have hParse : ∀ {host p}, Pattern.parse? (Pattern.hostText host) = some p →
      p = Pattern.ofHost host := by
    intro host p h
    rw [Pattern.parse?_hostText] at h
    split_ifs at h
    exact (Option.some.inj h).symm
  constructor
  · rintro (_ | _ | ⟨hHost, hNamed, hCompiles⟩)
    refine ⟨_, ⟨⟨text, List.mem_singleton_self text, hHost⟩, hNamed, ?_⟩, ?_⟩
    · rw [hCompiles]
      rfl
    · rw [hParse hCompiles]
      rfl
  · rintro ⟨host, ⟨⟨told, hTold, hHost⟩, hNamed, hCompiles⟩, rfl⟩
    obtain ⟨p, hp⟩ := Option.isSome_iff_exists.mp hCompiles
    rw [List.mem_singleton.mp hTold] at hHost
    rw [linksOf, ← hParse hp]
    exact .registerHost hHost hNamed hp

/-- Being told of a host adds its links, unless they are there or the host is refused. -/
theorem mem_known_registerHost (hOwn : r.OwnNames) (hLinks : ∀ k ∈ r.known, ∃ h, k = linksOf h)
    (text : String) : k ∈ (r.after (.registerHost text)).known ↔
      k ∈ r.known ∨ (Call.registerHost text).Offers k := by
  have hPerforms := r.performs (.registerHost text)
  rw [after]
  generalize r.perform (.registerHost text) = run at hPerforms
  cases hPerforms with
  | refused e hNothing => exact (or_iff_left (hNothing k)).symm
  | taken hYields hThere =>
    refine ⟨.inl, ?_⟩
    rintro (hOld | hOffered)
    · exact hOld
    · -- What has the name is the links of a host of this name, which is the same host.
      obtain ⟨known, hLookup⟩ := Option.ne_none_iff_exists'.mp (hThere k hOffered)
      obtain ⟨host, -, rfl⟩ := offers_iff_links.mp hOffered
      have hName := hOwn _ _ (mem_entries_iff.mpr hLookup)
      have hMem := (mem_known_iff hOwn).mpr (hName.symm ▸ hLookup)
      obtain ⟨h, rfl⟩ := hLinks known hMem
      rw [← linksOf_injective hName]
      exact hMem
  | kept known hOffered hHeeded =>
    rw [mem_known_insert hOwn (hHeeded.resolve_left id), hOffered.iff_eq]

theorem mem_known_ofHosts {hosts : List String} :
    k ∈ (ofHosts hosts).known ↔ ∃ host, IsAmong hosts host ∧ k = linksOf host := by
  induction hosts using List.reverseRecOn generalizing k with
  | nil =>
    refine iff_of_false ?_ ?_
    · simp [ofHosts, afterAll, known, empty]
    · rintro ⟨host, ⟨⟨text, hText, -⟩, -, -⟩, -⟩
      cases hText
  | append_singleton hosts text ih =>
    have hStep : ofHosts (hosts ++ [text]) = (ofHosts hosts).after (.registerHost text) := by
      simp [ofHosts, afterAll]
    have hOwn : (ofHosts hosts).OwnNames := ownNames_empty.afterAll _
    have hLinks : ∀ k ∈ (ofHosts hosts).known, ∃ h, k = linksOf h := by
      intro k hk
      obtain ⟨h, -, hk⟩ := ih.mp hk
      exact ⟨h, hk⟩
    have hAmong : ∀ host, IsAmong (hosts ++ [text]) host ↔
        IsAmong hosts host ∨ IsAmong [text] host := by
      intro host
      constructor
      · rintro ⟨⟨told, hTold, hHost⟩, hNamed, hCompiles⟩
        rcases List.mem_append.mp hTold with hTold | hTold
        · exact .inl ⟨⟨told, hTold, hHost⟩, hNamed, hCompiles⟩
        · exact .inr ⟨⟨told, hTold, hHost⟩, hNamed, hCompiles⟩
      · rintro (h | h)
        · obtain ⟨told, hTold, hHost⟩ := h.told
          exact ⟨⟨told, List.mem_append_left _ hTold, hHost⟩, h.named, h.compiles⟩
        · obtain ⟨told, hTold, hHost⟩ := h.told
          exact ⟨⟨told, List.mem_append_right _ hTold, hHost⟩, h.named, h.compiles⟩
    rw [hStep, mem_known_registerHost hOwn hLinks, ih, offers_iff_links]
    simp only [hAmong, or_and_right, exists_or]

end HostRegistry

namespace Listing.SearchQuery

open HostRegistry

/-- The text is a link of one of the hosts to the number. -/
def LinksTo (hosts : List String) (text : List Char) (n : Int64) : Prop :=
  ∃ l : Link, IsAmong hosts l.host ∧ l.text = text ∧ Text.int64? l.digits = some n

/-- The text is the number after the word for it. -/
def Names (text : List Char) (n : Int64) : Prop :=
  ∃ rest, text = numberPrefix ++ rest ∧ Text.int64? (Text.trim rest) = some n

theorem link_of_matchUrl {hosts : List String} {text : List Char} (hTrim : Text.trim text = text)
    {m : UrlMatch} (h : (ofHosts hosts).matchUrl (String.ofList text) = some m) :
    ∃ l : Link, IsAmong hosts l.host ∧ l.text = text ∧
      m.capture? numberCapture = some (String.ofList l.digits) := by
  obtain ⟨k, hk, hMatch⟩ := List.exists_of_findSome?_eq_some h
  obtain ⟨host, hHost, rfl⟩ := mem_known_ofHosts.mp hk
  rw [String.toList_ofList, hTrim] at hMatch
  obtain ⟨kept, hSearch, rfl⟩ := Option.map_eq_some_iff.mp hMatch
  obtain ⟨l, rfl, hText, rfl⟩ := Pattern.link_of_search hSearch
  refine ⟨l, hHost, hText, ?_⟩
  rfl

theorem matchUrl_isSome_of_link {hosts : List String} {l : Link} (hTrim : Text.trim l.text = l.text)
    (hHost : IsAmong hosts l.host) :
    ((ofHosts hosts).matchUrl (String.ofList l.text)).isSome := by
  rw [matchUrl, List.isSome_findSome?, List.any_eq_true]
  refine ⟨linksOf l.host, mem_known_ofHosts.mpr ⟨l.host, hHost, rfl⟩, ?_⟩
  rw [String.toList_ofList, hTrim, KnownUrl.match?, Option.isSome_map]
  exact Pattern.search_isSome_of_link l

theorem ofLink?_eq_some_iff {hosts : List String} {text : List Char}
    (hTrim : Text.trim text = text) {n : Int64} :
    ofLink? (ofHosts hosts) text = some n ↔ LinksTo hosts text n := by
  have hOfMatch : ∀ m (l : Link), (ofHosts hosts).matchUrl (String.ofList text) = some m →
      m.capture? numberCapture = some (String.ofList l.digits) →
      ofLink? (ofHosts hosts) text = Text.int64? l.digits := by
    intro m l hMatch hCapture
    simp [ofLink?, hMatch, hCapture]
  constructor
  · intro h
    obtain ⟨m, hMatch, -⟩ := Option.bind_eq_some_iff.mp h
    obtain ⟨l, hHost, hText, hCapture⟩ := link_of_matchUrl hTrim hMatch
    exact ⟨l, hHost, hText, hOfMatch m l hMatch hCapture ▸ h⟩
  · rintro ⟨l, hHost, rfl, hNumber⟩
    obtain ⟨m, hMatch⟩ := Option.isSome_iff_exists.mp (matchUrl_isSome_of_link hTrim hHost)
    -- The host that is matched may be another one, but its link has the same digits.
    obtain ⟨l', -, hText, hCapture⟩ := link_of_matchUrl hTrim hMatch
    rw [hOfMatch m l' hMatch hCapture, Link.digits_eq_of_text_eq hText, hNumber]

theorem ofNumber?_eq_some_iff {text : List Char} {n : Int64} :
    ofNumber? text = some n ↔ Names text n := by
  rw [ofNumber?]
  constructor
  · intro h
    split at h
    case isTrue hPrefix =>
      obtain ⟨rest, rfl⟩ := List.isPrefixOf_iff_prefix.mp hPrefix
      exact ⟨rest, rfl, by rwa [List.drop_left] at h⟩
    case isFalse => cases h
  · rintro ⟨rest, rfl, hNumber⟩
    rw [if_pos (List.isPrefixOf_iff_prefix.mpr (List.prefix_append _ _)), List.drop_left, hNumber]

theorem resolve_of_not_blank {text : String} (h : Text.trim text.toList ≠ [])
    (registry : HostRegistry) :
    resolve text registry =
      match (ofLink? registry (Text.trim text.toList)).or (ofNumber? (Text.trim text.toList)) with
      | some n => .ok (.number n)
      | none => .ok (.text (String.ofList (Text.trim text.toList))) := by
  rw [resolve]
  split
  case h_1 hBlank => exact absurd hBlank h
  case h_2 => rfl

/-- A text that is not blank asks for the number of the link that it is, whichever of the hosts the
link is of, or else for the number that it names, or else for itself. -/
theorem resolve_of_hosts (hosts : List String) (text : String)
    (hText : Text.trim text.toList ≠ []) :
    (∀ n, LinksTo hosts (Text.trim text.toList) n →
      resolve text (ofHosts hosts) = .ok (.number n)) ∧
    ((∀ n, ¬LinksTo hosts (Text.trim text.toList) n) →
      (∀ n, Names (Text.trim text.toList) n → resolve text (ofHosts hosts) = .ok (.number n)) ∧
      ((∀ n, ¬Names (Text.trim text.toList) n) →
        resolve text (ofHosts hosts) = .ok (.text (String.ofList (Text.trim text.toList))))) := by
  have hTrim : Text.trim (Text.trim text.toList) = Text.trim text.toList := Text.trim_trim _
  rw [resolve_of_not_blank hText]
  refine ⟨fun n hLink => ?_, fun hNoLink => ⟨fun n hName => ?_, fun hNoName => ?_⟩⟩
  · simp [(ofLink?_eq_some_iff hTrim).mpr hLink]
  · have hNone : ofLink? (ofHosts hosts) (Text.trim text.toList) = none :=
      Option.eq_none_iff_forall_ne_some.mpr fun n h => hNoLink n ((ofLink?_eq_some_iff hTrim).mp h)
    simp [hNone, ofNumber?_eq_some_iff.mpr hName]
  · have hNone : ofLink? (ofHosts hosts) (Text.trim text.toList) = none :=
      Option.eq_none_iff_forall_ne_some.mpr fun n h => hNoLink n ((ofLink?_eq_some_iff hTrim).mp h)
    have hNoNumber : ofNumber? (Text.trim text.toList) = none :=
      Option.eq_none_iff_forall_ne_some.mpr fun n h => hNoName n (ofNumber?_eq_some_iff.mp h)
    simp [hNone, hNoNumber]

/-- A link of a host, and of the same host with its scheme. -/
def homeLink : Link where
  scheme := "https://".toList
  host := "work.example".toList
  space := "home".toList
  digits := "42".toList
  slash := ['/']
  scheme_mem := by decide
  space_ne := by decide
  space_plain := by
    have h : "home".toList.all (fun c => c != '/' && !Text.isBlank c) = true := by decide +kernel
    exact fun c hc => by simpa using List.all_eq_true.mp h c hc
  digits_ne := by decide
  digits_decimal := List.all_eq_true.mp (by decide +kernel)
  slash_mem := by decide

theorem isAmong_homeLink :
    IsAmong ["https://work.example", " ", "work.example/"] homeLink.host where
  told := ⟨"work.example/", by simp, by decide +kernel⟩
  named := by decide +kernel
  compiles := by
    rw [Pattern.parse?_hostText, if_pos (by decide +kernel)]
    rfl

theorem resolve_homeLink :
    resolve " https://work.example/home/plan/detail/42/ "
      (ofHosts ["https://work.example", " ", "work.example/"]) = .ok (.number 42) :=
  (resolve_of_hosts ["https://work.example", " ", "work.example/"]
    " https://work.example/home/plan/detail/42/ " (by decide +kernel)).1 42
    ⟨homeLink, isAmong_homeLink, by decide +kernel, by decide +kernel⟩

end Listing.SearchQuery

end Worklist
