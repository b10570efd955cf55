import Mathlib.Data.List.Nodup
import Mathlib.Data.String.Basic
import Mathlib.Logic.Function.Basic
import Mathlib.Tactic.SplitIfs
import Worklist.Proofs.Lists
import Worklist.Proofs.Text.Blank
import Worklist.Registry.Basic

/-!
# Runs of registrations

A registry is a map from names to patterns. A registration that fails leaves it as it is, one that
succeeds changes what stands under one name, and no name is ever given up. So of all registrations
of one host at most one finds the host unknown, whatever else is registered in between.

A pattern also has a name of its own. It is put under this name, so in every registry that
registrations come to, the two names are the same, and the patterns in the order of their names are
all that can be asked of it.
-/

namespace Worklist.HostRegistry

variable {r r' : HostRegistry} {name host : String} {k : KnownUrl} {cs : List Char}

/-! ### Hosts -/

/-- What is left of a text as the name of a host: the text has blanks around it, and slashes stand
at its end. -/
inductive NormalizesTo (host : String) (cs : List Char) : Prop where
  | intro (lead slashes trail : List Char) (text : host.toList = lead ++ (cs ++ slashes ++ trail))
    (lead_blank : ∀ c ∈ lead, Text.isBlank c = true)
    (trail_blank : ∀ c ∈ trail, Text.isBlank c = true)
    (head_visible : ∀ c ∈ (cs ++ slashes).head?, Text.isBlank c = false)
    (last_visible : ∀ c ∈ (cs ++ slashes).getLast?, Text.isBlank c = false)
    (slashes_eq : ∀ c ∈ slashes, c = '/') (unslashed : cs.getLast? ≠ some '/')

theorem normalizesTo_iff : NormalizesTo host cs ↔ normalizeHost host = cs := by
  have hSlashes : ∀ cs, withoutSlashes cs = cs.rdropWhile (· == '/') := fun _ => rfl
  rw [normalizeHost]
  constructor
  · rintro ⟨lead, slashes, trail, hText, hLead, hTrail, hHead, hLast, hSlash, hEnd⟩
    rw [hText, Text.trim_append_of_blank hLead hTrail, Text.trim_eq_self hHead hLast]
    have hDropped : (slashes.reverse ++ cs.reverse).dropWhile (· == '/') =
        cs.reverse.dropWhile (· == '/') := by
      apply List.dropWhile_append_of_pos
      intro c hc
      exact beq_iff_eq.mpr (hSlash c (List.mem_reverse.mp hc))
    rw [withoutSlashes, List.reverse_append, hDropped, ← withoutSlashes, hSlashes]
    rw [List.rdropWhile_eq_self_iff]
    intro hNe hSlashed
    rw [List.getLast?_eq_some_getLast hNe, beq_iff_eq.mp hSlashed] at hEnd
    exact hEnd rfl
  · rintro rfl
    obtain ⟨lead, trail, hText, hLead, hTrail⟩ := Text.exists_eq_trim host.toList
    have hJoin : withoutSlashes (Text.trim host.toList) ++
        (Text.trim host.toList).rtakeWhile (· == '/') = Text.trim host.toList :=
      List.rdropWhile_append_rtakeWhile
    refine ⟨lead, (Text.trim host.toList).rtakeWhile (· == '/'), trail, ?_, hLead, hTrail,
      ?_, ?_, ?_, ?_⟩
    · rw [hJoin]
      exact hText
    · rw [hJoin]
      exact Text.head?_trim
    · rw [hJoin]
      exact Text.getLast?_trim
    · intro c hc
      exact beq_iff_eq.mp (List.mem_rtakeWhile_imp (p := (· == '/')) hc)
    · intro hEnd
      have hNe : withoutSlashes (Text.trim host.toList) ≠ [] := by
        intro hNil
        rw [hNil] at hEnd
        cases hEnd
      rw [List.getLast?_eq_some_getLast hNe] at hEnd
      exact List.rdropWhile_last_not (· == '/') _ hNe (beq_iff_eq.mpr (Option.some.inj hEnd))

instance (host : String) (cs : List Char) : Decidable (NormalizesTo host cs) :=
  decidable_of_iff _ normalizesTo_iff.symm

/-! ### A map from names to patterns -/

/-- Keeping a pattern changes what stands under its name and nothing else. -/
theorem lookup_insert (r : HostRegistry) (name : String) (known : KnownUrl) (other : String) :
    (r.insert name known).lookup other = if other = name then some known else r.lookup other := by
  rw [lookup, insert]
  split_ifs with hName
  · rw [hName]
    exact List.lookup_cons_self
  · rw [List.lookup_cons, beq_false_of_ne hName]
    exact lookup_filter_of_pos (· ≠ name) (decide_eq_true hName) r.entries

theorem mem_entries_iff : (name, k) ∈ r.entries ↔ r.lookup name = some k :=
  (Worklist.lookup_eq_some_iff r.nodup).symm

theorem perm_names (r : HostRegistry) : r.names.Perm (r.entries.map (·.1)) :=
  List.mergeSort_perm _ _

theorem mem_names_iff : name ∈ r.names ↔ (r.lookup name).isSome := by
  rw [r.perm_names.mem_iff, ← not_iff_not, ← Worklist.lookup_eq_none_iff,
    Option.not_isSome_iff_eq_none]
  rfl

/-- What is sorted by names that are all different is in the strict order of the names. -/
theorem strict_of_mergeSort {α : Type} (nameOf : α → String) {xs : List α}
    (hNames : (xs.map nameOf).Nodup) :
    (xs.mergeSort fun a b => decide (nameOf a ≤ nameOf b)).Pairwise
      fun a b => nameOf a < nameOf b := by
  have hSorted : (xs.mergeSort fun a b => decide (nameOf a ≤ nameOf b)).Pairwise
      fun a b => decide (nameOf a ≤ nameOf b) := by
    apply List.pairwise_mergeSort
    · simpa using fun a b c => le_trans
    · simpa using fun a b => le_total _ _
  have hDistinct := (((List.mergeSort_perm xs fun a b =>
    decide (nameOf a ≤ nameOf b)).map nameOf).nodup_iff).mpr hNames
  refine (hSorted.and (List.pairwise_map.mp hDistinct)).imp ?_
  rintro a b ⟨hLe, hNe⟩
  exact lt_of_le_of_ne (of_decide_eq_true hLe) hNe

theorem names_ascending (r : HostRegistry) : r.names.Pairwise (· < ·) :=
  strict_of_mergeSort id (by simpa using r.nodup)

theorem size_eq_length_names (r : HostRegistry) : r.size = r.names.length := by
  rw [r.perm_names.length_eq, List.length_map, size]

theorem isEmpty_iff_names_eq_nil : r.isEmpty = true ↔ r.names = [] := by
  rw [isEmpty, List.isEmpty_iff, ← List.length_eq_zero_iff, ← size, size_eq_length_names,
    List.length_eq_zero_iff]

/-- The pattern under each name. -/
def toMap (r : HostRegistry) (name : String) : Option Pattern :=
  (r.lookup name).map (·.pattern)

theorem toMap_insert (r : HostRegistry) (name : String) (known : KnownUrl) :
    (r.insert name known).toMap = Function.update r.toMap name (some known.pattern) := by
  funext other
  rw [toMap, lookup_insert, Function.update_apply]
  split_ifs
  · rfl
  · rfl

/-! ### The names of patterns -/

/-- Every pattern stands under its own name. -/
def OwnNames (r : HostRegistry) : Prop :=
  ∀ name k, (name, k) ∈ r.entries → k.name = name

theorem ownNames_empty : empty.OwnNames :=
  nofun

theorem OwnNames.insert (h : r.OwnNames) (k : KnownUrl) : (r.insert k.name k).OwnNames := by
  intro name known hMem
  rw [mem_entries_iff, lookup_insert] at hMem
  split_ifs at hMem with hName
  · cases hMem
    exact hName.symm
  · exact h name known (mem_entries_iff.mpr hMem)

theorem perm_known (r : HostRegistry) : r.known.Perm (r.entries.map (·.2)) :=
  List.mergeSort_perm _ _

theorem mem_known_iff (h : r.OwnNames) : k ∈ r.known ↔ r.lookup k.name = some k := by
  rw [r.perm_known.mem_iff, ← mem_entries_iff, List.mem_map]
  constructor
  · rintro ⟨⟨name, k⟩, hMem, rfl⟩
    rw [h name k hMem]
    exact hMem
  · intro hMem
    exact ⟨_, hMem, rfl⟩

theorem mem_known_insert (h : r.OwnNames) {known : KnownUrl}
    (hFree : r.lookup known.name = none) :
    k ∈ (r.insert known.name known).known ↔ k ∈ r.known ∨ k = known := by
  rw [mem_known_iff (h.insert known), mem_known_iff h, lookup_insert]
  split_ifs with hName
  · rw [hName, hFree]
    simp [eq_comm]
  · refine (or_iff_left ?_).symm
    rintro rfl
    exact hName rfl

theorem known_ascending (h : r.OwnNames) : r.known.Pairwise fun a b => a.name < b.name := by
  apply strict_of_mergeSort KnownUrl.name
  have hNames : (r.entries.map (·.2)).map KnownUrl.name = r.entries.map (·.1) := by
    rw [List.map_map]
    exact List.map_congr_left fun entry hMem => h entry.1 entry.2 hMem
  rw [hNames]
  exact r.nodup

/-- The patterns in the order of their names are told by what is kept. -/
theorem known_eq_of_lookup (h : r.OwnNames) (h' : r'.OwnNames)
    (hLookup : ∀ name, r.lookup name = r'.lookup name) : r.known = r'.known := by
  have hNodup : ∀ {r : HostRegistry}, r.OwnNames → r.known.Nodup := fun h =>
    (known_ascending h).imp fun hLt hEq => absurd (hEq ▸ hLt) (lt_irrefl _)
  have hPerm : r.known.Perm r'.known := by
    refine (List.perm_ext_iff_of_nodup (hNodup h) (hNodup h')).mpr fun k => ?_
    rw [mem_known_iff h, mem_known_iff h', hLookup]
  exact hPerm.eq_of_pairwise (fun a b _ _ hab hba => absurd (hab.trans hba) (lt_irrefl _))
    (known_ascending h) (known_ascending h')

/-! ### Calls -/

/-- A call that may change a registry. -/
inductive Call where
  /-- Registers a pattern under a name. -/
  | register (name pattern : String)
  /-- Registers a pattern under a name unless the name is taken. -/
  | registerIfAbsent (name pattern : String)
  /-- Registers the links of a host unless they are known. -/
  | registerHost (host : String)

/-- Whether a call puts something into the registry, and the registry as it is left. -/
def perform (r : HostRegistry) : Call → Except RegistryError Bool × HostRegistry
  | .register name pattern => ((r.register name pattern).1.map fun _ => true,
      (r.register name pattern).2)
  | .registerIfAbsent name pattern => r.registerIfAbsent name pattern
  | .registerHost host => r.registerHost host

/-- What a call answers. -/
def answer (r : HostRegistry) (c : Call) : Except RegistryError Bool :=
  (r.perform c).1

/-- The registry after a call. -/
def after (r : HostRegistry) (c : Call) : HostRegistry :=
  (r.perform c).2

/-- The registry after several calls. -/
def afterAll (r : HostRegistry) (cs : List Call) : HostRegistry :=
  cs.foldl after r

/-- Several calls with what they answer. -/
def log : HostRegistry → List Call → List (Call × Except RegistryError Bool)
  | _, [] => []
  | r, c :: cs => (c, r.answer c) :: (r.after c).log cs

namespace Call

/-- A call would have the registry keep something: a pattern that its text means, under its name. -/
inductive Offers : Call → KnownUrl → Prop
  | register {name pattern : String} {p : Pattern} (compiles : Pattern.parse? pattern = some p) :
    Offers (.register name pattern) ⟨name, p⟩
  | registerIfAbsent {name pattern : String} {p : Pattern}
    (compiles : Pattern.parse? pattern = some p) : Offers (.registerIfAbsent name pattern) ⟨name, p⟩
  | registerHost {host : String} {cs : List Char} {p : Pattern} (host_eq : NormalizesTo host cs)
    (named : cs ≠ []) (compiles : Pattern.parse? (Pattern.hostText cs) = some p) :
    Offers (.registerHost host) ⟨patternName (String.ofList cs), p⟩

/-- A call takes the place of what stands under the name. -/
def Replaces : Call → Prop
  | register _ _ => True
  | registerIfAbsent _ _ | registerHost _ => False

/-- What a call makes of a map from names to patterns: what it offers is put under its name, if the
name is free or the call replaces what is there. Any other call changes nothing. -/
inductive Changes (c : Call) (m : String → Option Pattern) : (String → Option Pattern) → Prop
  | puts (k : KnownUrl) (offered : c.Offers k) (heeded : c.Replaces ∨ m k.name = none) :
    Changes c m (Function.update m k.name (some k.pattern))
  | nothing (unheeded : ∀ k, c.Offers k → ¬(c.Replaces ∨ m k.name = none)) : Changes c m m

end Call

/-- What calls make of a map, one after the other. -/
inductive MapRun : (String → Option Pattern) → List Call → (String → Option Pattern) → Prop
  | nil (m : String → Option Pattern) : MapRun m [] m
  | cons {m m' m'' : String → Option Pattern} {c : Call} {cs : List Call} (first : c.Changes m m')
    (rest : MapRun m' cs m'') : MapRun m (c :: cs) m''

/-! ### One call -/

theorem registerHost_eq (h : NormalizesTo host cs) (r : HostRegistry) : r.registerHost host =
    if cs = [] then (.error .emptyHost, r)
    else r.registerIfAbsent (patternName (String.ofList cs)) (Pattern.hostText cs) := by
  rw [registerHost, normalizesTo_iff.mp h]
  cases cs with
  | nil => rfl
  | cons c cs => rfl

theorem offers_registerHost_iff (h : NormalizesTo host cs) : (Call.registerHost host).Offers k ↔
    cs ≠ [] ∧ k.name = patternName (String.ofList cs) ∧
      Pattern.parse? (Pattern.hostText cs) = some k.pattern := by
  constructor
  · rintro (_ | _ | ⟨hHost, hNamed, hParse⟩)
    obtain rfl := (normalizesTo_iff.mp hHost).symm.trans (normalizesTo_iff.mp h)
    exact ⟨hNamed, rfl, hParse⟩
  · rcases k with ⟨name, p⟩
    rintro ⟨hNamed, rfl, hParse⟩
    exact .registerHost h hNamed hParse

/-- What a call comes to: it is refused, it finds the name taken, or its pattern is kept. -/
inductive Performs (r : HostRegistry) (c : Call) : Except RegistryError Bool × HostRegistry → Prop
  | refused (e : RegistryError) (nothing : ∀ k, ¬c.Offers k) : Performs r c (.error e, r)
  | taken (yields : ¬c.Replaces) (there : ∀ k, c.Offers k → r.lookup k.name ≠ none) :
    Performs r c (.ok false, r)
  | kept (k : KnownUrl) (offered : c.Offers k) (heeded : c.Replaces ∨ r.lookup k.name = none) :
    Performs r c (.ok true, r.insert k.name k)

/-- Registering a pattern unless its name is taken, for a call that offers this pattern at most. -/
theorem performs_registerIfAbsent {c : Call} {pattern : String} (hYields : ¬c.Replaces)
    (hOffers : ∀ k, c.Offers k ↔ k.name = name ∧ Pattern.parse? pattern = some k.pattern) :
    Performs r c (r.registerIfAbsent name pattern) := by
  rw [registerIfAbsent]
  cases hName : r.lookup name with
  | some known =>
    refine .taken hYields fun k hk => ?_
    rw [((hOffers k).mp hk).1, hName]
    exact Option.some_ne_none known
  | none =>
    rw [compile]
    cases hParse : Pattern.parse? pattern with
    | none =>
      refine .refused _ fun k hk => ?_
      rw [((hOffers k).mp hk).2] at hParse
      cases hParse
    | some p => exact .kept ⟨name, p⟩ ((hOffers _).mpr ⟨rfl, hParse⟩) (.inr hName)

theorem performs (r : HostRegistry) (c : Call) : Performs r c (r.perform c) := by
  cases c with
  | register name pattern =>
    rw [perform, register, compile]
    cases hParse : Pattern.parse? pattern with
    | none =>
      refine .refused _ ?_
      rintro k (⟨hSome⟩ | _)
      rw [hParse] at hSome
      cases hSome
    | some p => exact .kept ⟨name, p⟩ (.register hParse) (.inl trivial)
  | registerIfAbsent name pattern =>
    refine performs_registerIfAbsent id fun k => ⟨?_, ?_⟩
    · rintro (_ | ⟨hParse⟩)
      exact ⟨rfl, hParse⟩
    · rintro ⟨rfl, hParse⟩
      exact .registerIfAbsent hParse
  | registerHost host =>
    have hHost : NormalizesTo host (normalizeHost host) := normalizesTo_iff.mpr rfl
    rw [perform, registerHost_eq hHost]
    split_ifs with hNil
    · exact .refused _ fun k hk => ((offers_registerHost_iff hHost).mp hk).1 hNil
    · refine performs_registerIfAbsent id fun k => ?_
      rw [offers_registerHost_iff hHost]
      exact and_iff_right hNil

/-- What a call makes of a registry is what it makes of the map. -/
theorem changes_toMap (r : HostRegistry) (c : Call) : c.Changes r.toMap (r.after c).toMap := by
  have hTaken : ∀ k : KnownUrl, r.toMap k.name = none ↔ r.lookup k.name = none :=
    fun _ => Option.map_eq_none_iff
  have hPerforms := r.performs c
  rw [after]
  generalize r.perform c = run at hPerforms
  cases hPerforms with
  | refused e hNothing => exact .nothing fun k hk => absurd hk (hNothing k)
  | taken hYields hThere =>
    refine .nothing fun k hk => not_or.mpr ⟨hYields, ?_⟩
    rw [hTaken]
    exact hThere k hk
  | kept k hOffered hHeeded =>
    rw [toMap_insert]
    exact .puts k hOffered (hHeeded.imp_right (hTaken k).mpr)

theorem OwnNames.after (h : r.OwnNames) (c : Call) : (r.after c).OwnNames := by
  have hPerforms := r.performs c
  rw [HostRegistry.after]
  generalize r.perform c = run at hPerforms
  cases hPerforms with
  | refused => exact h
  | taken => exact h
  | kept k => exact h.insert k

/-- A call that puts nothing into the registry leaves it as it is. -/
theorem after_of_answer_ne_true {c : Call} (h : r.answer c ≠ .ok true) : r.after c = r := by
  have hPerforms := r.performs c
  rw [answer] at h
  rw [after]
  generalize r.perform c = run at hPerforms h
  cases hPerforms with
  | refused => rfl
  | taken => rfl
  | kept => exact absurd rfl h

theorem lookup_after_of_answer_true {c : Call} (h : r.answer c = .ok true) :
    ∃ k, c.Offers k ∧ (c.Replaces ∨ r.lookup k.name = none) ∧
      ∀ name, (r.after c).lookup name = if name = k.name then some k else r.lookup name := by
  have hPerforms := r.performs c
  rw [answer] at h
  simp only [after]
  generalize r.perform c = run at hPerforms h
  cases hPerforms with
  | refused => cases h
  | taken => cases h
  | kept k hOffered hHeeded => exact ⟨k, hOffered, hHeeded, fun _ => lookup_insert r k.name k _⟩

/-- A name that is there stays there. -/
theorem mem_names_after (c : Call) (h : name ∈ r.names) : name ∈ (r.after c).names := by
  by_cases hAnswer : r.answer c = .ok true
  · obtain ⟨k, -, -, hLookup⟩ := lookup_after_of_answer_true hAnswer
    rw [mem_names_iff] at h ⊢
    rw [hLookup]
    split_ifs
    · rfl
    · exact h
  · rw [after_of_answer_ne_true hAnswer]
    exact h

/-! ### Answers -/

theorem answer_register (r : HostRegistry) (name pattern : String) :
    r.answer (.register name pattern) =
      if (Pattern.parse? pattern).isSome then .ok true else .error (.invalidPattern name) := by
  rw [answer, perform, register, compile]
  cases Pattern.parse? pattern with
  | none => rfl
  | some p => rfl

theorem answer_registerIfAbsent (r : HostRegistry) (name pattern : String) :
    r.answer (.registerIfAbsent name pattern) =
      if name ∈ r.names then .ok false
      else if (Pattern.parse? pattern).isSome then .ok true
      else .error (.invalidPattern name) := by
  rw [answer, perform, registerIfAbsent, compile, if_congr mem_names_iff rfl rfl]
  cases r.lookup name with
  | some k => rfl
  | none =>
    cases Pattern.parse? pattern with
    | none => rfl
    | some p => rfl

theorem answer_registerHost (h : NormalizesTo host cs) (r : HostRegistry) :
    r.answer (.registerHost host) =
      if cs = [] then .error .emptyHost
      else r.answer (.registerIfAbsent (patternName (String.ofList cs)) (Pattern.hostText cs)) := by
  rw [answer, perform, registerHost_eq h]
  split_ifs
  · rfl
  · rfl

/-- A host that has been registered has its name taken. -/
theorem mem_names_registerHost (h : NormalizesTo host cs)
    (hNew : r.answer (.registerHost host) = .ok true) :
    patternName (String.ofList cs) ∈ (r.after (.registerHost host)).names := by
  obtain ⟨k, hOffered, -, hLookup⟩ := lookup_after_of_answer_true hNew
  rw [mem_names_iff, hLookup, if_pos ((offers_registerHost_iff h).mp hOffered).2.1.symm]
  rfl

/-- A host that was not refused is known when the registry is told of it again. -/
theorem answer_registerHost_again {added : Bool}
    (h : r.answer (.registerHost host) = .ok added) :
    (r.after (.registerHost host)).answer (.registerHost host) = .ok false := by
  cases added with
  | false =>
    rw [after_of_answer_ne_true (by rw [h]; exact nofun)]
    exact h
  | true =>
    have hHost : NormalizesTo host (normalizeHost host) := normalizesTo_iff.mpr rfl
    have hNamed : normalizeHost host ≠ [] := by
      intro hNil
      rw [answer_registerHost hHost, if_pos hNil] at h
      cases h
    rw [answer_registerHost hHost, if_neg hNamed, answer_registerIfAbsent,
      if_pos (mem_names_registerHost hHost h)]

/-- Telling a registry of a host again changes nothing. -/
theorem after_registerHost_again (r : HostRegistry) (host : String) :
    (r.after (.registerHost host)).after (.registerHost host) = r.after (.registerHost host) := by
  cases hAnswer : r.answer (.registerHost host) with
  | ok added =>
    apply after_of_answer_ne_true
    rw [answer_registerHost_again hAnswer]
    exact nofun
  | error e =>
    have hSame : r.after (.registerHost host) = r :=
      after_of_answer_ne_true (by rw [hAnswer]; exact nofun)
    rw [hSame, hSame]

/-! ### Runs -/

theorem Call.Offers.unique {c : Call} {k k' : KnownUrl} (h : c.Offers k) (h' : c.Offers k') :
    k = k' := by
  cases h with
  | register hParse =>
    obtain ⟨hParse'⟩ := h'
    rw [Option.some.inj (hParse.symm.trans hParse')]
  | registerIfAbsent hParse =>
    obtain _ | ⟨hParse'⟩ := h'
    rw [Option.some.inj (hParse.symm.trans hParse')]
  | registerHost hHost hNamed hParse =>
    rcases k' with ⟨name, p⟩
    obtain ⟨-, rfl, hParse'⟩ := (offers_registerHost_iff hHost).mp h'
    rw [Option.some.inj (hParse.symm.trans hParse')]

theorem Call.Offers.iff_eq {c : Call} {k' : KnownUrl} (h : c.Offers k) : c.Offers k' ↔ k' = k :=
  ⟨fun h' => h'.unique h, fun hEq => hEq ▸ h⟩

theorem Call.Changes.unique {c : Call} {m m' m'' : String → Option Pattern} (h : c.Changes m m')
    (h' : c.Changes m m'') : m' = m'' := by
  cases h with
  | puts k hOffered hHeeded =>
    cases h' with
    | puts k' hOffered' => rw [hOffered.unique hOffered']
    | nothing hNothing => exact absurd hHeeded (hNothing k hOffered)
  | nothing hNothing =>
    cases h' with
    | puts k hOffered hHeeded => exact absurd hHeeded (hNothing k hOffered)
    | nothing => rfl

/-- Calls make one map of a map. -/
theorem MapRun.unique {m m' m'' : String → Option Pattern} {cs : List Call} (h : MapRun m cs m')
    (h' : MapRun m cs m'') : m' = m'' := by
  induction h with
  | nil m =>
    cases h'
    rfl
  | cons hFirst hRest ih =>
    obtain _ | ⟨hFirst', hRest'⟩ := h'
    rw [← hFirst.unique hFirst'] at hRest'
    exact ih hRest'

theorem mapRun_afterAll (r : HostRegistry) (cs : List Call) :
    MapRun r.toMap cs (r.afterAll cs).toMap := by
  induction cs generalizing r with
  | nil => exact .nil _
  | cons c cs ih => exact .cons (r.changes_toMap c) (ih _)

theorem OwnNames.afterAll (h : r.OwnNames) (cs : List Call) : (r.afterAll cs).OwnNames := by
  induction cs generalizing r with
  | nil => exact h
  | cons c cs ih => exact ih (h.after c)

/-- The call registers a host, and finds that it was unknown. -/
def discovers (host : List Char) : Call × Except RegistryError Bool → Bool
  | (.registerHost h, .ok true) => decide (NormalizesTo h host)
  | _ => false

theorem discovers_iff {c : Call} {a : Except RegistryError Bool} :
    discovers cs (c, a) = true ↔
      ∃ host, c = .registerHost host ∧ NormalizesTo host cs ∧ a = .ok true := by
  cases c with
  | registerHost name =>
    rcases a with e | b
    · simp [discovers]
    · cases b <;> simp [discovers]
  | _ => simp [discovers]

/-- A host whose name is taken is never found to be unknown. -/
theorem countP_discovers_of_mem (h : patternName (String.ofList cs) ∈ r.names)
    (calls : List Call) : (r.log calls).countP (discovers cs) = 0 := by
  induction calls generalizing r with
  | nil => rfl
  | cons c calls ih =>
    have hFirst : discovers cs (c, r.answer c) ≠ true := by
      intro hDiscovers
      obtain ⟨host, rfl, hHost, hAnswer⟩ := discovers_iff.mp hDiscovers
      rw [answer_registerHost hHost, answer_registerIfAbsent, if_pos h] at hAnswer
      split_ifs at hAnswer
      cases hAnswer
    rw [log, List.countP_cons_of_neg hFirst]
    exact ih (mem_names_after c h)

theorem countP_discovers_le_one (r : HostRegistry) (cs : List Char) (calls : List Call) :
    (r.log calls).countP (discovers cs) ≤ 1 := by
  induction calls generalizing r with
  | nil => exact Nat.zero_le 1
  | cons c calls ih =>
    rw [log]
    by_cases hFirst : discovers cs (c, r.answer c) = true
    · -- The host has been registered now, so nothing that follows finds it unknown.
      obtain ⟨host, rfl, hHost, hAnswer⟩ := discovers_iff.mp hFirst
      have hRest := countP_discovers_of_mem (mem_names_registerHost hHost hAnswer) calls
      rw [List.countP_cons_of_pos hFirst]
      omega
    · rw [List.countP_cons_of_neg hFirst]
      exact ih _

/-! ### The laws of a registry -/

/-- The names of a registry are those that patterns stand under, each once and in order, and every
pattern stands under its own name. -/
structure WellNamed (r : HostRegistry) : Prop where
  own_name : ∀ name k, (name, k) ∈ r.entries → k.name = name
  found : ∀ name k, r.lookup name = some k ↔ (name, k) ∈ r.entries
  ascending : r.names.Pairwise (· < ·)
  mem_iff : ∀ name, name ∈ r.names ↔ ∃ k, (name, k) ∈ r.entries
  size : r.size = r.names.length
  isEmpty_iff : r.isEmpty = true ↔ r.names = []

theorem wellNamed (h : r.OwnNames) : r.WellNamed where
  own_name := h
  found _ _ := mem_entries_iff.symm
  ascending := r.names_ascending
  mem_iff _ := by simp only [mem_names_iff, mem_entries_iff, Option.isSome_iff_exists]
  size := r.size_eq_length_names
  isEmpty_iff := isEmpty_iff_names_eq_nil

/-- What calls answer and what they change. A call that is heeded puts its pattern under its name,
and any other call, whether it fails or finds the name taken, leaves the registry as it is. -/
structure Heeds (r : HostRegistry) : Prop where
  names_stay : ∀ c, ∀ name ∈ r.names, name ∈ (r.after c).names
  unchanged_of_error : ∀ c e, r.answer c = .error e → r.after c = r
  unchanged_of_false : ∀ c, r.answer c = .ok false → r.after c = r
  register_iff : ∀ name pattern, r.answer (.register name pattern) = .ok true ↔
    (Pattern.parse? pattern).isSome
  registerIfAbsent_iff : ∀ name pattern, r.answer (.registerIfAbsent name pattern) = .ok true ↔
    name ∉ r.names ∧ (Pattern.parse? pattern).isSome
  registerIfAbsent_taken : ∀ name ∈ r.names, ∀ pattern,
    r.answer (.registerIfAbsent name pattern) = .ok false
  registerHost_empty_iff : ∀ host, r.answer (.registerHost host) = .error .emptyHost ↔
    NormalizesTo host []
  registerHost_named : ∀ host cs, NormalizesTo host cs → cs ≠ [] →
    r.answer (.registerHost host) =
      r.answer (.registerIfAbsent (patternName (String.ofList cs)) (Pattern.hostText cs))
  lookup_after : ∀ c, r.answer c = .ok true → ∃ k, c.Offers k ∧
    (c.Replaces ∨ r.lookup k.name = none) ∧
    ∀ name, (r.after c).lookup name = if name = k.name then some k else r.lookup name

theorem heeds (r : HostRegistry) : r.Heeds where
  names_stay c _ h := mem_names_after c h
  unchanged_of_error _ _ h := after_of_answer_ne_true (by simp [h])
  unchanged_of_false _ h := after_of_answer_ne_true (by simp [h])
  register_iff name pattern := by
    rw [answer_register]
    split <;> simp_all
  registerIfAbsent_iff name pattern := by
    rw [answer_registerIfAbsent]
    split_ifs <;> simp_all
  registerIfAbsent_taken name h pattern := by
    rw [answer_registerIfAbsent, if_pos h]
  registerHost_empty_iff host := by
    have hHost : NormalizesTo host (normalizeHost host) := normalizesTo_iff.mpr rfl
    rw [answer_registerHost hHost, answer_registerIfAbsent, normalizesTo_iff]
    split_ifs <;> simp_all
  registerHost_named _ _ h hNamed := by
    rw [answer_registerHost h, if_neg hNamed]
  lookup_after _ h := lookup_after_of_answer_true h

/-- After any calls the registry is the map that the calls make one after the other, its names are
in order, every further call is heeded by the rules, and no host has been found unknown twice. -/
theorem registrations_refine_map (calls : List Call) :
    MapRun (fun _ => none) calls (empty.afterAll calls).toMap ∧
      (empty.afterAll calls).WellNamed ∧ (empty.afterAll calls).Heeds ∧
      ∀ host, (empty.log calls).countP (discovers host) ≤ 1 :=
  ⟨mapRun_afterAll empty calls, wellNamed (ownNames_empty.afterAll calls), heeds _,
    fun host => countP_discovers_le_one empty host calls⟩

end Worklist.HostRegistry
