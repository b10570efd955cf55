import Mathlib.Data.List.Basic
import Worklist.Storage.Path

/-!
# Parts of paths

What a path leads through follows from the texts between its slashes. The directory that a path
stands in leads through all names but the last one, and the path beside it differs in that name.
-/

namespace Worklist

namespace Text

variable {sep : Char} {cs ds piece : List Char}

theorem split_append (h : sep ∉ cs) : split sep (cs ++ sep :: ds) = cs :: split sep ds := by
  induction cs with
  | nil => rw [List.nil_append, split, if_pos rfl]
  | cons c cs ih =>
    have hc : c ≠ sep := fun hc => h (hc ▸ List.mem_cons_self)
    rw [List.cons_append, split, if_neg hc, ih fun hm => h (List.mem_cons_of_mem _ hm)]

theorem not_mem_of_mem_split (h : piece ∈ split sep cs) : sep ∉ piece := by
  induction cs generalizing piece with
  | nil =>
    obtain rfl : piece = [] := List.mem_singleton.mp h
    exact List.not_mem_nil
  | cons c cs ih =>
    rw [split] at h
    split at h
    · rcases List.mem_cons.mp h with rfl | h
      · exact List.not_mem_nil
      · exact ih h
    · rename_i hc
      split at h
      · obtain rfl : piece = [c] := List.mem_singleton.mp h
        exact fun hm => hc (List.mem_singleton.mp hm).symm
      · rename_i first others hSplit
        rw [hSplit] at ih
        rcases List.mem_cons.mp h with rfl | h
        · intro hm
          rcases List.mem_cons.mp hm with hEq | hm
          · exact hc hEq.symm
          · exact ih List.mem_cons_self hm
        · exact ih (List.mem_cons_of_mem _ h)

theorem split_intercalate {pieces : List (List Char)} (hne : pieces ≠ [])
    (h : ∀ piece ∈ pieces, sep ∉ piece) : split sep ([sep].intercalate pieces) = pieces := by
  induction pieces with
  | nil => exact absurd rfl hne
  | cons piece pieces ih =>
    have hFirst := h piece List.mem_cons_self
    cases pieces with
    | nil => rw [List.intercalate_singleton, split_of_not_mem hFirst]
    | cons next pieces =>
      rw [List.intercalate_cons_cons, List.append_assoc, List.singleton_append,
        split_append hFirst,
        ih (List.cons_ne_nil _ _) fun piece hp => h piece (List.mem_cons_of_mem _ hp)]

theorem intercalate_split (sep : Char) (cs : List Char) :
    [sep].intercalate (split sep cs) = cs := by
  induction cs with
  | nil => rfl
  | cons c cs ih =>
    obtain ⟨piece, pieces, hSplit⟩ := List.exists_cons_of_ne_nil (split_ne_nil sep cs)
    rw [hSplit] at ih
    rw [split, hSplit]
    split
    · rename_i hc
      rw [List.intercalate_cons_cons, ih, hc]
      rfl
    · cases pieces with
      | nil =>
        rw [List.intercalate_singleton] at ih ⊢
        rw [ih]
      | cons next pieces =>
        rw [List.intercalate_cons_cons] at ih ⊢
        rw [← ih]
        rfl

end Text

namespace Path

variable {p q : Path}

/-! ### Texts between slashes -/

theorem not_mem_of_mem_pieces {piece : List Char} (h : piece ∈ p.pieces) : '/' ∉ piece :=
  Text.not_mem_of_mem_split h

theorem pieces_ofPieces {pieces : List (List Char)} (hne : pieces ≠ [])
    (h : ∀ piece ∈ pieces, '/' ∉ piece) : (ofPieces pieces).pieces = pieces := by
  rw [Path.pieces, ofPieces, String.toList_ofList, Text.split_intercalate hne h]

theorem ofPieces_pieces (p : Path) : ofPieces p.pieces = p := by
  rw [ofPieces, Path.pieces, Text.intercalate_split, String.ofList_toList]

theorem isAbsolute_iff : p.isAbsolute = true ↔ ∃ piece rest, p.pieces = [] :: piece :: rest := by
  unfold isAbsolute Path.pieces
  cases p.text.toList with
  | nil => simp [Text.split]
  | cons c cs =>
    obtain ⟨piece, pieces, hSplit⟩ := List.exists_cons_of_ne_nil (Text.split_ne_nil '/' cs)
    rw [Text.split, hSplit]
    by_cases hc : c = '/'
    · simp [hc]
    · simp [hc]

/-- The names among texts between slashes. -/
def namesOf (pieces : List (List Char)) : List String :=
  (pieces.filter leadsOn).map String.ofList

theorem namesOf_append (ps qs : List (List Char)) :
    namesOf (ps ++ qs) = namesOf ps ++ namesOf qs := by
  rw [namesOf, List.filter_append, List.map_append]
  rfl

theorem namesOf_eq_nil {ps : List (List Char)} (h : ∀ piece ∈ ps, leadsOn piece = false) :
    namesOf ps = [] := by
  have hNone : ps.filter leadsOn = [] := by
    apply List.filter_eq_nil_iff.mpr
    intro piece hp
    rw [h piece hp]
    exact Bool.false_ne_true
  rw [namesOf, hNone, List.map_nil]

theorem namesOf_singleton {piece : List Char} (h : leadsOn piece = true) :
    namesOf [piece] = [String.ofList piece] := by
  rw [namesOf, List.filter_cons_of_pos h]
  rfl

theorem names_ofPieces {pieces : List (List Char)} (hne : pieces ≠ [])
    (h : ∀ piece ∈ pieces, '/' ∉ piece) : (ofPieces pieces).names = namesOf pieces := by
  rw [names, pieces_ofPieces hne h, namesOf]

theorem ne_nil_of_leadsOn {piece : List Char} (h : leadsOn piece = true) : piece ≠ [] := by
  rintro rfl
  cases h

/-! ### Up to the last name -/

/-- A path without a name, or one with the given last name, with what stands above it (the last
text first) and with what follows it. -/
inductive Shape (p : Path) : Prop where
  | nameless (backwards_eq : p.backwards = []) (names_eq : p.names = [])
      (endsOpen_eq : p.endsOpen = true)
  | named (name : List Char) (above rest : List (List Char))
      (backwards_eq : p.backwards = name :: above) (leads : leadsOn name = true)
      (closes : ∀ piece ∈ rest, leadsOn piece = false)
      (pieces_eq : p.pieces = above.reverse ++ name :: rest)

theorem shape (p : Path) : p.Shape := by
  have hParts := List.takeWhile_append_dropWhile (p := (!leadsOn ·)) (l := p.pieces.reverse)
  have hClosed : ∀ piece ∈ p.pieces.reverse.takeWhile (!leadsOn ·), leadsOn piece = false := by
    intro piece hp
    have hAll := List.all_takeWhile (p := (!leadsOn ·)) (l := p.pieces.reverse)
    simpa using List.all_eq_true.mp hAll piece hp
  cases hBack : p.backwards with
  | nil =>
    have hNone := hBack
    rw [backwards] at hNone
    rw [hNone, List.append_nil] at hParts
    rw [hParts] at hClosed
    have hClosed : ∀ piece ∈ p.pieces, leadsOn piece = false :=
      fun piece hp => hClosed piece (List.mem_reverse.mpr hp)
    refine .nameless hBack (namesOf_eq_nil hClosed) ?_
    unfold endsOpen
    split
    · rename_i piece hLast
      rw [hClosed piece (List.mem_of_getLast? hLast)]
      rfl
    · rfl
  | cons name above =>
    have hSome := hBack
    rw [backwards] at hSome
    have hLeads : leadsOn name = true := by
      have hHead := List.head?_dropWhile_not (!leadsOn ·) p.pieces.reverse
      rw [hSome] at hHead
      simpa using hHead
    rw [hSome] at hParts
    refine .named name above (p.pieces.reverse.takeWhile (!leadsOn ·)).reverse hBack hLeads ?_ ?_
    · intro piece hp
      exact hClosed piece (List.mem_reverse.mp hp)
    · have hReverse := congrArg List.reverse hParts
      rw [List.reverse_reverse, List.reverse_append, List.reverse_cons, List.append_assoc,
        List.singleton_append] at hReverse
      exact hReverse.symm

section Named

variable {name : List Char} {above rest : List (List Char)}
  (hCloses : ∀ piece ∈ rest, leadsOn piece = false)
  (hPieces : p.pieces = above.reverse ++ name :: rest)

include hCloses hPieces

theorem names_of_pieces (hLeads : leadsOn name = true) :
    p.names = namesOf above.reverse ++ [String.ofList name] := by
  change namesOf p.pieces = _
  rw [hPieces, List.append_cons, namesOf_append, namesOf_append, namesOf_singleton hLeads,
    namesOf_eq_nil hCloses, List.append_nil]

theorem eq_ofPieces_of_not_endsOpen (hOpen : p.endsOpen = false) :
    p = ofPieces (above.reverse ++ [name]) := by
  have hRest : rest = [] := by
    by_contra hne
    have hLast : p.pieces.getLast? = some (rest.getLast hne) := by
      rw [hPieces, List.append_cons, List.getLast?_append_of_ne_nil _ hne,
        List.getLast?_eq_getLast_of_ne_nil hne]
    rw [endsOpen, hLast] at hOpen
    dsimp only at hOpen
    rw [hCloses _ (List.getLast_mem hne)] at hOpen
    cases hOpen
  rw [hRest] at hPieces
  rw [← hPieces, ofPieces_pieces]

end Named

/-! ### Directories -/

/-- A path starts where another one does that has the same texts up to a name. -/
theorem isAbsolute_ofPieces {pieces rest : List (List Char)} {name other : List Char}
    (hPieces : p.pieces = pieces ++ other :: rest) (hOther : leadsOn other = true)
    (hName : leadsOn name = true) (hSlash : ∀ piece ∈ pieces ++ [name], '/' ∉ piece) :
    (ofPieces (pieces ++ [name])).isAbsolute = p.isAbsolute := by
  have hne : pieces ++ [name] ≠ [] := by simp
  have hGiven := pieces_ofPieces hne hSlash
  apply Bool.eq_iff_iff.mpr
  rw [isAbsolute_iff, isAbsolute_iff, hPieces, hGiven]
  cases pieces with
  | nil =>
    constructor
    · rintro ⟨piece, rest, hEq⟩
      exact absurd (List.cons.inj hEq).1 (ne_nil_of_leadsOn hName)
    · rintro ⟨piece, rest, hEq⟩
      exact absurd (List.cons.inj hEq).1 (ne_nil_of_leadsOn hOther)
  | cons first pieces =>
    have hMore : ∀ last tail, ∃ piece rest, pieces ++ last :: tail = piece :: rest :=
      fun last tail => List.exists_cons_of_ne_nil (by simp)
    constructor
    · rintro ⟨piece, rest', hEq⟩
      obtain ⟨rfl, -⟩ := List.cons.inj hEq
      obtain ⟨piece, tail, hTail⟩ := hMore other rest
      exact ⟨piece, tail, congrArg _ hTail⟩
    · rintro ⟨piece, rest', hEq⟩
      obtain ⟨rfl, -⟩ := List.cons.inj hEq
      obtain ⟨piece, tail, hTail⟩ := hMore name []
      exact ⟨piece, tail, congrArg _ hTail⟩

theorem ofPieces_of_prefix {pieces : List (List Char)} {name : List Char}
    (hPrefix : pieces ++ [name] <+: p.pieces) (hLeads : leadsOn name = true) :
    (ofPieces (pieces ++ [name])).names = namesOf pieces ++ [String.ofList name] ∧
      (ofPieces (pieces ++ [name])).isAbsolute = p.isAbsolute := by
  have hne : pieces ++ [name] ≠ [] := by simp
  have hSlash : ∀ piece ∈ pieces ++ [name], '/' ∉ piece :=
    fun piece hp => not_mem_of_mem_pieces (hPrefix.subset hp)
  obtain ⟨rest, hRest⟩ := hPrefix
  have hPieces : p.pieces = pieces ++ name :: rest := by
    rw [← hRest, List.append_assoc]
    rfl
  refine ⟨?_, isAbsolute_ofPieces hPieces hLeads hLeads hSlash⟩
  rw [names_ofPieces hne hSlash, namesOf_append, namesOf_singleton hLeads]

theorem ancestorsOf_prefix {pieces : List (List Char)} (hPrefix : pieces.reverse <+: p.pieces)
    {a : Path} (ha : a ∈ ancestorsOf pieces) :
    a.names <+: namesOf pieces.reverse ∧ a.isAbsolute = p.isAbsolute := by
  induction pieces with
  | nil => cases ha
  | cons piece above ih =>
    rw [List.reverse_cons] at hPrefix
    have hAbove : a ∈ ancestorsOf above →
        a.names <+: namesOf (piece :: above).reverse ∧ a.isAbsolute = p.isAbsolute := by
      intro ha
      obtain ⟨hNames, hAbsolute⟩ := ih ((List.prefix_append _ _).trans hPrefix) ha
      rw [List.reverse_cons, namesOf_append]
      exact ⟨hNames.trans (List.prefix_append _ _), hAbsolute⟩
    rw [ancestorsOf] at ha
    split at ha
    · rename_i hLeads
      rcases List.mem_cons.mp ha with rfl | ha
      · rw [List.reverse_cons]
        obtain ⟨hNames, hAbsolute⟩ := ofPieces_of_prefix hPrefix hLeads
        rw [hNames, namesOf_append, namesOf_singleton hLeads]
        exact ⟨List.prefix_rfl, hAbsolute⟩
      · exact hAbove ha
    · exact hAbove ha

theorem ancestors_prefix {a : Path} (ha : a ∈ p.ancestors) :
    a.names <+: p.names ∧ a.isAbsolute = p.isAbsolute := by
  have hPrefix : p.pieces.reverse.reverse <+: p.pieces :=
    ⟨[], by rw [List.append_nil, List.reverse_reverse]⟩
  have hNames := ancestorsOf_prefix hPrefix ha
  rw [List.reverse_reverse] at hNames
  exact hNames

theorem isAbsolute_origin (p : Path) : p.origin.isAbsolute = p.isAbsolute := by
  unfold origin
  split_ifs with hAbsolute hDot
  · rw [hAbsolute]
    rfl
  · rw [Bool.not_eq_true] at hAbsolute
    rw [hAbsolute]
    rfl
  · rw [Bool.not_eq_true] at hAbsolute
    rw [hAbsolute]
    rfl

theorem names_origin (p : Path) : p.origin.names = [] := by
  unfold origin
  split_ifs
  · rfl
  · rfl
  · rfl

/-- The directory that a path stands in starts where the path does and leads through all names but
the last one. -/
theorem parent?_eq_some {parent : Path} (h : p.parent? = some parent) :
    parent.names = p.names.dropLast ∧ parent.isAbsolute = p.isAbsolute := by
  rcases p.shape with ⟨hBack, hNames, -⟩ | ⟨name, above, rest, hBack, hLeads, hCloses, hPieces⟩
  · rw [parent?, hBack] at h
    dsimp only at h
    split_ifs at h with hRoot
    cases h
    rw [not_or] at hRoot
    rw [hNames, Bool.not_eq_true _ |>.mp hRoot.1]
    exact ⟨rfl, rfl⟩
  · have hNames := names_of_pieces hCloses hPieces hLeads
    have hParts := List.takeWhile_append_dropWhile (p := (!leadsOn ·)) (l := above)
    have hClosed : ∀ piece ∈ (above.takeWhile (!leadsOn ·)).reverse, leadsOn piece = false := by
      intro piece hp
      have hAll := List.all_takeWhile (p := (!leadsOn ·)) (l := above)
      simpa using List.all_eq_true.mp hAll piece (List.mem_reverse.mp hp)
    have hAbove : namesOf above.reverse =
        namesOf (above.dropWhile (!leadsOn ·)).reverse := by
      conv_lhs => rw [← hParts]
      rw [List.reverse_append, namesOf_append, namesOf_eq_nil hClosed, List.append_nil]
    rw [hNames, List.dropLast_concat, hAbove]
    rw [parent?, hBack] at h
    dsimp only at h
    split at h
    · rename_i hNone
      cases h
      rw [hNone]
      exact ⟨p.names_origin, p.isAbsolute_origin⟩
    · cases h
      cases hSome : above.dropWhile (!leadsOn ·) with
      | nil => contradiction
      | cons last above' =>
        have hLast : leadsOn last = true := by
          have hHead := List.head?_dropWhile_not (!leadsOn ·) above
          rw [hSome] at hHead
          simpa using hHead
        have hPrefix : above'.reverse ++ [last] <+: p.pieces := by
          rw [hPieces, ← hParts, hSome, List.reverse_append, List.reverse_cons]
          exact (List.prefix_append _ _).trans (List.prefix_append _ _)
        rw [List.reverse_cons, namesOf_append, namesOf_singleton hLast]
        exact ofPieces_of_prefix hPrefix hLast

/-! ### Beside a path -/

theorem mem_of_mem_stem {name : List Char} {c : Char} (h : c ∈ stem name) : c ∈ name := by
  unfold stem at h
  split at h
  · exact h
  · have hDrop := List.mem_reverse.mp h
    exact List.mem_reverse.mp ((List.dropWhile_sublist _).subset (List.mem_of_mem_drop hDrop))

theorem stem_ne_nil {name : List Char} (h : name ≠ []) : stem name ≠ [] := by
  unfold stem
  split
  · exact h
  · rename_i hRest
    exact fun hNil => hRest (List.reverse_eq_nil_iff.mp hNil)

/-- A name with another extension. -/
def renamed (extension : String) (name : String) : String :=
  String.ofList (stem name.toList) ++ "." ++ extension

/-- What the path beside a path is: the path itself where it has no name of its own, or a path that
differs in the last name. -/
inductive Beside (p : Path) (extension : String) : Prop where
  | itself (eq : p.withExtension extension = p)
      (last : p.endsOpen = true ∨ p.names.getLast? = some "..")
  | renamed (names : List String) (name : String) (names_eq : p.names = names ++ [name])
      (not_up : name ≠ "..")
      (beside_eq : (p.withExtension extension).names = names ++ [renamed extension name])
      (absolute_eq : (p.withExtension extension).isAbsolute = p.isAbsolute)
      (own : renamed extension name = name → p.endsOpen = false → p.withExtension extension = p)

theorem beside {extension : String} (hSlash : '/' ∉ extension.toList) (p : Path) :
    p.Beside extension := by
  rcases p.shape with ⟨hBack, -, hOpen⟩ | ⟨name, above, rest, hBack, hLeads, hCloses, hPieces⟩
  · refine .itself ?_ (.inl hOpen)
    rw [withExtension, hBack]
  have hNames := names_of_pieces hCloses hPieces hLeads
  by_cases hUp : name = ['.', '.']
  · refine .itself ?_ (.inr ?_)
    · rw [withExtension, hBack]
      exact if_pos hUp
    · rw [hNames, hUp, List.getLast?_concat]
  have hBeside : p.withExtension extension =
      ofPieces (above.reverse ++ [stem name ++ '.' :: extension.toList]) := by
    rw [withExtension, hBack]
    dsimp only
    rw [if_neg hUp, List.reverse_cons]
  have hRenamed : Path.renamed extension (String.ofList name) =
      String.ofList (stem name ++ '.' :: extension.toList) := by
    apply String.toList_inj.mp
    simp [Path.renamed]
  have hNew : leadsOn (stem name ++ '.' :: extension.toList) = true := by
    obtain ⟨c, cs, hStem⟩ := List.exists_cons_of_ne_nil (stem_ne_nil (ne_nil_of_leadsOn hLeads))
    rw [hStem]
    simp [leadsOn]
  have hSlashes : ∀ piece ∈ above.reverse ++ [stem name ++ '.' :: extension.toList],
      '/' ∉ piece := by
    intro piece hp
    rcases List.mem_append.mp hp with hp | hp
    · apply not_mem_of_mem_pieces (p := p)
      rw [hPieces]
      exact List.mem_append_left _ hp
    · obtain rfl := List.mem_singleton.mp hp
      have hName : '/' ∉ name := by
        apply not_mem_of_mem_pieces (p := p)
        rw [hPieces]
        exact List.mem_append_right _ List.mem_cons_self
      intro hm
      rcases List.mem_append.mp hm with hm | hm
      · exact hName (mem_of_mem_stem hm)
      · rcases List.mem_cons.mp hm with hm | hm
        · cases hm
        · exact hSlash hm
  refine .renamed (namesOf above.reverse) (String.ofList name) hNames ?_ ?_ ?_ ?_
  · intro hEq
    apply hUp
    exact String.ofList_injective hEq
  · rw [hBeside, names_ofPieces (by simp) hSlashes, namesOf_append, namesOf_singleton hNew,
      hRenamed]
  · rw [hBeside]
    exact isAbsolute_ofPieces hPieces hLeads hNew hSlashes
  · intro hOwn hOpen
    rw [hRenamed] at hOwn
    rw [hBeside, String.ofList_injective hOwn]
    exact (eq_ofPieces_of_not_endsOpen hCloses hPieces hOpen).symm

end Path

end Worklist
