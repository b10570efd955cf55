import Worklist.Proofs.Storage.FileTree

/-!
# Directories that are made

Making a directory together with those above it adds directories where there was nothing, along one
path, and changes nothing else. What was made before a later one failed stays, and a path may come
to lead through it, but only one that leads up or has a name that is too long comes to something
else than before.
-/

namespace Worklist.FileTree

variable {t u : FileTree} {place q r : List String} {names : List String} {p : Path}

/-! ### Making directories -/

/-- What there is to know of a directory that has been made. -/
theorem makeDirectory_eq_ok (h : t.makeDirectory p = .ok u) : ∃ place,
    t.locate p = .ok place ∧ t.entry place = none ∧ u = t.put place (some .directory) := by
  rw [makeDirectory] at h
  obtain ⟨place, hLocate, h⟩ := bind_eq_ok_iff.mp h
  refine ⟨place, hLocate, ?_⟩
  split at h
  · cases h
  · rename_i hEntry
    exact ⟨hEntry, (grant_eq_ok.mp h).2⟩

/-- Directories stand at some of the given places where nothing stood, and nothing else is new. -/
structure MakesDirectories (places : List (List String)) (t u : FileTree) : Prop where
  workingDirectory_eq : u.workingDirectory = t.workingDirectory
  refusal_eq : u.refusal = t.refusal
  entry : ∀ q, u.entry q = t.entry q ∨
    t.entry q = none ∧ u.entry q = some .directory ∧ q ∈ places
  isTree : t.IsTree → u.IsTree

namespace MakesDirectories

variable {places : List (List String)}

theorem refl (t : FileTree) : MakesDirectories places t t :=
  ⟨rfl, rfl, fun _ => .inl rfl, id⟩

theorem trans {v : FileTree} (h : MakesDirectories places t u) (h' : MakesDirectories places u v) :
    MakesDirectories places t v := by
  refine ⟨h'.workingDirectory_eq.trans h.workingDirectory_eq, h'.refusal_eq.trans h.refusal_eq, ?_,
    h'.isTree ∘ h.isTree⟩
  intro q
  rcases h.entry q with hSame | ⟨hNone, hMade, hq⟩
  · rcases h'.entry q with hSame' | ⟨hNone, hMade, hq⟩
    · exact .inl (hSame'.trans hSame)
    · exact .inr ⟨hSame.symm.trans hNone, hMade, hq⟩
  · rcases h'.entry q with hSame' | ⟨hNone', -, -⟩
    · exact .inr ⟨hNone, hSame'.trans hMade, hq⟩
    · rw [hMade] at hNone'
      cases hNone'

theorem entry_of_some (h : MakesDirectories places t u) {e : Entry} (hq : t.entry q = some e) :
    u.entry q = some e := by
  rcases h.entry q with hSame | ⟨hNone, -, -⟩
  · exact hSame.trans hq
  · rw [hq] at hNone
    cases hNone

theorem keeps (h : MakesDirectories places t u) : t.Keeps u :=
  ⟨h.workingDirectory_eq, fun _ hq => h.entry_of_some hq⟩

/-- Nothing has been made where all the places were directories. -/
theorem entry_eq (h : MakesDirectories places t u)
    (hThere : ∀ q ∈ places, t.entry q = some .directory) (q : List String) :
    u.entry q = t.entry q := by
  rcases h.entry q with hSame | ⟨hNone, -, hq⟩
  · exact hSame
  · rw [hThere q hq] at hNone
    cases hNone

end MakesDirectories

theorem placesAlong_eq (t : FileTree) (p : Path) :
    t.placesAlong p = placesFrom (t.start p) p.names :=
  rfl

theorem placesAlong_congr (h : u.workingDirectory = t.workingDirectory) (p : Path) :
    u.placesAlong p = t.placesAlong p := by
  rw [placesAlong_eq, placesAlong_eq, start_congr h]

/-- A path that begins another one: it starts where that does, with the same names. -/
def Begins (a p : Path) : Prop :=
  a.names <+: p.names ∧ a.isAbsolute = p.isAbsolute

theorem makesDirectories_of_makeDirectory {a : Path} (hBegins : Begins a p)
    (h : t.makeDirectory a = .ok u) : MakesDirectories (t.placesAlong p) t u := by
  obtain ⟨place, hLocate, hNone, rfl⟩ := makeDirectory_eq_ok h
  have hFree : t.entry place ≠ some .directory := by
    rw [hNone]
    exact nofun
  have hAlong : place ∈ t.placesAlong p := by
    have hStart : t.start a = t.start p := by
      rw [start, start, hBegins.2]
    have hWalk := walk_mem_placesFrom (walk_of_locate hLocate)
    rw [hStart] at hWalk
    exact placesFrom_subset_of_prefix hBegins.1 hWalk
  refine ⟨rfl, rfl, ?_, fun hTree => hTree.put_directory hNone (hTree.locate hLocate)⟩
  intro q
  by_cases hq : q = place
  · rw [hq, entry_put_self (ne_nil_of_entry_ne hFree)]
    exact .inr ⟨hNone, rfl, hAlong⟩
  · exact .inl (entry_put_of_ne hq _)

theorem makesDirectories_up {paths : List Path} (h : ∀ a ∈ paths, Begins a p) :
    MakesDirectories (t.placesAlong p) t (t.makeDirectoriesUp paths).2 := by
  -- All the paths begin the first one, so whatever is made stands along that one.
  induction paths with
  | nil => exact .refl t
  | cons a above ih =>
    have hBegins := h a List.mem_cons_self
    rw [makeDirectoriesUp]
    split
    · rename_i made hMade
      exact makesDirectories_of_makeDirectory hBegins hMade
    · have hAbove := ih fun b hb => h b (List.mem_cons_of_mem _ hb)
      split
      · rename_i fault u hUp
        rw [hUp] at hAbove
        exact hAbove
      · rename_i u hUp
        rw [hUp] at hAbove
        split
        · rename_i made hMade
          have hLast := makesDirectories_of_makeDirectory hBegins hMade
          rw [placesAlong_congr hAbove.workingDirectory_eq] at hLast
          exact hAbove.trans hLast
        · dsimp only
          split_ifs
          · exact hAbove
          · exact hAbove
    · dsimp only
      split_ifs
      · exact .refl t
      · exact .refl t

/-- Making a directory changes nothing but the places along its path. -/
theorem makesDirectories (t : FileTree) (p : Path) :
    MakesDirectories (t.placesAlong p) t (t.makeDirectories p).2 := by
  unfold makeDirectories
  split
  · exact .refl t
  · exact makesDirectories_up fun _ ha => Path.ancestors_prefix ha

/-! ### Missing directories -/

theorem length_le_of_mem_placesFrom (hUp : ".." ∉ names) (hq : q ∈ placesFrom place names) :
    q.length ≤ place.length + names.length := by
  induction names generalizing place with
  | nil =>
    obtain rfl : q = place := List.mem_singleton.mp hq
    exact Nat.le_refl _
  | cons name names ih =>
    rw [List.mem_cons, not_or] at hUp
    rw [placesFrom, if_neg (Ne.symm hUp.1)] at hq
    rw [List.length_cons]
    rcases List.mem_cons.mp hq with rfl | hq
    · omega
    · have hRest := ih hUp.2 hq
      rw [List.length_append, List.length_singleton] at hRest
      omega

theorem walk_cons_of_directory {name : String} (hEntry : t.entry place = some .directory)
    (hUp : name ≠ "..") : t.walk place (name :: names) =
      if maxNameSize < name.utf8ByteSize then .error .nameTooLong
      else t.walk (place ++ [name]) names := by
  rw [walk, hEntry]
  dsimp only
  rw [if_neg hUp]

/-- A name that no directory can keep. -/
def HasLongName (names : List String) : Prop :=
  ∃ name ∈ names, maxNameSize < name.utf8ByteSize

theorem HasLongName.cons {name : String} (h : HasLongName names) : HasLongName (name :: names) := by
  obtain ⟨long, hMem, hLong⟩ := h
  exact ⟨long, List.mem_cons_of_mem _ hMem, hLong⟩

section Missing

variable {places : List (List String)} (hTree : t.IsTree) (hMade : MakesDirectories places t u)

include hTree hMade

/-- Where there was nothing, there still is nothing at the end of the names, as long as directories
are made above it only. -/
theorem walk_of_missing (hUp : ".." ∉ names)
    (hAbove : ∀ q ∈ places, q.length < place.length + names.length) (hNone : t.entry place = none) :
    (∃ fault, u.walk place names = .error fault ∧ (fault = .notFound ∨ HasLongName names)) ∨
      ∃ r, u.walk place names = .ok r ∧ u.entry r = none := by
  induction names generalizing place with
  | nil =>
    right
    refine ⟨place, rfl, ?_⟩
    rcases hMade.entry place with hSame | ⟨-, -, hMem⟩
    · exact hSame.trans hNone
    · have hLength := hAbove place hMem
      rw [List.length_nil] at hLength
      omega
  | cons name names ih =>
    rw [List.mem_cons, not_or] at hUp
    -- Nothing stands below what is missing; if a directory is made here, the names lead on in it.
    have hBelow : t.entry (place ++ [name]) = none := by
      by_contra hSome
      have hDirectory := hTree.above place name hSome
      rw [hNone] at hDirectory
      cases hDirectory
    rcases hMade.entry place with hSame | ⟨-, hNew, -⟩
    · left
      rw [walk, hSame, hNone]
      exact ⟨_, rfl, .inl rfl⟩
    · rw [walk_cons_of_directory hNew (Ne.symm hUp.1)]
      split_ifs with hLong
      · exact .inl ⟨_, rfl, .inr ⟨name, List.mem_cons_self, hLong⟩⟩
      · have hAbove' : ∀ q ∈ places, q.length < (place ++ [name]).length + names.length := by
          intro q hq
          have hLength := hAbove q hq
          rw [List.length_cons] at hLength
          rw [List.length_append, List.length_singleton]
          omega
        rcases ih hUp.2 hAbove' hBelow with ⟨fault, hWalk, hFault⟩ | hNothing
        · exact .inl ⟨fault, hWalk, hFault.imp_right HasLongName.cons⟩
        · exact .inr hNothing

/-- Names that led nowhere still lead nowhere, or to where nothing stands as before. -/
theorem walk_of_error (hUp : ".." ∉ names)
    (hAbove : ∀ q ∈ places, q.length < place.length + names.length) {fault : FileFault}
    (h : t.walk place names = .error fault) :
    (∃ fault', u.walk place names = .error fault' ∧ (fault' = fault ∨ HasLongName names)) ∨
      fault = .notFound ∧ ∃ r, u.walk place names = .ok r ∧ u.entry r = none := by
  induction names generalizing place with
  | nil => cases h
  | cons name names ih =>
    cases hEntry : t.entry place with
    | none =>
      rw [walk, hEntry] at h
      cases h
      rcases walk_of_missing hTree hMade hUp hAbove hEntry with hStill | hNothing
      · exact .inl hStill
      · exact .inr ⟨rfl, hNothing⟩
    | some e =>
      have hEntry' := hMade.entry_of_some hEntry
      cases e with
      | file content =>
        rw [walk, hEntry] at h
        cases h
        left
        rw [walk, hEntry']
        exact ⟨_, rfl, .inl rfl⟩
      | directory =>
        rw [List.mem_cons, not_or] at hUp
        rw [walk_cons_of_directory hEntry (Ne.symm hUp.1)] at h
        rw [walk_cons_of_directory hEntry' (Ne.symm hUp.1)]
        split_ifs at h ⊢ with hLong
        · exact .inl ⟨_, h, .inl rfl⟩
        · have hAbove' : ∀ q ∈ places, q.length < (place ++ [name]).length + names.length := by
            intro q hq
            have hLength := hAbove q hq
            rw [List.length_cons] at hLength
            rw [List.length_append, List.length_singleton]
            omega
          rcases ih hUp.2 hAbove' h with ⟨fault', hWalk, hFault⟩ | hNothing
          · exact .inl ⟨fault', hWalk, hFault.imp_right HasLongName.cons⟩
          · exact .inr hNothing

end Missing

/-! ### Above a path -/

/-- The places above a path, along which directories are made for it. -/
def placesAbove (t : FileTree) (p : Path) : List (List String) :=
  match p.parent? with
  | none => []
  | some parent => t.placesAlong parent

theorem placesAbove_subset (t : FileTree) (p : Path) :
    t.placesAbove p ⊆ placesFrom (t.start p) p.names.dropLast := by
  unfold placesAbove
  cases hParent : p.parent? with
  | none => exact List.nil_subset _
  | some parent =>
    obtain ⟨hNames, hAbsolute⟩ := Path.parent?_eq_some hParent
    have hStart : t.start parent = t.start p := by
      rw [start, start, hAbsolute]
    dsimp only
    rw [placesAlong_eq, hStart, hNames]
    exact List.Subset.refl _

/-- All places above a path that leads somewhere are directories. -/
theorem IsTree.entry_placesAbove (h : t.IsTree) (hLocate : t.locate p = .ok place)
    (hq : q ∈ t.placesAbove p) : t.entry q = some .directory := by
  have hWalk := walk_of_locate hLocate
  have hMem := t.placesAbove_subset p hq
  rcases List.eq_nil_or_concat' p.names with hNil | ⟨above, name, hConcat⟩
  · rw [hNil] at hMem
    obtain rfl : q = t.start p := List.mem_singleton.mp hMem
    exact h.start p
  · rw [hConcat] at hWalk hMem
    rw [List.dropLast_concat] at hMem
    exact entry_of_walk_concat hWalk hMem

/-- There is nothing new to see of directories that are made above a path: the path does not lead
up, or all that it leads through are directories. -/
def IsSteady (t : FileTree) (p : Path) : Prop :=
  ".." ∉ p.names ∨ ∀ q ∈ t.placesAbove p, t.entry q = some .directory

theorem IsSteady.keeps (h : t.IsSteady p) (hKeeps : t.Keeps u) : u.IsSteady p := by
  refine h.imp_right fun hThere q hq => hKeeps.directory q (hThere q ?_)
  unfold placesAbove at hq ⊢
  cases hParent : p.parent? with
  | none =>
    rw [hParent] at hq
    exact hq
  | some parent =>
    rw [hParent] at hq
    dsimp only at hq ⊢
    rw [placesAlong_congr hKeeps.workingDirectory_eq] at hq
    exact hq

section MadeAbove

variable (hTree : t.IsTree) (hMade : MakesDirectories (t.placesAbove p) t u)

include hTree hMade

/-- Nothing is made above a path that leads somewhere. -/
theorem entry_of_made_above (h : t.locate p = .ok place) (q : List String) :
    u.entry q = t.entry q :=
  hMade.entry_eq (fun _ => hTree.entry_placesAbove h) q

theorem locate_of_made_above {fault : FileFault} (hUp : ".." ∉ p.names)
    (hFault : t.locate p = .error fault) :
    (∃ fault', u.locate p = .error fault' ∧ (fault' = fault ∨ HasLongName p.names)) ∨
      fault = .notFound ∧ ∃ r, u.locate p = .ok r ∧ u.entry r = none := by
  rcases locate_cases p with ⟨other, hNone⟩ | hLeads
  · obtain rfl : other = fault := Except.error.inj ((hNone t).symm.trans hFault)
    exact .inl ⟨other, hNone u, .inl rfl⟩
  · have hAbove : ∀ q ∈ t.placesAbove p, q.length < (t.start p).length + p.names.length := by
      intro q hq
      have hMem := t.placesAbove_subset p hq
      have hUp' : ".." ∉ p.names.dropLast := fun hUp' => hUp (List.dropLast_subset _ hUp')
      have hLength := length_le_of_mem_placesFrom hUp' hMem
      have hNames : p.names ≠ [] := by
        intro hNil
        rw [hLeads t, hNil] at hFault
        cases hFault
      have hPos := List.length_pos_iff.mpr hNames
      rw [List.length_dropLast] at hLength
      omega
    rw [hLeads t] at hFault
    rw [hLeads u, start_congr hMade.workingDirectory_eq]
    exact walk_of_error hTree hMade hUp hAbove hFault

/-- Making directories above a path leaves what is read at it: there was something to lead there, or
nothing has been made, or the path is a plain one. -/
theorem read_of_made_above (h : (∃ place, t.locate p = .ok place) ∨
    (∀ q, u.entry q = some .directory → t.entry q = some .directory) ∨
    (".." ∉ p.names ∧ ¬HasLongName p.names)) : u.read p = t.read p := by
  have hUnchanged : (∀ q, u.entry q = t.entry q) → u.read p = t.read p := fun hSame =>
    read_congr (locate_congr hMade.workingDirectory_eq (walk_congr hSame _ _)) fun q _ => hSame q
  cases hLocate : t.locate p with
  | ok place => exact hUnchanged (entry_of_made_above hTree hMade hLocate)
  | error fault =>
    rcases h with ⟨place, hSome⟩ | hNothing | ⟨hUp, hShort⟩
    · rw [hLocate] at hSome
      cases hSome
    · apply hUnchanged
      intro q
      rcases hMade.entry q with hSame | ⟨hNone, hNew, -⟩
      · exact hSame
      · rw [hNothing q hNew] at hNone
        cases hNone
    · rw [read_of_locate_eq_error hLocate]
      rcases locate_of_made_above hTree hMade hUp hLocate with
        ⟨fault', hStill, hFault⟩ | ⟨rfl, r, hNew, hEntry⟩
      · rcases hFault with rfl | hLong
        · exact read_of_locate_eq_error hStill
        · exact absurd hLong hShort
      · exact read_of_entry_eq_none hNew hEntry

/-- Directories that are made above a steady path neither show nor hide a file. -/
theorem contains_of_made_above (h : t.IsSteady p) :
    u.contains p = t.contains p ∧ (t.contains p = true → u.read p = t.read p) := by
  have hUnchanged : (∀ q, u.entry q = t.entry q) →
      u.contains p = t.contains p ∧ (t.contains p = true → u.read p = t.read p) := by
    intro hSame
    have hLocate := locate_congr hMade.workingDirectory_eq (walk_congr hSame (t.start p) p.names)
    refine ⟨?_, fun _ => read_congr hLocate fun q _ => hSame q⟩
    rw [contains, contains, hLocate]
    cases t.locate p with
    | error fault => rfl
    | ok place =>
      dsimp only
      rw [hSame]
  rcases h with hUp | hThere
  · cases hLocate : t.locate p with
    | ok place => exact hUnchanged (entry_of_made_above hTree hMade hLocate)
    | error fault =>
      have hNone : t.contains p = false := by
        rw [contains, hLocate]
      rw [hNone]
      refine ⟨?_, fun hSome => absurd hSome Bool.false_ne_true⟩
      rcases locate_of_made_above hTree hMade hUp hLocate with
        ⟨fault', hStill, -⟩ | ⟨-, r, hNew, hEntry⟩
      · rw [contains, hStill]
      · rw [contains, hNew]
        dsimp only
        rw [hEntry]
  · exact hUnchanged (hMade.entry_eq hThere)

end MadeAbove

end Worklist.FileTree
