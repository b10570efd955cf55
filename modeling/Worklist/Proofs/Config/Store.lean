import Worklist.Config.Store
import Worklist.Proofs.Config.Stored
import Worklist.Proofs.Storage.Shape

/-!
# Changing and saving a configuration

A change of a setting gives it the value that the text stands for and leaves the others. What is
saved is loaded again, and what could not be saved changes no file.
-/

namespace Worklist

/-! ### Settings -/

/-- The value of a setting, if it is settled. -/
inductive SettingValue where
  | file (p : Option Path)
  | hosts (hosts : List String)
  /-- The size of a page. -/
  | size (n : Option Nat)
  | choice (b : Option Bool)

namespace Setting

/-- The value that a text stands for. -/
def parse? (text : String) : Setting → Option SettingValue
  | .data => some (.file (some ⟨text⟩))
  | .knownHosts => some (.hosts (hosts text))
  | .defaultLimit => (limit? text).map fun n => .size (some n)
  | .maxLimit => (limit? text).map fun n => .size (some n)
  | .color => (boolean? text).map fun b => .choice (some b)

theorem key_of_ofKey? {key : String} {s : Setting} (h : ofKey? key = some s) : s.key = key := by
  simpa using List.find?_some h

end Setting

namespace Config

open FileTree (MakesDirectories)

variable {c c' : Config} {s : Setting} {key text : String}

/-- The value of a setting. -/
def value (c : Config) : Setting → SettingValue
  | .data => .file c.data
  | .knownHosts => .hosts c.knownHosts
  | .defaultLimit => .size c.defaultLimit
  | .maxLimit => .size c.maxLimit
  | .color => .choice c.color

/-- A setting has the value that a text stands for, and the others are what they were. -/
structure Replaces (c c' : Config) (s : Setting) (text : String) : Prop where
  parsed : s.parse? text = some (c'.value s)
  others : ∀ other, other ≠ s → c'.value other = c.value other

/-- All known hosts can be registered. -/
def Registers (c : Config) : Prop :=
  ∃ r, c.registry = .ok r

theorem registers_empty : empty.Registers :=
  ⟨_, rfl⟩

theorem Registers.of_knownHosts (h : c.Registers) (hSame : c'.knownHosts = c.knownHosts) :
    c'.Registers := by
  obtain ⟨r, hr⟩ := h
  refine ⟨r, ?_⟩
  rw [registry, hSame]
  exact hr

theorem others_of_fields (hData : s ≠ .data → c'.data = c.data)
    (hHosts : s ≠ .knownHosts → c'.knownHosts = c.knownHosts)
    (hDefault : s ≠ .defaultLimit → c'.defaultLimit = c.defaultLimit)
    (hMax : s ≠ .maxLimit → c'.maxLimit = c.maxLimit) (hColor : s ≠ .color → c'.color = c.color) :
    ∀ other, other ≠ s → c'.value other = c.value other := by
  intro other hOther
  cases other with
  | data => rw [value, value, hData hOther.symm]
  | knownHosts => rw [value, value, hHosts hOther.symm]
  | defaultLimit => rw [value, value, hDefault hOther.symm]
  | maxLimit => rw [value, value, hMax hOther.symm]
  | color => rw [value, value, hColor hOther.symm]

/-- A change gives the setting its new value, and never one that keeps hosts from registering. -/
theorem change_eq_ok (h : c.change s text = .ok c') :
    c.Replaces c' s text ∧ (c.Registers → c'.Registers) := by
  cases s with
  | data =>
    cases h
    exact ⟨⟨rfl, others_of_fields (fun hne => absurd rfl hne) (fun _ => rfl) (fun _ => rfl)
      (fun _ => rfl) fun _ => rfl⟩, fun hHosts => hHosts.of_knownHosts rfl⟩
  | knownHosts =>
    unfold change at h
    dsimp only at h
    split at h
    · rename_i r hRegistry
      cases h
      exact ⟨⟨rfl, others_of_fields (fun _ => rfl) (fun hne => absurd rfl hne) (fun _ => rfl)
        (fun _ => rfl) fun _ => rfl⟩, fun _ => ⟨r, hRegistry⟩⟩
    · cases h
  | defaultLimit =>
    unfold change at h
    dsimp only at h
    split at h
    · rename_i n hLimit
      cases h
      refine ⟨⟨?_, others_of_fields (fun _ => rfl) (fun _ => rfl) (fun hne => absurd rfl hne)
        (fun _ => rfl) fun _ => rfl⟩, fun hHosts => hHosts.of_knownHosts rfl⟩
      rw [Setting.parse?, hLimit]
      rfl
    · cases h
  | maxLimit =>
    unfold change at h
    dsimp only at h
    split at h
    · rename_i n hLimit
      cases h
      refine ⟨⟨?_, others_of_fields (fun _ => rfl) (fun _ => rfl) (fun _ => rfl)
        (fun hne => absurd rfl hne) fun _ => rfl⟩, fun hHosts => hHosts.of_knownHosts rfl⟩
      rw [Setting.parse?, hLimit]
      rfl
    · cases h
  | color =>
    unfold change at h
    dsimp only at h
    split at h
    · rename_i b hBoolean
      cases h
      refine ⟨⟨?_, others_of_fields (fun _ => rfl) (fun _ => rfl) (fun _ => rfl) (fun _ => rfl)
        fun hne => absurd rfl hne⟩, fun hHosts => hHosts.of_knownHosts rfl⟩
      rw [Setting.parse?, hBoolean]
      rfl
    · cases h

theorem set_eq_ok (h : c.set key text = .ok c') :
    ∃ s : Setting, s.key = key ∧ c.Replaces c' s text ∧ (c.Registers → c'.Registers) := by
  unfold set at h
  split at h
  · rename_i s hKey
    obtain ⟨hReplaces, hHosts⟩ := change_eq_ok h
    exact ⟨s, Setting.key_of_ofKey? hKey, hReplaces, hHosts⟩
  · cases h

theorem pageSizes_bounds (c : Config) :
    1 ≤ c.pageSizes.defaultLimit ∧ c.pageSizes.defaultLimit ≤ c.pageSizes.maxLimit := by
  unfold pageSizes PageSizes.normalized
  dsimp only
  omega

/-! ### Colors -/

/-- A configuration without what it says of colors. -/
def uncolored (c : Config) : Config :=
  { c with color := none }

theorem eq_of_uncolored (h : c'.uncolored = c.uncolored) : c' = { c with color := c'.color } := by
  have hFields := h
  rw [uncolored, uncolored, mk.injEq] at hFields
  obtain ⟨hData, hHosts, hDefault, hMax, -⟩ := hFields
  rw [← hData, ← hHosts, ← hDefault, ← hMax]

theorem pageSizes_of_uncolored (h : c'.uncolored = c.uncolored) : c'.pageSizes = c.pageSizes := by
  rw [eq_of_uncolored h]
  rfl

theorem registry_of_uncolored (h : c'.uncolored = c.uncolored) : c'.registry = c.registry := by
  rw [eq_of_uncolored h]
  rfl

theorem change_of_uncolored (h : c'.uncolored = c.uncolored) (s : Setting) (text : String) :
    (c'.change s text).map uncolored = (c.change s text).map uncolored := by
  rw [eq_of_uncolored h]
  cases s with
  | data => rfl
  | knownHosts =>
    have hHosts : registry ⟨c.data, Setting.hosts text, c.defaultLimit, c.maxLimit, c'.color⟩ =
        registry ⟨c.data, Setting.hosts text, c.defaultLimit, c.maxLimit, c.color⟩ := rfl
    rw [change, change]
    dsimp only
    rw [hHosts]
    cases registry ⟨c.data, Setting.hosts text, c.defaultLimit, c.maxLimit, c.color⟩ with
    | ok r => rfl
    | error e => rfl
  | defaultLimit =>
    rw [change, change]
    cases Setting.limit? text with
    | none => rfl
    | some n => rfl
  | maxLimit =>
    rw [change, change]
    cases Setting.limit? text with
    | none => rfl
    | some n => rfl
  | color => rfl

theorem set_of_uncolored (h : c'.uncolored = c.uncolored) (key text : String) :
    (c'.set key text).map uncolored = (c.set key text).map uncolored := by
  rw [set, set]
  cases Setting.ofKey? key with
  | none => rfl
  | some s => exact change_of_uncolored h s text

theorem write?_of_uncolored (h : c'.uncolored = c.uncolored) :
    c.write? = none ∧ c'.write? = none ∨
      ∃ document document', c.write? = some document ∧ c'.write? = some document' := by
  rw [eq_of_uncolored h, write?, write?]
  dsimp only
  split_ifs
  · exact .inr ⟨_, _, rfl, rfl⟩
  · exact .inl ⟨rfl, rfl⟩

/-! ### Files -/

variable {env : Environment} {t u v : FileTree} {p : Path}

theorem load_of_not_contains (hPath : path env = .ok p) (h : t.contains p = false) :
    load env t = .ok .empty := by
  rw [load, hPath]
  change (if t.contains p = true then _ else _) = _
  rw [h]
  rfl

theorem load_of_read (hPath : path env = .ok p) {content : String} (h : t.read p = .ok content) :
    load env t = parse content := by
  rw [load, hPath]
  change (if t.contains p = true then _ else _) = _
  rw [if_pos (FileTree.contains_of_read h), h]
  rfl

theorem load_congr (hPath : path env = .ok p) (hContains : u.contains p = t.contains p)
    (hRead : t.contains p = true → u.read p = t.read p) : load env u = load env t := by
  rw [load, load, hPath]
  change (if u.contains p = true then _ else _) = (if t.contains p = true then _ else _)
  rw [hContains]
  split_ifs with h
  · rw [hRead h]
  · rfl

/-- The two ways that saving goes: nothing but directories has been made, or the file has been
written. -/
inductive Course (p : Path) (c : Config) (t : FileTree) :
    Except ConfigError Unit × FileTree → Prop where
  | unwritten {u e} (made : MakesDirectories (t.placesAbove p) t u) : Course p c t (.error e, u)
  | written {u v document} (made : MakesDirectories (t.placesAbove p) t u)
      (text_eq : c.write? = some document) (write_eq : u.write p document = .ok v) :
      Course p c t (.ok (), v)

theorem course (p : Path) (c : Config) (t : FileTree) : Course p c t (c.save p t) := by
  have hMade : MakesDirectories (t.placesAbove p) t (prepare p t).2 := by
    unfold FileTree.placesAbove prepare
    cases p.parent? with
    | none => exact .refl t
    | some parent => exact t.makesDirectories parent
  unfold save
  split
  · rename_i fault u hRun
    rw [hRun] at hMade
    exact .unwritten hMade
  · rename_i u hRun
    rw [hRun] at hMade
    split
    · exact .unwritten hMade
    · rename_i v hWrite
      unfold overwrite at hWrite
      split at hWrite
      · cases hWrite
      · rename_i document hText
        exact .written hMade hText (mapError_eq_ok_iff.mp hWrite)

theorem made_of_unsaved {e : ConfigError} (h : c.save p t = (.error e, u)) :
    MakesDirectories (t.placesAbove p) t u := by
  have hCourse := course p c t
  rw [h] at hCourse
  cases hCourse with
  | unwritten hMade => exact hMade

theorem written_of_saved (h : c.save p t = (.ok (), v)) : ∃ u document,
    MakesDirectories (t.placesAbove p) t u ∧ c.write? = some document ∧
      u.write p document = .ok v := by
  have hCourse := course p c t
  rw [h] at hCourse
  cases hCourse with
  | written hMade hText hWrite => exact ⟨_, _, hMade, hText, hWrite⟩

/-- What has been saved is loaded. -/
theorem load_of_saved (hPath : path env = .ok p) (h : c.save p t = (.ok (), v)) :
    load env v = .ok c := by
  obtain ⟨u, document, -, hText, hWrite⟩ := written_of_saved h
  rw [load_of_read hPath (FileTree.read_of_write hWrite)]
  exact parse_write hText

/-- What has not been saved leaves the file that is there. -/
theorem read_of_unsaved {e : ConfigError} (hTree : t.IsTree) (h : c.save p t = (.error e, u))
    {content : String} (hRead : t.read p = .ok content) : u.read p = .ok content := by
  obtain ⟨place, hLocate, -⟩ := FileTree.read_eq_ok.mp hRead
  rw [FileTree.read_of_made_above hTree (made_of_unsaved h) (.inl ⟨place, hLocate⟩)]
  exact hRead

theorem load_of_unsaved {e : ConfigError} (hPath : path env = .ok p) (hTree : t.IsTree)
    (hSteady : t.IsSteady p) (h : c.save p t = (.error e, u)) : load env u = load env t := by
  obtain ⟨hContains, hRead⟩ :=
    FileTree.contains_of_made_above hTree (made_of_unsaved h) hSteady
  exact load_congr hPath hContains hRead

theorem isTree_save (hTree : t.IsTree) (p : Path) (c : Config) : (c.save p t).2.IsTree := by
  have hCourse := course p c t
  generalize c.save p t = run at hCourse
  cases hCourse with
  | unwritten hMade => exact hMade.isTree hTree
  | written hMade _ hWrite => exact (hMade.isTree hTree).write hWrite

theorem isSteady_save (hSteady : t.IsSteady p) (c : Config) : (c.save p t).2.IsSteady p := by
  have hCourse := course p c t
  generalize c.save p t = run at hCourse
  cases hCourse with
  | unwritten hMade => exact hSteady.keeps hMade.keeps
  | written hMade _ hWrite =>
    obtain ⟨place, -, -, hFree, rfl⟩ := FileTree.write_eq_ok hWrite
    exact hSteady.keeps (hMade.keeps.trans (FileTree.keeps_put hFree _))

/-- Whether a configuration can be saved depends neither on its colors nor on what files hold. -/
theorem save_of_uncolored (h : c'.uncolored = c.uncolored) (hShape : t.SameShape u) (p : Path) :
    (c'.save p u).1 = (c.save p t).1 := by
  have hPrepare : (prepare p u).1 = (prepare p t).1 ∧
      (prepare p t).2.SameShape (prepare p u).2 := by
    unfold prepare
    cases p.parent? with
    | none => exact ⟨rfl, hShape⟩
    | some parent => exact hShape.makeDirectories parent
  obtain ⟨hResult, hPrepared⟩ := hPrepare
  unfold save
  generalize prepare p t = run at hResult hPrepared
  generalize prepare p u = run' at hResult hPrepared
  obtain ⟨result, t'⟩ := run
  obtain ⟨result', u'⟩ := run'
  dsimp only at hResult hPrepared
  subst hResult
  cases result' with
  | error fault => rfl
  | ok _ =>
    dsimp only
    unfold overwrite
    rcases write?_of_uncolored h with ⟨hNone, hNone'⟩ | ⟨document, document', hSome, hSome'⟩
    · rw [hNone, hNone']
    · rw [hSome, hSome']
      have hWrite := hPrepared.write p document document'
      dsimp only
      generalize t'.write p document = r at hWrite
      generalize u'.write p document' = r' at hWrite
      cases hWrite with
      | ok _ => rfl
      | error fault => rfl

end Config

end Worklist
