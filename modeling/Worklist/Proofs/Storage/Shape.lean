import Worklist.Proofs.Storage.Directories

/-!
# What files hold

What the files of a tree hold makes a difference only to who reads them: where a path leads, whether
something is there and whether an operation succeeds is settled by the files and directories alone,
together with what the device refuses.
-/

namespace Worklist

/-- A file where there is a file, a directory where there is a directory. -/
inductive Entry.Matches : Option Entry → Option Entry → Prop where
  | nothing : Matches none none
  | directory : Matches (some .directory) (some .directory)
  | file (content content' : String) : Matches (some (.file content)) (some (.file content'))

namespace FileTree

variable {t u v : FileTree} {place q names : List String} {p : Path}

/-! ### Contents -/

/-- The content of the file at a place. -/
def content? (t : FileTree) (place : List String) : Option String :=
  match t.entry place with
  | some (.file content) => some content
  | _ => none

theorem content?_congr (h : u.entry place = t.entry place) :
    u.content? place = t.content? place := by
  rw [content?, content?, h]

/-- No file changes where directories are made. -/
theorem MakesDirectories.content?_eq {places : List (List String)}
    (h : MakesDirectories places t u) (q : List String) : u.content? q = t.content? q := by
  rcases h.entry q with hSame | ⟨hNone, hNew, -⟩
  · exact content?_congr hSame
  · rw [content?, content?, hNone, hNew]

/-- Two trees with the same files and directories, whatever the files hold, on devices that refuse
the same. -/
structure SameShape (t u : FileTree) : Prop where
  workingDirectory_eq : u.workingDirectory = t.workingDirectory
  refusal_eq : u.refusal = t.refusal
  entry : ∀ place, Entry.Matches (t.entry place) (u.entry place)

namespace SameShape

theorem refl (t : FileTree) : t.SameShape t := by
  refine ⟨rfl, rfl, fun place => ?_⟩
  cases t.entry place with
  | none => exact .nothing
  | some e =>
    cases e with
    | file content => exact .file content content
    | directory => exact .directory

theorem entry_cases (h : t.SameShape u) (place : List String) :
    t.entry place = none ∧ u.entry place = none ∨
      t.entry place = some .directory ∧ u.entry place = some .directory ∨
      ∃ content content', t.entry place = some (.file content) ∧
        u.entry place = some (.file content') := by
  have hEntry := h.entry place
  generalize t.entry place = e at hEntry
  generalize u.entry place = e' at hEntry
  cases hEntry with
  | nothing => exact .inl ⟨rfl, rfl⟩
  | directory => exact .inr (.inl ⟨rfl, rfl⟩)
  | file content content' => exact .inr (.inr ⟨content, content', rfl, rfl⟩)

theorem walk_eq (h : t.SameShape u) (place names : List String) :
    u.walk place names = t.walk place names := by
  induction names generalizing place with
  | nil => rfl
  | cons name names ih =>
    rw [walk, walk]
    rcases h.entry_cases place with ⟨ht, hu⟩ | ⟨ht, hu⟩ | ⟨content, content', ht, hu⟩
    · rw [ht, hu]
    · rw [ht, hu]
      dsimp only
      rw [ih, ih]
    · rw [ht, hu]

theorem locate_eq (h : t.SameShape u) (p : Path) : u.locate p = t.locate p :=
  locate_congr h.workingDirectory_eq (h.walk_eq _ _)

theorem contains_eq (h : t.SameShape u) (p : Path) : u.contains p = t.contains p := by
  rw [contains, contains, h.locate_eq]
  cases t.locate p with
  | error fault => rfl
  | ok place =>
    dsimp only
    rcases h.entry_cases place with ⟨ht, hu⟩ | ⟨ht, hu⟩ | ⟨content, content', ht, hu⟩
    · rw [ht, hu]
    · rw [ht, hu]
    · rw [ht, hu]

theorem isDirectory_eq (h : t.SameShape u) (p : Path) : u.isDirectory p = t.isDirectory p := by
  rw [isDirectory, isDirectory, h.locate_eq]
  cases t.locate p with
  | error fault => rfl
  | ok place =>
    dsimp only
    rcases h.entry_cases place with ⟨ht, hu⟩ | ⟨ht, hu⟩ | ⟨content, content', ht, hu⟩
    · rw [ht, hu]
    · rw [ht, hu]
    · rw [ht, hu]
      rfl

theorem put (h : t.SameShape u) {e e' : Option Entry} (hMatches : Entry.Matches e e')
    (place : List String) : (t.put place e).SameShape (u.put place e') := by
  refine ⟨h.workingDirectory_eq, h.refusal_eq, ?_⟩
  intro q
  by_cases hPlace : q = place
  · rw [hPlace]
    by_cases hNil : place = []
    · rw [hNil, entry_nil, entry_nil]
      exact .directory
    · rw [entry_put_self hNil, entry_put_self hNil]
      exact hMatches
  · rw [entry_put_of_ne hPlace, entry_put_of_ne hPlace]
    exact h.entry q

end SameShape

/-- Two operations that both fail alike or both succeed, and then leave trees of the same shape. -/
inductive FareAlike {ε : Type} : Except ε FileTree → Except ε FileTree → Prop where
  | ok {x y : FileTree} (shape : x.SameShape y) : FareAlike (.ok x) (.ok y)
  | error (e : ε) : FareAlike (.error e) (.error e)

namespace SameShape

theorem grant (h : t.SameShape u) (o : FileOperation) {after after' : FileTree}
    (hAfter : after.SameShape after') : FareAlike (t.grant o after) (u.grant o after') := by
  rw [FileTree.grant, FileTree.grant, h.refusal_eq]
  cases t.refusal o with
  | none => exact .ok hAfter
  | some fault => exact .error fault

theorem makeDirectory (h : t.SameShape u) (p : Path) :
    FareAlike (t.makeDirectory p) (u.makeDirectory p) := by
  rw [FileTree.makeDirectory, FileTree.makeDirectory, h.locate_eq]
  cases t.locate p with
  | error fault => exact .error fault
  | ok place =>
    rw [ok_bind, ok_bind]
    rcases h.entry_cases place with ⟨ht, hu⟩ | ⟨ht, hu⟩ | ⟨content, content', ht, hu⟩
    · rw [ht, hu]
      exact h.grant _ (h.put .directory place)
    · rw [ht, hu]
      exact .error FileFault.taken
    · rw [ht, hu]
      exact .error FileFault.taken

theorem makeDirectoriesUp (h : t.SameShape u) (paths : List Path) :
    (u.makeDirectoriesUp paths).1 = (t.makeDirectoriesUp paths).1 ∧
      (t.makeDirectoriesUp paths).2.SameShape (u.makeDirectoriesUp paths).2 := by
  induction paths generalizing t u with
  | nil => exact ⟨rfl, h⟩
  | cons p above ih =>
    -- A directory that could not be made may be there all the same.
    have hSettle : ∀ {t u : FileTree} (fault : FileFault), t.SameShape u →
        (if u.isDirectory p then (Except.ok (), u) else (.error fault, u)).1 =
            (if t.isDirectory p then (Except.ok (), t) else (.error fault, t)).1 ∧
          (if t.isDirectory p then (Except.ok (), t) else (.error fault, t)).2.SameShape
            (if u.isDirectory p then (Except.ok (), u) else (.error fault, u)).2 := by
      intro t u fault h
      rw [h.isDirectory_eq]
      split_ifs
      · exact ⟨rfl, h⟩
      · exact ⟨rfl, h⟩
    have hMake := h.makeDirectory p
    rw [FileTree.makeDirectoriesUp, FileTree.makeDirectoriesUp]
    generalize t.makeDirectory p = r at hMake
    generalize u.makeDirectory p = r' at hMake
    cases hMake with
    | ok hMade => exact ⟨rfl, hMade⟩
    | error fault =>
      cases fault with
      | notFound =>
        dsimp only
        obtain ⟨hResult, hAbove⟩ := ih h
        generalize t.makeDirectoriesUp above = run at hResult hAbove
        generalize u.makeDirectoriesUp above = run' at hResult hAbove
        obtain ⟨result, t'⟩ := run
        obtain ⟨result', u'⟩ := run'
        dsimp only at hResult hAbove
        subst hResult
        cases result' with
        | error fault => exact ⟨rfl, hAbove⟩
        | ok _ =>
          have hMake := hAbove.makeDirectory p
          dsimp only
          generalize t'.makeDirectory p = r at hMake
          generalize u'.makeDirectory p = r' at hMake
          cases hMake with
          | ok hMade => exact ⟨rfl, hMade⟩
          | error fault => exact hSettle fault hAbove
      | taken => exact hSettle _ h
      | notDirectory => exact hSettle _ h
      | isDirectory => exact hSettle _ h
      | nameTooLong => exact hSettle _ h
      | nullInName => exact hSettle _ h
      | device text => exact hSettle _ h

theorem makeDirectories (h : t.SameShape u) (p : Path) :
    (u.makeDirectories p).1 = (t.makeDirectories p).1 ∧
      (t.makeDirectories p).2.SameShape (u.makeDirectories p).2 := by
  rw [FileTree.makeDirectories, FileTree.makeDirectories, h.refusal_eq]
  cases t.refusal (.makeDirectories p) with
  | none => exact h.makeDirectoriesUp p.ancestors
  | some fault => exact ⟨rfl, h⟩

theorem write (h : t.SameShape u) (p : Path) (content content' : String) :
    FareAlike (t.write p content) (u.write p content') := by
  rw [FileTree.write, FileTree.write, h.locate_eq]
  cases t.locate p with
  | error fault => exact .error fault
  | ok place =>
    cases hOpen : p.endsOpen with
    | true => exact .error FileFault.isDirectory
    | false =>
      rw [ok_bind, ok_bind, if_neg Bool.false_ne_true, if_neg Bool.false_ne_true]
      rcases h.entry_cases place with ⟨ht, hu⟩ | ⟨ht, hu⟩ | ⟨old, old', ht, hu⟩
      · rw [ht, hu]
        exact h.grant _ (h.put (.file _ _) place)
      · rw [ht, hu]
        exact .error FileFault.isDirectory
      · rw [ht, hu]
        exact h.grant _ (h.put (.file _ _) place)

end SameShape

end FileTree

end Worklist
