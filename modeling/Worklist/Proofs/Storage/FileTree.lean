import Worklist.Proofs.Except
import Worklist.Proofs.Storage.Path
import Worklist.Storage.FileTree

/-!
# What operations on files change

A step that succeeds changes one place, and one that fails none. Directories that are there stay, so
a path that leads somewhere goes on leading there, whatever is written beside it.
-/

namespace Worklist.FileTree

variable {t u : FileTree} {place q r : List String} {names : List String} {p : Path}

/-! ### Places -/

@[simp] theorem entry_nil (t : FileTree) : t.entry [] = some .directory :=
  if_pos rfl

@[simp] theorem workingDirectory_put (t : FileTree) (place : List String) (e : Option Entry) :
    (t.put place e).workingDirectory = t.workingDirectory :=
  rfl

@[simp] theorem refusal_put (t : FileTree) (place : List String) (e : Option Entry) :
    (t.put place e).refusal = t.refusal :=
  rfl

theorem ne_nil_of_entry_ne (h : t.entry place ≠ some .directory) : place ≠ [] :=
  fun hNil => h (hNil ▸ t.entry_nil)

theorem entry_put (h : place ≠ []) (e : Option Entry) (q : List String) :
    (t.put place e).entry q = if q = place then e else t.entry q := by
  by_cases hq : q = []
  · have hne : q ≠ place := fun hEq => h (hEq ▸ hq)
    rw [if_neg hne, hq, entry_nil, entry_nil]
  · rw [entry, entry, if_neg hq, if_neg hq]
    rfl

theorem entry_put_self (h : place ≠ []) (e : Option Entry) : (t.put place e).entry place = e := by
  rw [entry_put h, if_pos rfl]

theorem entry_put_of_ne (h : q ≠ place) (e : Option Entry) :
    (t.put place e).entry q = t.entry q := by
  rw [entry, entry]
  exact if_congr Iff.rfl rfl (if_neg h)

theorem ne_of_entry (hq : t.entry q = some .directory) (h : t.entry place ≠ some .directory) :
    q ≠ place := by
  rintro rfl
  exact h hq

/-- There is a directory wherever something stands in one, and one that paths start at. -/
structure IsTree (t : FileTree) : Prop where
  working : t.entry t.workingDirectory = some .directory
  above : ∀ place name, t.entry (place ++ [name]) ≠ none → t.entry place = some .directory

namespace IsTree

theorem dropLast (h : t.IsTree) (hPlace : t.entry place ≠ none) :
    t.entry place.dropLast = some .directory := by
  rcases List.eq_nil_or_concat' place with rfl | ⟨above, name, rfl⟩
  · exact t.entry_nil
  · rw [List.dropLast_concat]
    exact h.above above name hPlace

/-- A file may stand in a directory where no directory stands. -/
theorem put_file (h : t.IsTree) (hPlace : t.entry place ≠ some .directory)
    (hAbove : t.entry place.dropLast = some .directory) (content : String) :
    (t.put place (some (.file content))).IsTree := by
  constructor
  · rw [workingDirectory_put, entry_put_of_ne (ne_of_entry h.working hPlace)]
    exact h.working
  · intro q name hq
    have hAt : t.entry q = some .directory := by
      by_cases hName : q ++ [name] = place
      · rw [← hName, List.dropLast_concat] at hAbove
        exact hAbove
      · rw [entry_put_of_ne hName] at hq
        exact h.above q name hq
    rw [entry_put_of_ne (ne_of_entry hAt hPlace)]
    exact hAt

/-- A directory may stand in a directory where nothing stands. -/
theorem put_directory (h : t.IsTree) (hPlace : t.entry place = none)
    (hAbove : t.entry place.dropLast = some .directory) :
    (t.put place (some .directory)).IsTree := by
  have hFree : t.entry place ≠ some .directory := by
    rw [hPlace]
    exact nofun
  constructor
  · rw [workingDirectory_put, entry_put_of_ne (ne_of_entry h.working hFree)]
    exact h.working
  · intro q name hq
    have hAt : t.entry q = some .directory := by
      by_cases hName : q ++ [name] = place
      · rw [← hName, List.dropLast_concat] at hAbove
        exact hAbove
      · rw [entry_put_of_ne hName] at hq
        exact h.above q name hq
    rw [entry_put_of_ne (ne_of_entry hAt hFree)]
    exact hAt

end IsTree

theorem isTree_empty (workingDirectory : List String) : (empty workingDirectory).IsTree := by
  have hEntry : ∀ place, (empty workingDirectory).entry place =
      if place.isPrefixOf workingDirectory then some .directory else none := by
    intro place
    cases place with
    | nil =>
      rw [entry_nil, List.isPrefixOf_nil_left]
      rfl
    | cons name rest => rfl
  constructor
  · rw [hEntry]
    exact if_pos (List.isPrefixOf_iff_prefix.mpr List.prefix_rfl)
  · intro place name hSome
    rw [hEntry] at hSome ⊢
    split_ifs at hSome with hPrefix
    · have hAbove := (List.prefix_append place [name]).trans (List.isPrefixOf_iff_prefix.mp hPrefix)
      rw [if_pos (List.isPrefixOf_iff_prefix.mpr hAbove)]
    · exact absurd rfl hSome

/-! ### Walks -/

theorem walk_append (xs ys : List String) :
    t.walk place (xs ++ ys) = (t.walk place xs).bind (t.walk · ys) := by
  induction xs generalizing place with
  | nil => rfl
  | cons name xs ih =>
    rw [List.cons_append, walk, walk]
    cases t.entry place with
    | none => rfl
    | some e =>
      cases e with
      | file content => rfl
      | directory =>
        dsimp only
        split_ifs
        · exact ih
        · rfl
        · exact ih

theorem walk_concat_eq_ok {name : String} :
    t.walk place (names ++ [name]) = .ok r ↔ ∃ at_, t.walk place names = .ok at_ ∧
      t.entry at_ = some .directory ∧
      ((name = ".." ∧ r = at_.dropLast) ∨
        (name ≠ ".." ∧ name.utf8ByteSize ≤ maxNameSize ∧ r = at_ ++ [name])) := by
  rw [walk_append]
  change ((t.walk place names) >>= (t.walk · [name])) = _ ↔ _
  rw [bind_eq_ok_iff]
  refine exists_congr fun at_ => and_congr_right fun _ => ?_
  rw [walk]
  cases t.entry at_ with
  | none => simp
  | some e =>
    cases e with
    | file content => simp
    | directory =>
      dsimp only
      split_ifs with hUp hLong
      · simp [walk, hUp, eq_comm]
      · simp [hUp, hLong]
      · simp [walk, hUp, Nat.le_of_not_lt hLong, eq_comm]

theorem walk_concat_of_ok {name : String} (h : t.walk place names = .ok r)
    (hEntry : t.entry r = some .directory) (hUp : name ≠ "..") :
    t.walk place (names ++ [name]) =
      if maxNameSize < name.utf8ByteSize then .error .nameTooLong else .ok (r ++ [name]) := by
  rw [walk_append, h]
  change t.walk r [name] = _
  rw [walk, hEntry]
  dsimp only
  rw [if_neg hUp]
  rfl

theorem walk_mem_placesFrom (h : t.walk place names = .ok r) : r ∈ placesFrom place names := by
  induction names generalizing place with
  | nil =>
    cases h
    exact List.mem_singleton_self _
  | cons name names ih =>
    rw [walk] at h
    rw [placesFrom]
    split at h
    · cases h
    · cases h
    · split_ifs at h with hUp hLong
      · rw [if_pos hUp]
        exact List.mem_cons_of_mem _ (ih h)
      · rw [if_neg hUp]
        exact List.mem_cons_of_mem _ (ih h)

theorem placesFrom_subset_of_prefix {xs ys : List String} (h : xs <+: ys) :
    placesFrom place xs ⊆ placesFrom place ys := by
  induction xs generalizing place ys with
  | nil =>
    intro q hq
    obtain rfl : q = place := List.mem_singleton.mp hq
    cases ys with
    | nil => exact hq
    | cons y ys => exact List.mem_cons_self
  | cons x xs ih =>
    obtain ⟨ys, rfl, hRest⟩ : ∃ ys', ys = x :: ys' ∧ xs <+: ys' := by
      obtain ⟨tail, rfl⟩ := h
      exact ⟨xs ++ tail, rfl, List.prefix_append _ _⟩
    intro q hq
    rcases List.mem_cons.mp hq with rfl | hq
    · exact List.mem_cons_self
    · exact List.mem_cons_of_mem _ (ih hRest hq)

/-- Names lead through directories. -/
theorem entry_of_walk_concat {name : String} (h : t.walk place (names ++ [name]) = .ok r)
    (hq : q ∈ placesFrom place names) : t.entry q = some .directory := by
  induction names generalizing place with
  | nil =>
    obtain rfl : q = place := List.mem_singleton.mp hq
    obtain ⟨at_, hAt, hEntry, -⟩ := walk_concat_eq_ok.mp h
    cases hAt
    exact hEntry
  | cons first names ih =>
    rw [List.cons_append, walk] at h
    split at h
    · cases h
    · cases h
    · rename_i hEntry
      rcases List.mem_cons.mp hq with rfl | hq
      · exact hEntry
      · split_ifs at h with hUp hLong
        · rw [if_pos hUp] at hq
          exact ih h hq
        · rw [if_neg hUp] at hq
          exact ih h hq

/-- Paths start at the same place, and no directory is lost. -/
structure Keeps (t u : FileTree) : Prop where
  workingDirectory_eq : u.workingDirectory = t.workingDirectory
  directory : ∀ q, t.entry q = some .directory → u.entry q = some .directory

theorem Keeps.trans {v : FileTree} (h : t.Keeps u) (h' : u.Keeps v) : t.Keeps v :=
  ⟨h'.workingDirectory_eq.trans h.workingDirectory_eq,
    fun q hq => h'.directory q (h.directory q hq)⟩

theorem Keeps.walk_eq_ok (h : t.Keeps u) (hWalk : t.walk place names = .ok r) :
    u.walk place names = .ok r := by
  induction names generalizing place with
  | nil => exact hWalk
  | cons name names ih =>
    rw [walk] at hWalk ⊢
    split at hWalk
    · cases hWalk
    · cases hWalk
    · rename_i hEntry
      rw [h.directory _ hEntry]
      dsimp only
      split_ifs at hWalk with hUp hLong
      · rw [if_pos hUp]
        exact ih hWalk
      · rw [if_neg hUp, if_neg hLong]
        exact ih hWalk

/-- Nothing is lost with what takes the place of something else than a directory. -/
theorem keeps_put (h : t.entry place ≠ some .directory) (e : Option Entry) :
    t.Keeps (t.put place e) := by
  refine ⟨rfl, ?_⟩
  intro q hq
  rw [entry_put_of_ne (ne_of_entry hq h)]
  exact hq

/-! ### Where paths lead -/

/-- The place that a path starts at. -/
def start (t : FileTree) (p : Path) : List String :=
  if p.isAbsolute then [] else t.workingDirectory

/-- A text that is no path leads nowhere, whatever there is. Any other leads through its names. -/
theorem locate_cases (p : Path) :
    (∃ fault, ∀ t : FileTree, t.locate p = .error fault) ∨
      ∀ t : FileTree, t.locate p = t.walk (t.start p) p.names := by
  by_cases hNull : '\x00' ∈ p.text.toList
  · exact .inl ⟨_, fun t => if_pos hNull⟩
  by_cases hEmpty : p.text = ""
  · refine .inl ⟨.notFound, fun t => ?_⟩
    rw [locate, if_neg hNull, if_pos hEmpty]
  by_cases hLong : maxPathSize < p.text.utf8ByteSize
  · refine .inl ⟨.nameTooLong, fun t => ?_⟩
    rw [locate, if_neg hNull, if_neg hEmpty, if_pos hLong]
  · refine .inr fun t => ?_
    rw [locate, if_neg hNull, if_neg hEmpty, if_neg hLong]
    rfl

theorem walk_of_locate (h : t.locate p = .ok place) : t.walk (t.start p) p.names = .ok place := by
  rcases locate_cases p with ⟨fault, hNone⟩ | hSome
  · rw [hNone t] at h
    cases h
  · rw [← hSome t]
    exact h

theorem walk_congr (h : ∀ q, u.entry q = t.entry q) (place names : List String) :
    u.walk place names = t.walk place names := by
  induction names generalizing place with
  | nil => rfl
  | cons name names ih =>
    rw [walk, walk, h]
    cases t.entry place with
    | none => rfl
    | some e =>
      cases e with
      | file content => rfl
      | directory =>
        dsimp only
        rw [ih, ih]

theorem start_congr (h : u.workingDirectory = t.workingDirectory) (p : Path) :
    u.start p = t.start p := by
  rw [start, start, h]

theorem locate_congr (hWorking : u.workingDirectory = t.workingDirectory)
    (h : u.walk (t.start p) p.names = t.walk (t.start p) p.names) : u.locate p = t.locate p := by
  rcases locate_cases p with ⟨fault, hNone⟩ | hSome
  · rw [hNone, hNone]
  · rw [hSome, hSome, start_congr hWorking, h]

theorem Keeps.locate_eq_ok (h : t.Keeps u) (hLocate : t.locate p = .ok place) :
    u.locate p = .ok place := by
  have hWalk := walk_of_locate hLocate
  rw [locate_congr h.workingDirectory_eq ((h.walk_eq_ok hWalk).trans hWalk.symm)]
  exact hLocate

theorem IsTree.start (h : t.IsTree) (p : Path) : t.entry (t.start p) = some .directory := by
  unfold FileTree.start
  split_ifs
  · exact t.entry_nil
  · exact h.working

/-- Whatever a path leads to stands in a directory. -/
theorem IsTree.locate (h : t.IsTree) (hLocate : t.locate p = .ok place) :
    t.entry place.dropLast = some .directory := by
  have hUp : ∀ q, t.entry q = some .directory → t.entry q.dropLast = some .directory :=
    fun q hq => h.dropLast (by rw [hq]; exact Option.some_ne_none _)
  have hWalk := walk_of_locate hLocate
  rcases List.eq_nil_or_concat' p.names with hNil | ⟨names, name, hNames⟩
  · rw [hNil] at hWalk
    cases hWalk
    exact hUp _ (h.start p)
  · rw [hNames] at hWalk
    obtain ⟨at_, -, hEntry, ⟨-, rfl⟩ | ⟨-, -, rfl⟩⟩ := walk_concat_eq_ok.mp hWalk
    · exact hUp _ (hUp _ hEntry)
    · rw [List.dropLast_concat]
      exact hEntry

/-- What a path that leads up leads to is a directory. -/
theorem IsTree.locate_up (h : t.IsTree) (hLocate : t.locate p = .ok place)
    (hLast : p.names.getLast? = some "..") : t.entry place = some .directory := by
  obtain ⟨names, hNames⟩ := List.getLast?_eq_some_iff.mp hLast
  have hWalk := walk_of_locate hLocate
  rw [hNames] at hWalk
  obtain ⟨at_, -, hEntry, ⟨-, rfl⟩ | ⟨hne, -⟩⟩ := walk_concat_eq_ok.mp hWalk
  · exact h.dropLast (by rw [hEntry]; exact Option.some_ne_none _)
  · exact absurd rfl hne

/-! ### Files -/

theorem grant_eq_ok {o : FileOperation} {after : FileTree} :
    t.grant o after = .ok u ↔ t.refusal o = none ∧ u = after := by
  rw [grant]
  cases t.refusal o with
  | none => simp [eq_comm]
  | some fault => simp

theorem read_eq_ok {content : String} : t.read p = .ok content ↔ ∃ place,
    t.locate p = .ok place ∧ t.entry place = some (.file content) ∧ p.endsOpen = false := by
  rw [read, bind_eq_ok_iff]
  refine exists_congr fun place => and_congr_right fun _ => ?_
  split
  · rename_i hEntry
    simp [hEntry, throw, throwThe, MonadExceptOf.throw]
  · rename_i hEntry
    simp [hEntry, throw, throwThe, MonadExceptOf.throw]
  · rename_i found hEntry
    rw [hEntry]
    cases p.endsOpen with
    | true => simp [throw, throwThe, MonadExceptOf.throw]
    | false => simp [pure, Except.pure]

/-- Reading is settled by where a path leads and what stands there. -/
theorem read_congr (hLocate : u.locate p = t.locate p)
    (hEntry : ∀ place, t.locate p = .ok place → u.entry place = t.entry place) :
    u.read p = t.read p := by
  rw [read, read, hLocate]
  cases hPlace : t.locate p with
  | error fault => rfl
  | ok place =>
    rw [ok_bind, ok_bind, hEntry place hPlace]

/-- What there is to know of a file that has been written. -/
theorem write_eq_ok {content : String} (h : t.write p content = .ok u) : ∃ place,
    t.locate p = .ok place ∧ p.endsOpen = false ∧ t.entry place ≠ some .directory ∧
      u = t.put place (some (.file content)) := by
  rw [write] at h
  obtain ⟨place, hLocate, h⟩ := bind_eq_ok_iff.mp h
  refine ⟨place, hLocate, ?_⟩
  cases hOpen : p.endsOpen with
  | true =>
    rw [hOpen, if_pos rfl] at h
    cases h
  | false =>
    rw [hOpen, if_neg Bool.false_ne_true] at h
    split at h
    · cases h
    · rename_i hEntry
      exact ⟨rfl, hEntry, (grant_eq_ok.mp h).2⟩

theorem IsTree.write {content : String} (h : t.IsTree) (hWrite : t.write p content = .ok u) :
    u.IsTree := by
  obtain ⟨place, hLocate, -, hFree, rfl⟩ := write_eq_ok hWrite
  exact h.put_file hFree (h.locate hLocate) content

theorem contains_of_read {content : String} (h : t.read p = .ok content) : t.contains p = true := by
  obtain ⟨place, hLocate, hEntry, hOpen⟩ := read_eq_ok.mp h
  rw [contains, hLocate]
  dsimp only
  rw [hEntry]
  dsimp only
  rw [hOpen]
  rfl

theorem read_of_write {content : String} (h : t.write p content = .ok u) :
    u.read p = .ok content := by
  obtain ⟨place, hLocate, hOpen, hFree, rfl⟩ := write_eq_ok h
  have hEntry := entry_put_self (t := t) (ne_nil_of_entry_ne hFree) (some (.file content))
  exact read_eq_ok.mpr ⟨place, (keeps_put hFree _).locate_eq_ok hLocate, hEntry, hOpen⟩

/-- What there is to know of a file that has been moved. -/
theorem move_eq_ok {source target : Path} (h : t.move source target = .ok u) :
    ∃ from_ goal content, t.locate source = .ok from_ ∧ t.locate target = .ok goal ∧
      t.entry from_ = some (.file content) ∧ t.entry goal ≠ some .directory ∧
      target.endsOpen = false ∧
      u = if from_ = goal then t else (t.put goal (some (.file content))).put from_ none := by
  rw [move] at h
  obtain ⟨from_, hSource, h⟩ := bind_eq_ok_iff.mp h
  obtain ⟨goal, hTarget, h⟩ := bind_eq_ok_iff.mp h
  refine ⟨from_, goal, ?_⟩
  split at h
  · cases h
  · cases h
  · cases h
  · rename_i content hFrom hGoal
    refine ⟨content, hSource, hTarget, hFrom, hGoal, ?_⟩
    by_cases hOpen : source.endsOpen = true ∨ target.endsOpen = true
    · rw [if_pos hOpen] at h
      cases h
    · rw [if_neg hOpen] at h
      exact ⟨Bool.not_eq_true _ |>.mp (not_or.mp hOpen).2, (grant_eq_ok.mp h).2⟩

/-- What there is to know of a file that has been written at one path and moved to another. -/
theorem write_move_eq_ok {v : FileTree} {source target : Path} {content : String}
    (hWrite : t.write source content = .ok u) (hMove : u.move source target = .ok v) :
    ∃ from_ goal, t.Keeps v ∧ v.locate source = .ok from_ ∧ v.locate target = .ok goal ∧
      v.entry goal = some (.file content) ∧ target.endsOpen = false ∧
      (from_ ≠ goal → v.entry from_ = none) ∧
      ∀ q, q ≠ from_ → q ≠ goal → v.entry q = t.entry q := by
  obtain ⟨from_, hSource, -, hFree, rfl⟩ := write_eq_ok hWrite
  have hWritten := keeps_put hFree (some (.file content))
  have hFrom := entry_put_self (t := t) (ne_nil_of_entry_ne hFree) (some (.file content))
  have hSource' := hWritten.locate_eq_ok hSource
  obtain ⟨from', goal, found, hLocate, hTarget, hFound, hGoal, hOpen, hMoved⟩ := move_eq_ok hMove
  obtain rfl : from_ = from' := Except.ok.inj (hSource'.symm.trans hLocate)
  have hContent : found = content := by
    rw [hFrom] at hFound
    cases hFound
    rfl
  rw [hContent] at hMoved
  refine ⟨from_, goal, ?_⟩
  by_cases hSame : from_ = goal
  · rw [if_pos hSame] at hMoved
    rw [hMoved]
    refine ⟨hWritten, hSource', hTarget, hSame ▸ hFrom, hOpen, fun hne => absurd hSame hne, ?_⟩
    intro q hq _
    exact entry_put_of_ne hq _
  · rw [if_neg hSame] at hMoved
    rw [hMoved]
    have hPut := keeps_put hGoal (some (.file content))
    have hLeft :
        ((t.put from_ (some (.file content))).put goal (some (.file content))).entry from_ ≠
          some .directory := by
      rw [entry_put_of_ne hSame, hFrom]
      exact nofun
    have hKeeps := hPut.trans (keeps_put hLeft none)
    refine ⟨hWritten.trans hKeeps, hKeeps.locate_eq_ok hSource', hKeeps.locate_eq_ok hTarget, ?_,
      hOpen, fun _ => entry_put_self (ne_nil_of_entry_ne hLeft) none, ?_⟩
    · rw [entry_put_of_ne (Ne.symm hSame), entry_put_self (ne_nil_of_entry_ne hGoal)]
    · intro q hqFrom hqGoal
      rw [entry_put_of_ne hqFrom, entry_put_of_ne hqGoal, entry_put_of_ne hqFrom]

/-- A file may be moved to where it is, if the device allows it. -/
theorem move_self {content : String} (h : t.locate p = .ok place)
    (hEntry : t.entry place = some (.file content)) (hOpen : p.endsOpen = false)
    (hAllowed : t.refusal (.move p p) = none) : t.move p p = .ok t := by
  rw [move, h, ok_bind, ok_bind, hEntry]
  dsimp only
  rw [if_neg (by rw [hOpen]; decide), if_pos rfl]
  exact grant_eq_ok.mpr ⟨hAllowed, rfl⟩

theorem read_of_locate_eq_error {fault : FileFault} (h : t.locate p = .error fault) :
    t.read p = .error fault := by
  rw [read, h]
  rfl

theorem read_of_entry_eq_none (h : t.locate p = .ok place) (hEntry : t.entry place = none) :
    t.read p = .error .notFound := by
  rw [read, h, ok_bind, hEntry]
  rfl

end Worklist.FileTree
