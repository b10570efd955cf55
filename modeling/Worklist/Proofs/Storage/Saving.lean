import Worklist.Proofs.Storage.Directories
import Worklist.Proofs.Tracker.Stored
import Worklist.Storage.DatasetStore

/-!
# Saving a dataset

A dataset that has been saved is loaded again, and one that could not be saved leaves the file that
was there. Nothing changes but the file, its draft and the directories that were missing.

A file that is its own draft is the exception: when the draft cannot be moved, the file is already
written. And what a path leads to when it leads up again, or has a name that no directory can keep,
may depend on directories that have nothing to do with the file. Those that a failed saving leaves
behind are then noticed by the next loading.
-/

namespace Worklist

namespace FileTask

variable {α β : Type}

theorem run_bind (task : FileTask α) (next : α → FileTask β) (t : FileTree) :
    (task >>= next).run t = (next (task.run t).1).run (task.run t).2 := by
  change (task.bind next).run t = _
  induction task generalizing t with
  | done result => rfl
  | await operate resume ih => exact ih _ _

theorem run_pure (result : α) (t : FileTree) : (pure result : FileTask α).run t = (result, t) :=
  rfl

theorem run_ask (question : FileTree → α) (t : FileTree) :
    (ask question).run t = (question t, t) :=
  rfl

theorem run_attempt (operate : FileTree → Except FileFault FileTree) (t : FileTree) :
    (attempt operate).run t = match operate t with
      | .ok u => (.ok (), u)
      | .error fault => (.error fault, t) :=
  rfl

theorem run_perform (operate : FileTree → α × FileTree) (t : FileTree) :
    (perform operate).run t = operate t :=
  rfl

end FileTask

namespace DatasetStore

open FileTree
open Tracker (Dataset)

variable {s : DatasetStore} {d : Dataset} {t u v : FileTree} {content : String}

/-! ### Without waiting -/

theorem run_loadTask (s : DatasetStore) (t : FileTree) : s.loadTask.run t = (s.load t, t) := by
  rw [loadTask, FileTask.run_bind, FileTask.run_ask]
  rfl

theorem run_loadOrEmptyTask (s : DatasetStore) (t : FileTree) :
    s.loadOrEmptyTask.run t = (s.loadOrEmpty t, t) := by
  rw [loadOrEmptyTask, FileTask.run_bind, run_loadTask, loadOrEmpty]
  cases s.load t with
  | ok d => rfl
  | error e =>
    dsimp only
    split_ifs
    · rfl
    · rfl

theorem run_replaceTask (s : DatasetStore) (content : String) (t : FileTree) :
    (s.replaceTask content).run t = s.replace content t := by
  rw [replaceTask, FileTask.run_bind, FileTask.run_attempt, replace]
  cases t.write s.draftPath content with
  | error fault => rfl
  | ok u =>
    dsimp only
    rw [FileTask.run_bind, FileTask.run_attempt]
    cases u.move s.draftPath s.path with
    | error fault => rfl
    | ok v => rfl

theorem run_saveTask (s : DatasetStore) (d : Dataset) (t : FileTree) :
    (s.saveTask d).run t = s.save d t := by
  rw [saveTask, save, prepare]
  cases s.path.parent? with
  | none => exact s.run_replaceTask _ t
  | some parent =>
    dsimp only
    rw [FileTask.run_bind, FileTask.run_perform]
    cases t.makeDirectories parent with
    | mk result u =>
      cases result with
      | error fault => rfl
      | ok _ => exact s.run_replaceTask _ u

/-! ### Loading -/

theorem load_of_read (h : t.read s.path = .ok content) :
    s.load t = (Json.decodeText Dataset.decode content).mapError (.parse s.path) := by
  rw [load, h]
  rfl

theorem load_congr (h : u.read s.path = t.read s.path) : s.load u = s.load t := by
  rw [load, load, h]

/-- No file, and only that, makes the difference between the two ways to load. -/
theorem loadOrEmpty_eq (s : DatasetStore) (t : FileTree) : s.loadOrEmpty t =
    if t.read s.path = .error .notFound then .ok .empty else s.load t := by
  cases hRead : t.read s.path with
  | ok content =>
    rw [if_neg nofun, loadOrEmpty, load_of_read hRead]
    cases Json.decodeText Dataset.decode content with
    | ok d => rfl
    | error fault => rfl
  | error fault =>
    have hLoad : s.load t = .error (.read s.path fault) := by
      rw [load, hRead]
      rfl
    rw [loadOrEmpty, hLoad]
    by_cases hFault : fault = .notFound
    · rw [hFault, if_pos rfl]
      rfl
    · rw [if_neg fun hEq => hFault (Except.error.inj hEq)]
      cases fault with
      | notFound => exact absurd rfl hFault
      | taken => rfl
      | notDirectory => rfl
      | isDirectory => rfl
      | nameTooLong => rfl
      | nullInName => rfl
      | device text => rfl

/-! ### Saving -/

/-- The three ways that saving goes: nothing but directories has been made, a draft is left, or the
draft has been moved into place. -/
inductive Course (s : DatasetStore) (content : String) (t : FileTree) :
    Except StoreError Unit × FileTree → Prop where
  | unwritten {u e} (made : MakesDirectories (t.placesAbove s.path) t u) :
      Course s content t (.error e, u)
  | left {u v e fault} (made : MakesDirectories (t.placesAbove s.path) t u)
      (written : u.write s.draftPath content = .ok v)
      (stuck : v.move s.draftPath s.path = .error fault) : Course s content t (.error e, v)
  | moved {u v w} (made : MakesDirectories (t.placesAbove s.path) t u)
      (written : u.write s.draftPath content = .ok v)
      (moved : v.move s.draftPath s.path = .ok w) : Course s content t (.ok (), w)

theorem makesDirectories_prepare (s : DatasetStore) (t : FileTree) :
    MakesDirectories (t.placesAbove s.path) t (s.prepare t).2 := by
  unfold placesAbove prepare
  cases s.path.parent? with
  | none => exact .refl t
  | some parent =>
    have hMade := t.makesDirectories parent
    dsimp only
    split
    · rename_i u hRun
      rw [hRun] at hMade
      exact hMade
    · rename_i fault u hRun
      rw [hRun] at hMade
      exact hMade

theorem course (s : DatasetStore) (d : Dataset) (t : FileTree) :
    Course s (Json.prettyText d.toJson) t (s.save d t) := by
  have hMade := s.makesDirectories_prepare t
  unfold save
  split
  · rename_i e u hRun
    rw [hRun] at hMade
    exact .unwritten hMade
  · rename_i u hRun
    rw [hRun] at hMade
    unfold replace
    split
    · exact .unwritten hMade
    · rename_i v hWrite
      split
      · rename_i fault hMove
        exact .left hMade hWrite hMove
      · rename_i w hMove
        exact .moved hMade hWrite hMove

/-! ### The draft -/

/-- The name of the file ends like that of a draft. -/
def EndsAsDraft (s : DatasetStore) : Prop :=
  ∃ stem, s.path.names.getLast? = some (stem ++ ".tmp")

/-- The draft has the name of the file itself. -/
def IsOwnDraft (s : DatasetStore) : Prop :=
  s.EndsAsDraft ∧ s.draftPath.names = s.path.names

/-- The file is its own draft, which cannot be moved: the path ends open, or the device refuses. -/
def DraftSticks (s : DatasetStore) (t : FileTree) : Prop :=
  s.IsOwnDraft ∧ (s.path.endsOpen = true ∨ t.refusal (.move s.draftPath s.path) ≠ none)

/-- The draft stands beside the file, under another name unless the file is its own draft. -/
structure DraftsBeside (s : DatasetStore) (above : List String) (name : String) : Prop where
  names_eq : s.path.names = above ++ [name]
  not_up : name ≠ ".."
  draft_eq : s.draftPath.names = above ++ [Path.renamed "tmp" name]
  absolute_eq : s.draftPath.isAbsolute = s.path.isAbsolute
  own : Path.renamed "tmp" name = name → s.path.endsOpen = false → s.draftPath = s.path

theorem renamed_ne_up (name : String) : Path.renamed "tmp" name ≠ ".." := by
  intro hEq
  have hLength := congrArg (fun n => n.toList.length) hEq
  simp [Path.renamed] at hLength

/-- There is a draft only of a file that has a name. -/
theorem exists_draftsBeside (hTree : t.IsTree) (hWrite : t.write s.draftPath content = .ok u) :
    ∃ above name, s.DraftsBeside above name := by
  obtain ⟨place, hLocate, hOpen, hFree, -⟩ := write_eq_ok hWrite
  have hSlash : '/' ∉ "tmp".toList := by decide
  rcases s.path.beside hSlash with ⟨hSame, hLast⟩ | ⟨above, name, hNames, hUp, hDraft, hAbs, hOwn⟩
  · change s.draftPath = s.path at hSame
    rw [hSame] at hLocate hOpen
    rcases hLast with hLast | hLast
    · rw [hLast] at hOpen
      cases hOpen
    · exact absurd (hTree.locate_up hLocate hLast) hFree
  · exact ⟨above, name, hNames, hUp, hDraft, hAbs, hOwn⟩

namespace DraftsBeside

variable {above place : List String} {name : String}

theorem isOwnDraft (h : s.DraftsBeside above name) (hOwn : Path.renamed "tmp" name = name) :
    s.IsOwnDraft := by
  refine ⟨⟨String.ofList (Path.stem name.toList), ?_⟩, ?_⟩
  · rw [h.names_eq, List.getLast?_concat]
    conv_lhs => rw [← hOwn]
    rw [Path.renamed, String.append_assoc]
    rfl
  · rw [h.draft_eq, hOwn, h.names_eq]

theorem locate_path (h : s.DraftsBeside above name) (hLocate : t.locate s.path = .ok place) :
    ∃ at_, t.walk (t.start s.path) above = .ok at_ ∧ t.entry at_ = some .directory ∧
      place = at_ ++ [name] := by
  have hWalk := walk_of_locate hLocate
  rw [h.names_eq] at hWalk
  obtain ⟨at_, hAt, hEntry, ⟨hUp, -⟩ | ⟨-, -, hPlace⟩⟩ := walk_concat_eq_ok.mp hWalk
  · exact absurd hUp h.not_up
  · exact ⟨at_, hAt, hEntry, hPlace⟩

theorem locate_draft (h : s.DraftsBeside above name) (hLocate : t.locate s.draftPath = .ok place) :
    ∃ at_, t.walk (t.start s.path) above = .ok at_ ∧ t.entry at_ = some .directory ∧
      place = at_ ++ [Path.renamed "tmp" name] := by
  have hStart : t.start s.draftPath = t.start s.path := by
    rw [start, start, h.absolute_eq]
  have hWalk := walk_of_locate hLocate
  rw [h.draft_eq, hStart] at hWalk
  obtain ⟨at_, hAt, hEntry, ⟨hUp, -⟩ | ⟨-, -, hPlace⟩⟩ := walk_concat_eq_ok.mp hWalk
  · exact absurd hUp (renamed_ne_up name)
  · exact ⟨at_, hAt, hEntry, hPlace⟩

/-- A draft that cannot be moved although it is the file itself sticks for one of two reasons. -/
theorem draftSticks (h : s.DraftsBeside above name)
    (hWrite : t.write s.draftPath content = .ok u) {fault : FileFault}
    (hStuck : u.move s.draftPath s.path = .error fault)
    (hOwn : Path.renamed "tmp" name = name) : s.DraftSticks t := by
  refine ⟨h.isOwnDraft hOwn, ?_⟩
  by_contra hMoves
  obtain ⟨hOpen, hAllowed⟩ := not_or.mp hMoves
  have hSame := h.own hOwn (Bool.not_eq_true _ |>.mp hOpen)
  obtain ⟨place, hLocate, hClosed, hFree, rfl⟩ := write_eq_ok hWrite
  have hLocate' := (keeps_put hFree (some (.file content))).locate_eq_ok hLocate
  rw [hSame] at hAllowed hStuck hLocate' hClosed
  rw [move_self hLocate' (entry_put_self (ne_nil_of_entry_ne hFree) _) hClosed
    (not_not.mp hAllowed)] at hStuck
  cases hStuck

end DraftsBeside

/-- A draft that is left beside a file changes nothing for who reads the file. -/
theorem read_of_stuck (hTree : t.IsTree) (hWrite : t.write s.draftPath content = .ok u)
    {fault : FileFault} (hStuck : u.move s.draftPath s.path = .error fault)
    (hOther : ¬s.DraftSticks t) : u.read s.path = t.read s.path := by
  obtain ⟨above, name, hBeside⟩ := exists_draftsBeside hTree hWrite
  have hNames : Path.renamed "tmp" name ≠ name := fun hOwn =>
    hOther (hBeside.draftSticks hWrite hStuck hOwn)
  obtain ⟨place, hLocate, -, hFree, rfl⟩ := write_eq_ok hWrite
  obtain ⟨at_, hAt, hEntry, rfl⟩ := hBeside.locate_draft hLocate
  have hKeeps := keeps_put hFree (some (.file content))
  have hAt' := hKeeps.walk_eq_ok hAt
  have hEntry' := hKeeps.directory at_ hEntry
  refine read_congr (locate_congr rfl ?_) ?_
  · rw [hBeside.names_eq, walk_concat_of_ok hAt hEntry hBeside.not_up,
      walk_concat_of_ok hAt' hEntry' hBeside.not_up]
  · intro place hPlace
    obtain ⟨other, hOther, -, rfl⟩ := hBeside.locate_path hPlace
    obtain rfl : other = at_ := Except.ok.inj (hOther.symm.trans hAt)
    apply entry_put_of_ne
    intro hEq
    exact hNames (List.singleton_inj.mp (List.append_cancel_left hEq)).symm

/-! ### What saving promises -/

/-- After a failure the same is read as before by whom directories that have been made go unseen. -/
theorem read_of_failed (hTree : t.IsTree) {e : StoreError} (h : Course s content t (.error e, v))
    (hOther : ¬s.DraftSticks t)
    (hSeen : (∃ place, t.locate s.path = .ok place) ∨
      (∀ q, v.entry q = some .directory → t.entry q = some .directory) ∨
      (".." ∉ s.path.names ∧ ¬HasLongName s.path.names)) : v.read s.path = t.read s.path := by
  generalize hRun : (Except.error e, v) = run at h
  cases h with
  | unwritten hMade =>
    cases hRun
    exact read_of_made_above hTree hMade hSeen
  | @left u v e' fault hMade hWrite hStuck =>
    cases hRun
    have hOther' : ¬s.DraftSticks u := by
      rw [DraftSticks, hMade.refusal_eq]
      exact hOther
    rw [read_of_stuck (hMade.isTree hTree) hWrite hStuck hOther']
    apply read_of_made_above hTree hMade
    refine hSeen.imp_right (Or.imp_left fun hNothing q hq => hNothing q ?_)
    obtain ⟨place, -, -, hFree, rfl⟩ := write_eq_ok hWrite
    exact (keeps_put hFree _).directory q hq
  | moved hMade hWrite hMove => cases hRun

/-- A place that is not the same after saving. -/
inductive Touches (s : DatasetStore) (t : FileTree) (run : Except StoreError Unit × FileTree)
    (q : List String) : Prop where
  /-- The place of the file. -/
  | file (saved : run.1 = .ok ()) (located : run.2.locate s.path = .ok q)
  /-- The place of the draft. -/
  | draft (located : run.2.locate s.draftPath = .ok q)
  /-- A directory above the file that was missing. -/
  | directory (missing : t.entry q = none) (made : run.2.entry q = some .directory)
      (above : q ∈ t.placesAbove s.path)

theorem touches_of_course {run : Except StoreError Unit × FileTree} (h : Course s content t run)
    {q : List String} (hq : run.2.entry q ≠ t.entry q) : s.Touches t run q := by
  cases h with
  | @unwritten u e hMade =>
    rcases hMade.entry q with hSame | ⟨hNone, hNew, hAbove⟩
    · exact absurd hSame hq
    · exact .directory hNone hNew hAbove
  | @left u v e fault hMade hWrite hStuck =>
    obtain ⟨place, hLocate, -, hFree, rfl⟩ := write_eq_ok hWrite
    by_cases hPlace : q = place
    · rw [hPlace]
      exact .draft ((keeps_put hFree _).locate_eq_ok hLocate)
    · have hOther := entry_put_of_ne hPlace (t := u) (some (.file content))
      rcases hMade.entry q with hSame | ⟨hNone, hNew, hAbove⟩
      · exact absurd (hOther.trans hSame) hq
      · exact .directory hNone (hOther.trans hNew) hAbove
  | @moved u v w hMade hWrite hMove =>
    obtain ⟨from_, goal, -, hDraft, hFile, -, -, -, hRest⟩ := write_move_eq_ok hWrite hMove
    by_cases hFrom : q = from_
    · rw [hFrom]
      exact .draft hDraft
    by_cases hGoal : q = goal
    · rw [hGoal]
      exact .file rfl hFile
    · have hOther := hRest q hFrom hGoal
      rcases hMade.entry q with hSame | ⟨hNone, hNew, hAbove⟩
      · exact absurd (hOther.trans hSame) hq
      · exact .directory hNone (hOther.trans hNew) hAbove

/-- What saving and loading a dataset promise. -/
structure IsSafe (s : DatasetStore) (d : Dataset) (t : FileTree) : Prop where
  /-- What has been saved is loaded. -/
  loaded : (s.save d t).1 = .ok () →
    s.load (s.save d t).2 = .ok d ∧ s.loadOrEmpty (s.save d t).2 = .ok d
  /-- Then there is no draft, unless the file is called like one. -/
  draft_gone : (s.save d t).1 = .ok () → ¬s.EndsAsDraft →
    ∃ place, (s.save d t).2.locate s.draftPath = .ok place ∧ (s.save d t).2.entry place = none
  /-- A failure leaves the content of the file that is there, unless it is its own draft. -/
  kept : ∀ e, (s.save d t).1 = .error e → ¬s.DraftSticks t → ∀ content,
    t.read s.path = .ok content → (s.save d t).2.read s.path = .ok content
  /-- After a failure the same is read as before, unless the file is its own draft or directories
  that have been made are seen by a path that leads up or has a name that is too long. -/
  as_before : ∀ e, (s.save d t).1 = .error e → ¬s.DraftSticks t →
    ((".." ∉ s.path.names ∧ ¬HasLongName s.path.names) ∨
      ∀ q, (s.save d t).2.entry q = some .directory → t.entry q = some .directory) →
    (s.save d t).2.read s.path = t.read s.path ∧ s.load (s.save d t).2 = s.load t
  /-- Nothing else changes. -/
  frame : ∀ q, (s.save d t).2.entry q ≠ t.entry q → s.Touches t (s.save d t) q
  /-- The two ways to load differ where there is no file. -/
  empty : s.loadOrEmpty t =
    if t.read s.path = .error .notFound then .ok .empty else s.load t
  /-- Loading changes nothing, and nothing depends on whether the files are waited for. -/
  tasks : s.loadTask.run t = (s.load t, t) ∧ s.loadOrEmptyTask.run t = (s.loadOrEmpty t, t) ∧
    (s.saveTask d).run t = s.save d t

/-- Saving puts the whole dataset in place or leaves what is there. -/
theorem save_is_safe (s : DatasetStore) {d : Dataset} {t : FileTree} (hTree : t.IsTree)
    (hDates : d.InCalendar) : s.IsSafe d t := by
  have hCourse := s.course d t
  have hFailed : ∀ e, (s.save d t).1 = .error e →
      Course s (Json.prettyText d.toJson) t (.error e, (s.save d t).2) := by
    intro e he
    rw [← he]
    exact hCourse
  have hMoved : (s.save d t).1 = .ok () → ∃ u v, MakesDirectories (t.placesAbove s.path) t u ∧
      u.write s.draftPath (Json.prettyText d.toJson) = .ok v ∧
      v.move s.draftPath s.path = .ok (s.save d t).2 := by
    intro hOk
    generalize s.save d t = run at hCourse hOk
    cases hCourse with
    | unwritten => cases hOk
    | left => cases hOk
    | moved hMade hWrite hMove => exact ⟨_, _, hMade, hWrite, hMove⟩
  constructor
  case loaded =>
    intro hOk
    obtain ⟨u, v, hMade, hWrite, hMove⟩ := hMoved hOk
    obtain ⟨from_, goal, -, -, hFile, hEntry, hOpen, -, -⟩ := write_move_eq_ok hWrite hMove
    have hRead := read_eq_ok.mpr ⟨goal, hFile, hEntry, hOpen⟩
    have hLoad : s.load (s.save d t).2 = .ok d := by
      rw [load_of_read hRead, Dataset.decode_written hDates]
      rfl
    refine ⟨hLoad, ?_⟩
    rw [loadOrEmpty, hLoad]
  case draft_gone =>
    intro hOk hName
    obtain ⟨u, v, hMade, hWrite, hMove⟩ := hMoved hOk
    obtain ⟨above, name, hBeside⟩ := exists_draftsBeside (hMade.isTree hTree) hWrite
    obtain ⟨from_, goal, -, hDraft, hFile, -, -, hGone, -⟩ := write_move_eq_ok hWrite hMove
    refine ⟨from_, hDraft, hGone ?_⟩
    intro hSame
    obtain ⟨at_, hAt, -, rfl⟩ := hBeside.locate_draft hDraft
    obtain ⟨other, hOther, -, rfl⟩ := hBeside.locate_path hFile
    obtain rfl : other = at_ := Except.ok.inj (hOther.symm.trans hAt)
    have hOwn := List.singleton_inj.mp (List.append_cancel_left hSame)
    exact hName (hBeside.isOwnDraft hOwn).1
  case kept =>
    intro e he hOther content hRead
    obtain ⟨place, hLocate, -⟩ := read_eq_ok.mp hRead
    rw [read_of_failed hTree (hFailed e he) hOther (.inl ⟨place, hLocate⟩)]
    exact hRead
  case as_before =>
    intro e he hOther hSeen
    have hRead := read_of_failed hTree (hFailed e he) hOther (.inr hSeen.symm)
    exact ⟨hRead, load_congr hRead⟩
  case frame => exact fun q hq => touches_of_course hCourse hq
  case empty => exact s.loadOrEmpty_eq t
  case tasks => exact ⟨s.run_loadTask t, s.run_loadOrEmptyTask t, s.run_saveTask d t⟩

/-- A store in a directory that is missing. -/
def fresh : DatasetStore :=
  ⟨⟨"data/dataset.json"⟩⟩

theorem leapItem_is_saved :
    IsSafe fresh ⟨[], [], [], [Dataset.leapItem]⟩ (.empty ["home"]) ∧
      (fresh.save ⟨[], [], [], [Dataset.leapItem]⟩ (.empty ["home"])).1 = .ok () := by
  have hDates : Dataset.InCalendar ⟨[], [], [], [Dataset.leapItem]⟩ := by
    refine List.forall_mem_singleton.mpr ⟨?_, nofun⟩
    rintro _ ⟨⟩
    exact show Timestamp.inCalendar 2016 = true by decide
  exact ⟨save_is_safe fresh (isTree_empty _) hDates, rfl⟩

/-- Why a file could not be read. -/
def readFault? : Except StoreError Dataset → Option FileFault
  | .error (.read _ fault) => some fault
  | _ => none

/-- Saving fails where there was nothing, and the next loading notices what it has left. -/
structure LeavesTrace (s : DatasetStore) (fault : FileFault) : Prop where
  missing : readFault? (s.load (.empty [])) = some .notFound
  failed : (s.save .empty (.empty [])).1.isOk = false
  noticed : readFault? (s.load (s.save .empty (.empty [])).2) = some fault

/-- Saving fails, and the file that was there no longer holds what it held. -/
structure LosesContent (s : DatasetStore) (t : FileTree) (old : String) : Prop where
  held : t.read s.path = .ok old
  failed : (s.save .empty t).1.isOk = false
  lost : (s.save .empty t).2.read s.path ≠ .ok old

/-- A store whose path leads into a directory and out of it again. -/
def climbing : DatasetStore :=
  ⟨⟨"data.json/../data.json"⟩⟩

/-- A store whose path is that of its draft, with a slash behind it. -/
def openDraft : DatasetStore :=
  ⟨⟨"data.tmp/"⟩⟩

/-- A store whose file is its own draft. -/
def ownDraft : DatasetStore :=
  ⟨⟨"data.tmp"⟩⟩

/-- A file where `ownDraft` keeps one, on a device that refuses to move it to where it is. -/
def stuckDraft : FileTree where
  entries place := if place = ["data.tmp"] then some (.file "old") else none
  refusal o := if o = .move ownDraft.path ownDraft.path then some (.device "refused") else none
  workingDirectory := []

theorem isTree_stuckDraft : stuckDraft.IsTree := by
  refine ⟨stuckDraft.entry_nil, ?_⟩
  intro place name hSome
  cases place with
  | nil => exact stuckDraft.entry_nil
  | cons first rest =>
    have hNone : stuckDraft.entry (first :: rest ++ [name]) = none := by
      simp [stuckDraft, FileTree.entry]
    exact absurd hNone hSome

/-- The directory that is made, or the draft, takes the place of the file. What was no file before
is then something else, and what was one holds something else. -/
theorem failed_saves_leave_traces : (empty []).IsTree ∧ stuckDraft.IsTree ∧
    Dataset.empty.InCalendar ∧ LeavesTrace climbing .isDirectory ∧
    LeavesTrace openDraft .notDirectory ∧ LosesContent ownDraft stuckDraft "old" := by
  refine ⟨isTree_empty [], isTree_stuckDraft, nofun, ⟨rfl, rfl, rfl⟩, ⟨rfl, rfl, rfl⟩, rfl, rfl, ?_⟩
  have hRead : (ownDraft.save .empty stuckDraft).2.read ownDraft.path =
      .ok (Json.prettyText Dataset.empty.toJson) := rfl
  rw [hRead]
  decide

end DatasetStore

end Worklist
