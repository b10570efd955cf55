import Worklist.Proofs.CommandLine.Run

/-!
# Settings over many runs

A run that changes a setting either fails, and then the configuration is what it was, or gives the
setting its new value and leaves the others. So what starts without a configuration never comes to
one that cannot be loaded, whatever is run.

The path of the configuration may lead through a directory that is missing and out of it again. When
that directory is made, the path may come to lead to something, so it is left out where the next run
is spoken of.
-/

namespace Worklist.CommandLine

variable {env : Environment} {t u : FileTree} {p : Path} {c c' : Config} {key value : String}

/-! ### Asking for a change -/

theorem readLevels_of_stay {r r' : Reading} {arg : String} {rest : List String}
    (h : r.step arg rest = .ok (.stay r')) :
    readLevels env r (arg :: rest) = readLevels env r' rest := by
  rw [readLevels, h, ok_bind]

theorem readLevels_of_enter {r : Reading} {v : Verb} {l : Level} {below : List Level} {arg : String}
    {rest : List String} (h : r.step arg rest = .ok (.enter v))
    (hBelow : readLevels env (.start v) rest = .ok below) (hFinish : r.finish env = .ok l) :
    readLevels env r (arg :: rest) = .ok (l :: below) := by
  rw [readLevels, h, ok_bind]
  dsimp only
  rw [hBelow, ok_bind, hFinish, ok_bind]
  rfl

theorem finish_of_operands {r : Reading} (hFile : env.dataFile ≠ some "")
    (hPending : r.pending = none) (hGiven : r.level.given = [])
    (hNeeded : r.level.verb.neededSwitches = [])
    (hOperands : r.level.verb.operands.length ≤ r.level.operands.length) :
    r.finish env = .ok r.level := by
  have hData : env.dataFile.any (!Switch.data.accepts ·) = false := by
    cases hSome : env.dataFile with
    | none => rfl
    | some file =>
      have hne : file ≠ "" := fun hEq => hFile (by rw [hSome, hEq])
      simp [Switch.accepts, hne]
  have hHas : ∀ s, r.level.has s = false := by
    intro s
    rw [Level.has, hGiven]
    rfl
  rw [Reading.finish, Reading.settle, hPending]
  simp [ok_bind, hData, hHas, hNeeded, hOperands, pure, Except.pure, throw, throwThe,
    MonadExceptOf.throw]

/-- Every key and every value can be asked for, whatever they look like. -/
theorem read_change (hFile : env.dataFile ≠ some "") (key value : String) : ∃ levels,
    read env ["config", "set", "--", key, value] = .ok levels ∧
      (Invocation.ofLevels env levels).command = .configSet key value := by
  have hSet : readLevels env (.start .configSet) ["--", key, value] =
      .ok [⟨.configSet, [], [key, value]⟩] := by
    have hHyphens : (Reading.start .configSet).step "--" [key, value] =
        .ok (.stay ⟨⟨.configSet, [], []⟩, none, true⟩) := rfl
    have hKey : Reading.step ⟨⟨.configSet, [], []⟩, none, true⟩ key [value] =
        .ok (.stay ⟨⟨.configSet, [], [key]⟩, none, true⟩) := rfl
    have hValue : Reading.step ⟨⟨.configSet, [], [key]⟩, none, true⟩ value [] =
        .ok (.stay ⟨⟨.configSet, [], [key, value]⟩, none, true⟩) := rfl
    have hFinish : Reading.finish ⟨⟨.configSet, [], [key, value]⟩, none, true⟩ env =
        .ok ⟨.configSet, [], [key, value]⟩ :=
      finish_of_operands hFile rfl rfl rfl (Nat.le_refl 2)
    rw [readLevels_of_stay hHyphens, readLevels_of_stay hKey, readLevels_of_stay hValue,
      readLevels, hFinish]
    rfl
  have hConfig : (Reading.start .config).finish env = .ok ⟨.config, [], []⟩ :=
    finish_of_operands hFile rfl rfl rfl (Nat.le_refl 0)
  have hProgram : (Reading.start .program).finish env = .ok ⟨.program, [], []⟩ :=
    finish_of_operands hFile rfl rfl rfl (Nat.le_refl 0)
  have hRead : read env ["config", "set", "--", key, value] =
      .ok [⟨.program, [], []⟩, ⟨.config, [], []⟩, ⟨.configSet, [], [key, value]⟩] := by
    rw [read]
    exact readLevels_of_enter rfl (readLevels_of_enter rfl hSet hConfig) hProgram
  exact ⟨_, hRead, rfl⟩

/-! ### One run -/

/-- The two ends of changing a setting. -/
inductive Changes (env : Environment) (t : FileTree) (p : Path) (c : Config) (key value : String)
    (o : Outcome) : Prop where
  | failed (status_ne : o.status ≠ 0) (contents : ∀ q, o.files.content? q = t.content? q)
      (kept : ∀ content, t.read p = .ok content → o.files.read p = .ok content)
      (load_eq : t.IsSteady p → Config.load env o.files = .ok c)
  | changed {s : Setting} {c' : Config} (status_eq : o.status = 0) (key_eq : s.key = key)
      (load_eq : Config.load env o.files = .ok c') (replaces : c.Replaces c' s value)

theorem changes_of_course {inv : Invocation} {o : Outcome} (hTree : t.IsTree)
    (hPath : Config.path env = .ok p) (hCommand : inv.command = .configSet key value)
    (hLoad : Config.load env t = .ok c) (hCourse : inv.Course env t o) :
    Changes env t p c key value o := by
  cases hCourse with
  | answered hReads => exact absurd hCommand (hReads key value)
  | failed e => exact .failed e.status_ne_zero (fun _ => rfl) (fun _ h => h) fun _ => hLoad
  | unsaved hCommand' hPath' hLoad' hSet hSave =>
    obtain rfl := Except.ok.inj (hPath.symm.trans hPath')
    refine .failed (show (5 : UInt32) ≠ 0 by decide) (Config.made_of_unsaved hSave).content?_eq
      (fun _ => Config.read_of_unsaved hTree hSave) fun hSteady => ?_
    exact (Config.load_of_unsaved hPath hTree hSteady hSave).trans hLoad
  | saved hCommand' hPath' hLoad' hSet hSave =>
    obtain ⟨rfl, rfl⟩ := Command.configSet.inj (hCommand.symm.trans hCommand')
    obtain rfl := Except.ok.inj (hPath.symm.trans hPath')
    obtain rfl := Except.ok.inj (hLoad.symm.trans hLoad')
    obtain ⟨s, hKey, hReplaces, -⟩ := Config.set_eq_ok hSet
    exact .changed rfl hKey (Config.load_of_saved hPath hSave) hReplaces

/-! ### Many runs -/

/-- There is a configuration, whose hosts can all be registered, or none. -/
structure IsUsable (env : Environment) (p : Path) (t : FileTree) : Prop where
  isTree : t.IsTree
  isSteady : t.IsSteady p
  loads : ∃ c, Config.load env t = .ok c ∧ c.Registers

theorem IsUsable.of_course {inv : Invocation} {o : Outcome} (h : IsUsable env p t)
    (hPath : Config.path env = .ok p) (hCourse : inv.Course env t o) : IsUsable env p o.files := by
  cases hCourse with
  | answered _ => exact h
  | failed e => exact h
  | @unsaved key value p' c changed e u _ hPath' _ _ hSave =>
    obtain rfl := Except.ok.inj (hPath.symm.trans hPath')
    have hTree := Config.isTree_save h.isTree p changed
    have hSteady := Config.isSteady_save h.isSteady changed
    rw [hSave] at hTree hSteady
    refine ⟨hTree, hSteady, ?_⟩
    rw [Config.load_of_unsaved hPath h.isTree h.isSteady hSave]
    exact h.loads
  | @saved key value p' c changed u output _ hPath' hLoad hSet hSave =>
    obtain rfl := Except.ok.inj (hPath.symm.trans hPath')
    have hTree := Config.isTree_save h.isTree p changed
    have hSteady := Config.isSteady_save h.isSteady changed
    rw [hSave] at hTree hSteady
    obtain ⟨other, hOther, hHosts⟩ := h.loads
    obtain rfl := Except.ok.inj (hOther.symm.trans hLoad)
    obtain ⟨s, -, -, hRegisters⟩ := Config.set_eq_ok hSet
    exact ⟨hTree, hSteady, changed, Config.load_of_saved hPath hSave, hRegisters hHosts⟩

theorem IsUsable.run (h : IsUsable env p t) (hPath : Config.path env = .ok p)
    (args : List String) : IsUsable env p (run env t args).files := by
  cases hRead : read env args with
  | error refusal =>
    rw [(run_of_error hRead t).1]
    exact h
  | ok levels =>
    rw [run_of_read hRead t]
    exact h.of_course hPath ((Invocation.ofLevels env levels).course env t)

/-- The files after runs of several command lines, one after the other. -/
def runAll (env : Environment) (t : FileTree) (commands : List (List String)) : FileTree :=
  commands.foldl (fun t args => (run env t args).files) t

theorem IsUsable.runAll (h : IsUsable env p t) (hPath : Config.path env = .ok p)
    (commands : List (List String)) : IsUsable env p (runAll env t commands) := by
  -- The induction is on the command lines; the files change with each of them.
  induction commands generalizing t with
  | nil => exact h
  | cons args commands ih => exact ih (h.run hPath args)

theorem isUsable_of_not_contains (hTree : t.IsTree) (hPath : Config.path env = .ok p)
    (hSteady : t.IsSteady p) (h : t.contains p = false) : IsUsable env p t :=
  ⟨hTree, hSteady, .empty, Config.load_of_not_contains hPath h, Config.registers_empty⟩

/-! ### What changing settings promises -/

/-- What changing settings promises. -/
structure KeepsSettings (env : Environment) (p : Path) (t : FileTree) : Prop where
  /-- There is a run for every key and every value. -/
  asked : env.dataFile ≠ some "" → ∀ key value, ∃ levels,
    read env ["config", "set", "--", key, value] = .ok levels ∧
      (Invocation.ofLevels env levels).command = .configSet key value
  /-- A run that changes a setting replaces its value, or fails and leaves the file. -/
  changes : ∀ args levels key value c, read env args = .ok levels →
    (Invocation.ofLevels env levels).command = .configSet key value →
    Config.load env t = .ok c → Changes env t p c key value (run env t args)
  /-- From no configuration no runs lead to one that is of no use. -/
  usable : t.contains p = false → t.IsSteady p → ∀ commands, ∃ c,
    Config.load env (runAll env t commands) = .ok c ∧ c.Registers ∧
      1 ≤ c.pageSizes.defaultLimit ∧ c.pageSizes.defaultLimit ≤ c.pageSizes.maxLimit

/-- The configuration stays what it was or becomes what it was meant to be. -/
theorem settings_are_kept (hTree : t.IsTree) (hPath : Config.path env = .ok p) :
    KeepsSettings env p t := by
  constructor
  case asked => exact read_change
  case changes =>
    intro args levels key value c hRead hCommand hLoad
    have hCourse := (Invocation.ofLevels env levels).course env t
    rw [run_of_read hRead t]
    exact changes_of_course hTree hPath hCommand hLoad hCourse
  case usable =>
    intro hNone hSteady commands
    have hStart := isUsable_of_not_contains hTree hPath hSteady hNone
    obtain ⟨c, hLoad, hHosts⟩ := (hStart.runAll hPath commands).loads
    exact ⟨c, hLoad, hHosts, c.pageSizes_bounds⟩

theorem settings_at_home_are_kept :
    KeepsSettings homeOnly ⟨"home/.config/wit/config.toml"⟩ (.empty ["home"]) ∧
      (FileTree.empty ["home"]).contains ⟨"home/.config/wit/config.toml"⟩ = false ∧
      (FileTree.empty ["home"]).IsSteady ⟨"home/.config/wit/config.toml"⟩ :=
  ⟨settings_are_kept (FileTree.isTree_empty _) rfl, rfl, .inl (by decide)⟩

/-- An environment whose configuration stands where the path leads into a directory and out of it
again. -/
def climbing : Environment :=
  { homeOnly with configFile := some "config.toml/../config.toml" }

/-- Saving fails when the directory that it makes takes the place of the file, and then there is no
configuration that could be loaded. -/
theorem climbing_change_is_noticed :
    (FileTree.empty []).contains ⟨"config.toml/../config.toml"⟩ = false ∧
      Config.load climbing (.empty []) = .ok .empty ∧
      (run climbing (.empty []) ["config", "set", "output.color", "off"]).status = 5 ∧
      Config.load climbing
          (run climbing (.empty []) ["config", "set", "output.color", "off"]).files =
        .error (.read .isDirectory) :=
  ⟨rfl, rfl, rfl, rfl⟩

end Worklist.CommandLine
