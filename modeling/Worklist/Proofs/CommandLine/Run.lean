import Worklist.CommandLine.Run
import Worklist.Proofs.CommandLine.Procedure
import Worklist.Proofs.Config.Store
import Worklist.Proofs.Lists
import Worklist.Proofs.Storage.Saving

/-!
# What a run prints and changes

A run that fails prints nothing and leaves what every file holds. One that succeeds changes the file
of the configuration at most, and only where a setting is changed. How a run fails depends neither
on how its result would have been shown nor on what the configuration says of colors.
-/

namespace Worklist.CommandLine

open Procedure

variable {ctx ctx' : Context} {config config' : Config} {env : Environment} {t u : FileTree}

/-! ### Results -/

theorem prints_show (ctx : Context) (value : Json) (text : List Char) :
    (ctx.show value text).Prints := by
  unfold Context.show
  split_ifs
  · exact prints_print _
  · exact prints_pure
  · exact prints_print _

theorem run_await_loadOrEmptyTask (store : DatasetStore) (s : Session) :
    (await store.loadOrEmptyTask : Procedure CommandError _).run s =
      (.ok (store.loadOrEmpty s.files), s) := by
  rw [await, run_operate, DatasetStore.run_loadOrEmptyTask]

theorem reads_loadDataset (ctx : Context) (config : Config) : (loadDataset ctx config).Reads := by
  refine (reads_ofExcept _).bind fun store => (reads_ask _).bind fun present => ?_
  refine (reads_warnUnless _ _).bind fun _ => Reads.bind (fun s => ?_) fun _ => reads_ofExcept _
  rw [run_await_loadOrEmptyTask]
  exact ⟨rfl, rfl⟩

/-- The dataset that is loaded, whatever is said of it. -/
theorem result_loadDataset (ctx : Context) (config : Config) (s : Session) :
    ((loadDataset ctx config).run s).1 = match ctx.dataPath? config with
      | some path => ((DatasetStore.mk path).loadOrEmpty s.files).mapError .store
      | none => .error (.store .noDataDirectory) := by
  rw [loadDataset, run_bind, run_ofExcept]
  cases ctx.dataPath? config with
  | none => rfl
  | some path =>
    dsimp only
    rw [run_bind, run_ask]
    dsimp only
    rw [run_bind, run_warnUnless]
    dsimp only
    rw [run_bind, run_await_loadOrEmptyTask]
    cases s.files.contains path with
    | true => rfl
    | false => rfl

/-! ### One run -/

theorem answers_execute {command : Command} (h : ∀ key value, command ≠ .configSet key value) :
    (execute ctx config command).Answers := by
  cases command with
  | overview =>
    rw [execute]
    split_ifs
    · exact prints_pure.answers
    · exact (prints_print _).answers
  | filter text => exact (reads_ofExcept _).answers fun filter => (prints_show _ _ _).answers
  | links path offset limit count found query =>
    exact (reads_ofExcept _).answers fun links => (prints_show _ _ _).answers
  | list filter offset limit space backlog =>
    refine (reads_loadDataset ctx config).answers fun d => ?_
    exact (reads_ofExcept _).answers fun page => (prints_show _ _ _).answers
  | search text host filter offset limit =>
    refine (reads_loadDataset ctx config).answers fun d => ?_
    exact (reads_ofExcept _).answers fun page => (prints_show _ _ _).answers
  | configShow =>
    refine (reads_ask _).answers fun c => (reads_ofExcept _).answers fun path => ?_
    exact (reads_ask _).answers fun present => (prints_show _ _ _).answers
  | configSet key value => exact absurd rfl (h key value)
  | configPath =>
    refine (reads_ofExcept _).answers fun path => (reads_ask _).answers fun present => ?_
    split_ifs
    · exact (prints_print _).answers
    · exact (prints_print _).answers
  | completions shell => exact (reads_ofExcept _).answers fun script => (prints_print _).answers

/-- The ways that changing a setting goes: it comes to nothing, or the configuration cannot be saved
or is saved. -/
inductive ChangeCourse (ctx : Context) (key value : String) (s : Session) :
    Except CommandError Unit × Session → Prop where
  | refused {e} : ChangeCourse ctx key value s (.error e, s)
  | unsaved {p c changed e u} (path_eq : Config.path ctx.env = .ok p)
      (load_eq : Config.load ctx.env s.files = .ok c) (set_eq : c.set key value = .ok changed)
      (save_eq : changed.save p s.files = (.error e, u)) :
      ChangeCourse ctx key value s (.error (.config e), { s with files := u })
  | saved {p c changed u output} (path_eq : Config.path ctx.env = .ok p)
      (load_eq : Config.load ctx.env s.files = .ok c) (set_eq : c.set key value = .ok changed)
      (save_eq : changed.save p s.files = (.ok (), u)) :
      ChangeCourse ctx key value s (.ok (), { s with output := output, files := u })

theorem changeConfig_course (ctx : Context) (key value : String) (s : Session) :
    ChangeCourse ctx key value s ((changeConfig ctx key value).run s) := by
  -- Whatever fails before the configuration is saved has changed and printed nothing.
  rw [changeConfig, run_bind, loadConfig, run_ask]
  cases hLoad : Config.load ctx.env s.files with
  | error e => exact .refused
  | ok c =>
    change ChangeCourse ctx key value s (Procedure.run _ s)
    rw [run_bind, configPath, run_ofExcept]
    cases hPath : Config.path ctx.env with
    | error e => exact .refused
    | ok p =>
      change ChangeCourse ctx key value s (Procedure.run _ s)
      rw [run_bind, run_ofExcept]
      cases hSet : c.set key value with
      | error e => exact .refused
      | ok changed =>
        change ChangeCourse ctx key value s (Procedure.run _ s)
        rw [run_bind, run_operate]
        cases hSave : changed.save p s.files with
        | mk result u =>
          cases result with
          | error e => exact .unsaved hPath hLoad hSet hSave
          | ok _ =>
            change ChangeCourse ctx key value s (Procedure.run _ { s with files := u })
            obtain ⟨text, hText⟩ := prints_show ctx _ _ { s with files := u }
            rw [hText]
            exact .saved hPath hLoad hSet hSave

/-- The ways that a run goes: it prints something, or fails first; or it changes a setting, which
cannot be saved or is saved. -/
inductive Invocation.Course (inv : Invocation) (env : Environment) (t : FileTree) :
    Outcome → Prop where
  | answered {output warnings} (reads : ∀ key value, inv.command ≠ .configSet key value) :
      Course inv env t ⟨0, output, "", warnings, t⟩
  | failed {warnings} (e : CommandError) :
      Course inv env t ⟨e.status, "", e.report inv.json, warnings, t⟩
  | unsaved {key value p c changed e u} (command_eq : inv.command = .configSet key value)
      (path_eq : Config.path env = .ok p) (load_eq : Config.load env t = .ok c)
      (set_eq : c.set key value = .ok changed) (save_eq : changed.save p t = (.error e, u)) :
      Course inv env t ⟨5, "", (CommandError.config e).report inv.json, [], u⟩
  | saved {key value p c changed u output} (command_eq : inv.command = .configSet key value)
      (path_eq : Config.path env = .ok p) (load_eq : Config.load env t = .ok c)
      (set_eq : c.set key value = .ok changed) (save_eq : changed.save p t = (.ok (), u)) :
      Course inv env t ⟨0, output, "", [], u⟩

theorem Invocation.wanted_nil (inv : Invocation) (env : Environment) : inv.wanted env [] = [] :=
  ite_self _

theorem Invocation.run_eq (inv : Invocation) (env : Environment) (t : FileTree) :
    inv.run env t = match Config.load env t with
      | .error e => ⟨5, "", (CommandError.config e).report inv.json, [], t⟩
      | .ok c => match (execute (inv.context env c) c inv.command).run (.start t) with
        | (.ok (), s) => ⟨0, s.output, "", inv.wanted env s.warnings, s.files⟩
        | (.error e, s) =>
          ⟨e.status, s.output, e.report inv.json, inv.wanted env s.warnings, s.files⟩ := by
  rw [Invocation.run, Invocation.perform, run_bind, loadConfig, run_ask, Session.start]
  cases Config.load env t with
  | error e =>
    change Outcome.mk 5 "" _ (inv.wanted env []) t = _
    rw [inv.wanted_nil]
  | ok c => rfl

theorem Invocation.course (inv : Invocation) (env : Environment) (t : FileTree) :
    inv.Course env t (inv.run env t) := by
  rw [inv.run_eq]
  cases hLoad : Config.load env t with
  | error e => exact .failed (.config e)
  | ok c =>
    dsimp only
    by_cases hReads : ∀ key value, inv.command ≠ .configSet key value
    · obtain ⟨hFiles, hOutput⟩ := answers_execute hReads (.start t)
      generalize (execute (inv.context env c) c inv.command).run (.start t) = run at hFiles hOutput
      rcases run with ⟨e | _, s⟩
      all_goals obtain rfl : s.files = t := hFiles
      · have hSilent : s.output = "" := hOutput e rfl
        dsimp only
        rw [hSilent]
        exact .failed e
      · exact .answered hReads
    · simp only [not_forall, not_not] at hReads
      obtain ⟨key, value, hCommand⟩ := hReads
      have hChange := changeConfig_course (inv.context env c) key value (.start t)
      rw [hCommand, execute]
      generalize (changeConfig (inv.context env c) key value).run (.start t) = run at hChange
      cases hChange with
      | @refused e => exact .failed e
      | unsaved hPath hLoad hSet hSave =>
        dsimp only [Session.start]
        rw [inv.wanted_nil]
        exact .unsaved hCommand hPath hLoad hSet hSave
      | saved hPath hLoad hSet hSave =>
        dsimp only [Session.start]
        rw [inv.wanted_nil]
        exact .saved hCommand hPath hLoad hSet hSave

theorem CommandError.status_ne_zero (e : CommandError) : e.status ≠ 0 := by
  unfold status
  split
  all_goals decide

/-! ### Two runs -/

/-- Files that make no difference to how a run ends: the configuration may say something else of
colors, and files that are not read may hold something else. -/
structure Alike (env : Environment) (data? : Option Path) (t u : FileTree) : Prop where
  shape : t.SameShape u
  config : (Config.load env u).map Config.uncolored = (Config.load env t).map Config.uncolored
  dataset : ∀ p ∈ data?, u.read p = t.read p

variable {P : FileTree → FileTree → Prop}

theorem agree_loadConfig (h : ∀ t u, P t u →
    (Config.load env u).map Config.uncolored = (Config.load env t).map Config.uncolored) :
    Agree P P (fun c c' => c'.uncolored = c.uncolored) (loadConfig env) (loadConfig env) := by
  refine agree_ask _ fun t u hFiles => ?_
  rw [map_mapError, map_mapError, h t u hFiles]

theorem agree_configPath (env : Environment) :
    Agree P P (fun p p' => p' = p) (configPath env) (configPath env) :=
  agree_ofExcept id rfl

theorem loadOrEmpty_congr {store : DatasetStore} (h : u.read store.path = t.read store.path) :
    store.loadOrEmpty u = store.loadOrEmpty t := by
  rw [DatasetStore.loadOrEmpty, DatasetStore.loadOrEmpty, DatasetStore.load_congr h]

/-- Contexts of the same command, which differ in how its result is shown. -/
structure SameTask (ctx : Context) (config : Config) (ctx' : Context) (config' : Config) :
    Prop where
  data_eq : ctx'.data = ctx.data
  env_eq : ctx'.env = ctx.env
  config_eq : config'.uncolored = config.uncolored

namespace SameTask

variable (h : SameTask ctx config ctx' config')

include h

theorem dataPath?_eq : ctx'.dataPath? config' = ctx.dataPath? config := by
  rw [Context.dataPath?, Context.dataPath?, h.data_eq, h.env_eq, Config.eq_of_uncolored h.config_eq]

theorem agree_loadDataset :
    Agree (Alike env (ctx.dataPath? config)) (Alike env (ctx.dataPath? config))
      (fun d d' => d' = d) (loadDataset ctx config) (loadDataset ctx' config') := by
  intro s s' hFiles
  have hResult := result_loadDataset ctx config s
  have hResult' := result_loadDataset ctx' config' s'
  have hLoaded : ((loadDataset ctx' config').run s').1 = ((loadDataset ctx config).run s).1 := by
    rw [hResult, hResult', h.dataPath?_eq]
    cases hPath : ctx.dataPath? config with
    | none => rfl
    | some path =>
      have hSame : (DatasetStore.mk path).loadOrEmpty s'.files =
          (DatasetStore.mk path).loadOrEmpty s.files :=
        loadOrEmpty_congr (hFiles.dataset path (by rw [hPath]; rfl))
      dsimp only
      rw [hSame]
  have hLeft := (reads_loadDataset ctx config s).1
  have hLeft' := (reads_loadDataset ctx' config' s').1
  exact .of_eq hLoaded (by rw [hLeft, hLeft']; exact hFiles)

theorem listItems_eq (d : Tracker.Dataset) (filter offset : Option String) (limit : Option Int64)
    (space : Option String) (backlog : Bool) :
    listItems config' d filter offset limit space backlog =
      listItems config d filter offset limit space backlog := by
  rw [listItems, listItems, Config.pageSizes_of_uncolored h.config_eq]

theorem searchItems_eq (d : Tracker.Dataset) (text : String) (host filter offset : Option String)
    (limit : Option Int64) :
    searchItems config' d text host filter offset limit =
      searchItems config d text host filter offset limit := by
  rw [searchItems, searchItems, Config.pageSizes_of_uncolored h.config_eq,
    Config.registry_of_uncolored h.config_eq]

theorem agree_changeConfig (key value : String) :
    Agree (Alike ctx.env (ctx.dataPath? config)) (fun _ _ => True) Eq
      (changeConfig ctx key value) (changeConfig ctx' key value) := by
  rw [changeConfig, changeConfig, h.env_eq]
  refine (agree_loadConfig fun t u hFiles => hFiles.config).bind fun c c' hColors => ?_
  refine (agree_configPath _).bind ?_
  rintro _ p rfl
  have hSet := Config.set_of_uncolored hColors key value
  refine (agree_ofExcept Config.uncolored ?_).bind fun changed changed' hChanged => ?_
  · rw [map_mapError, map_mapError, hSet]
  -- Nothing is known of the files once they are saved, but then all that is left is to print.
  refine Agree.bind (Q := fun _ _ => True) (S := Eq) ?_ fun _ _ _ => ?_
  · intro s s' hFiles
    rw [run_operate, run_operate, Config.save_of_uncolored hChanged hFiles.shape p]
    cases (changed.save p s.files).1 with
    | error e => exact .error
    | ok _ => exact .ok rfl trivial
  · exact agree_prints (prints_show _ _ _) (prints_show _ _ _)

theorem agree_execute (command : Command) :
    Agree (Alike ctx.env (ctx.dataPath? config)) (fun _ _ => True) Eq
      (execute ctx config command) (execute ctx' config' command) := by
  have hShows : ∀ value value' text text',
      Agree (Alike ctx.env (ctx.dataPath? config)) (fun _ _ => True) Eq
        (ctx.show value text) (ctx'.show value' text') := fun _ _ _ _ =>
    agree_prints (prints_show _ _ _) (prints_show _ _ _)
  cases command with
  | overview =>
    rw [execute, execute]
    apply agree_prints
    · split_ifs
      · exact prints_pure
      · exact prints_print _
    · split_ifs
      · exact prints_pure
      · exact prints_print _
  | filter text =>
    exact (agree_ofExcept id rfl).bind fun _ _ _ => hShows _ _ _ _
  | links path offset limit count found query =>
    rw [execute, execute, Config.pageSizes_of_uncolored h.config_eq]
    exact (agree_ofExcept id rfl).bind fun _ _ _ => hShows _ _ _ _
  | list filter offset limit space backlog =>
    rw [execute, execute]
    refine h.agree_loadDataset.bind ?_
    rintro _ d rfl
    refine (agree_ofExcept id ?_).bind fun _ _ _ => hShows _ _ _ _
    rw [h.listItems_eq]
  | search text host filter offset limit =>
    rw [execute, execute]
    refine h.agree_loadDataset.bind ?_
    rintro _ d rfl
    refine (agree_ofExcept id ?_).bind fun _ _ _ => hShows _ _ _ _
    rw [h.searchItems_eq]
  | configShow =>
    rw [execute, execute, showConfig, showConfig, h.env_eq]
    refine (agree_loadConfig fun t u hFiles => hFiles.config).bind fun _ _ _ => ?_
    refine (agree_configPath _).bind ?_
    rintro _ p rfl
    refine (agree_ask id fun t u hFiles => ?_).bind fun _ _ _ => hShows _ _ _ _
    rw [hFiles.shape.contains_eq]
  | configSet key value => exact h.agree_changeConfig key value
  | configPath =>
    rw [execute, execute, showConfigPath, showConfigPath, h.env_eq]
    refine (agree_configPath _).bind ?_
    rintro _ p rfl
    refine (agree_ask id fun t u hFiles => ?_).bind fun _ _ _ => agree_prints ?_ ?_
    · rw [hFiles.shape.contains_eq]
    · split_ifs
      · exact prints_print _
      · exact prints_print _
    · split_ifs
      · exact prints_print _
      · exact prints_print _
  | completions shell =>
    rw [execute, execute, showScript, showScript, h.env_eq]
    exact (agree_ofExcept id rfl).bind fun _ _ _ => agree_prints (prints_print _) (prints_print _)

end SameTask

/-! ### Command lines -/

/-- The switches that say how results and messages are shown. -/
def Switch.manner : List Switch :=
  [.verbose, .quiet, .json, .noColor]

namespace Level

/-- A level without the switches that say how results and messages are shown. -/
def task (l : Level) : Level :=
  { l with given := l.given.filter (·.1 ∉ Switch.manner) }

variable {s : Switch} (hs : s ∉ Switch.manner) (l : Level)

include hs

theorem has_task : l.task.has s = l.has s := by
  rw [has, has, task, List.any_filter]
  refine congrArg l.given.any (funext fun g => ?_)
  by_cases hg : g.1 = s
  · simp [hg, hs]
  · simp [hg]

theorem values_task : l.task.values s = l.values s := by
  rw [values, values, task, List.filter_filter]
  refine congrArg (List.map _) (congrArg (l.given.filter ·) (funext fun g => ?_))
  by_cases hg : g.1 = s
  · simp [hg, hs]
  · simp [hg]

theorem value?_task : l.task.value? s = l.value? s :=
  lookup_filter_of_pos (fun other => decide (other ∉ Switch.manner)) (decide_eq_true hs) l.given

theorem int64?_task : l.task.int64? s = l.int64? s := by
  rw [int64?, int64?, value?_task hs]

theorem word_task : l.task.word s = l.word s := by
  rw [word, word, value?_task hs]

omit hs

theorem command_task : l.task.command = l.command := by
  have hVerb : l.task.verb = l.verb := rfl
  have hOperand : ∀ index, l.task.operand index = l.operand index := fun _ => rfl
  rw [command, command, hVerb]
  cases l.verb with
  | program => rfl
  | filter => rfl
  | links =>
    dsimp only
    rw [value?_task (by decide), value?_task (by decide), int64?_task (by decide),
      word_task (by decide), word_task (by decide), values_task (by decide)]
  | list =>
    dsimp only
    rw [value?_task (by decide), value?_task (by decide), int64?_task (by decide),
      value?_task (by decide), has_task (by decide)]
  | search =>
    dsimp only
    rw [hOperand, value?_task (by decide), value?_task (by decide), value?_task (by decide),
      int64?_task (by decide)]
  | config => rfl
  | configShow => rfl
  | configSet => rfl
  | configPath => rfl
  | completions => exact congrArg Command.completions (hOperand 0)

end Level

theorem Invocation.command_eq {levels levels' : List Level}
    (h : levels'.map Level.task = levels.map Level.task) :
    (ofLevels env levels').command = (ofLevels env levels).command := by
  have hLast : ∀ levels : List Level,
      levels.getLast?.map Level.command = (levels.map Level.task).getLast?.map Level.command := by
    intro levels
    rw [List.getLast?_map, Option.map_map]
    exact congrArg (levels.getLast?.map ·) (funext fun l => l.command_task.symm)
  rw [ofLevels, ofLevels]
  dsimp only
  rw [hLast levels', hLast levels, h]

theorem Invocation.data_eq {levels levels' : List Level}
    (h : levels'.map Level.task = levels.map Level.task) :
    (ofLevels env levels').data = (ofLevels env levels).data := by
  have hFound : ∀ levels : List Level, levels.reverse.findSome? (·.value? .data) =
      (levels.map Level.task).reverse.findSome? (·.value? .data) := by
    intro levels
    rw [← List.map_reverse, List.findSome?_map]
    exact congrArg (levels.reverse.findSome? ·)
      (funext fun l => (Level.value?_task (by decide) l).symm)
  rw [ofLevels, ofLevels]
  dsimp only
  rw [hFound levels', hFound levels, h]

/-- Two runs of the same command end alike. -/
theorem Invocation.status_eq {inv inv' : Invocation} (hCommand : inv'.command = inv.command)
    (hData : inv'.data = inv.data)
    (hFiles : ∀ c, Config.load env t = .ok c → ∀ p ∈ (inv.context env c).dataPath? c,
      u.read p = t.read p)
    (hShape : t.SameShape u)
    (hConfig : (Config.load env u).map Config.uncolored =
      (Config.load env t).map Config.uncolored) :
    (inv'.run env u).status = (inv.run env t).status ∧
      (inv'.json = inv.json → (inv'.run env u).errors = (inv.run env t).errors) := by
  rw [inv.run_eq, inv'.run_eq]
  cases hLoad : Config.load env t with
  | error e =>
    rw [hLoad] at hConfig
    rw [map_eq_error_iff.mp hConfig]
    refine ⟨rfl, fun hJson => ?_⟩
    dsimp only
    rw [hJson]
  | ok c =>
    have hAlike : Alike env ((inv.context env c).dataPath? c) t u :=
      ⟨hShape, hConfig, hFiles c hLoad⟩
    rw [hLoad] at hConfig
    obtain ⟨c', hLoad', hColors⟩ := map_eq_ok_iff.mp hConfig
    rw [hLoad', hCommand]
    have hTask : SameTask (inv.context env c) c (inv'.context env c') c' := ⟨hData, rfl, hColors⟩
    have hRun := hTask.agree_execute inv.command (.start t) (.start u) hAlike
    dsimp only
    generalize (execute (inv.context env c) c inv.command).run (.start t) = r at hRun
    generalize (execute (inv'.context env c') c' inv.command).run (.start u) = r' at hRun
    cases hRun with
    | ok _ _ => exact ⟨rfl, fun _ => rfl⟩
    | error =>
      refine ⟨rfl, fun hJson => ?_⟩
      dsimp only
      rw [hJson]

/-! ### What a run promises -/

theorem run_of_read {levels : List Level} {args : List String} (h : read env args = .ok levels)
    (t : FileTree) : run env t args = (Invocation.ofLevels env levels).run env t := by
  rw [run, h]

theorem run_of_error {refusal : Refusal} {args : List String} (h : read env args = .error refusal)
    (t : FileTree) : (run env t args).files = t ∧
      ((run env t args).status ≠ 0 → (run env t args).output = "") := by
  rw [run, h]
  cases refusal with
  | usage => exact ⟨rfl, fun _ => rfl⟩
  | version v => exact ⟨rfl, fun hStatus => absurd rfl hStatus⟩
  | help v => exact ⟨rfl, fun hStatus => absurd rfl hStatus⟩
  | helpOnHelp v => exact ⟨rfl, fun hStatus => absurd rfl hStatus⟩

/-- An environment that tells of nothing but a home. -/
def homeOnly : Environment :=
  .ofVariables fun name => if name = "HOME" then some "home" else none

end Worklist.CommandLine
