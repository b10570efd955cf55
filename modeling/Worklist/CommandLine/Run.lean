import Worklist.CommandLine.Procedure
import Worklist.CommandLine.Command
import Worklist.Config.Store
import Worklist.Display.Config
import Worklist.Display.Links
import Worklist.Display.Outline
import Worklist.Display.WorkItems
import Worklist.Listing.Items
import Worklist.Storage.DatasetStore

/-!
# Running a command line

A command line is carried out on a tree of files. The configuration is loaded first; then the
command reads what it needs, works out its result and prints it.
-/

namespace Worklist.CommandLine

open Procedure (ask await ofExcept operate print warnUnless)
open Worklist.Filter (Composition Expression FilterError)
open Json (prettyText)
open Listing (ListingError ListRequest Page)
open Tracker (Dataset WorkItem)

/-! ### Errors -/

/-- Why a command fails. That a result cannot be written as a value is no reason: every value can be
written. -/
inductive CommandError where
  /-- The filter cannot be read. -/
  | filter (e : FilterError)
  /-- Listing or searching fails. -/
  | listing (e : ListingError)
  /-- A host cannot be registered. -/
  | registry (e : RegistryError)
  /-- The dataset cannot be loaded. -/
  | store (e : StoreError)
  /-- Something is wrong with the configuration. -/
  | config (e : ConfigError)
  /-- An argument has no meaning. -/
  | argument (message : String)
  /-- Something cannot be given out. -/
  | io (message : String)

namespace CommandError

/-- The text of an error. -/
def message : CommandError → String
  | .filter e => "filter error: " ++ e.message
  | .listing e => e.message
  | .registry e => "registry error: " ++ e.message
  | .store e => "dataset error: " ++ e.message
  | .config e => "configuration error: " ++ e.message
  | .argument message => "invalid argument: " ++ message
  | .io message => "I/O error: " ++ message

/-- The word for a kind of errors. -/
def code : CommandError → String
  | .filter _ => "FILTER_ERROR"
  | .listing (.badFilter _) => "FILTER_ERROR"
  | .listing (.registry _) => "REGISTRY_ERROR"
  | .listing _ => "LISTING_ERROR"
  | .registry _ => "REGISTRY_ERROR"
  | .store _ => "DATASET_ERROR"
  | .config _ => "CONFIG_ERROR"
  | .argument _ => "INVALID_ARGUMENT"
  | .io _ => "IO_ERROR"

/-- The exit status for an error. -/
def status : CommandError → UInt32
  | .listing (.source _) => 5
  | .store _ => 5
  | .config _ => 5
  | .io _ => 3
  | _ => 1

/-- An error as it is printed. -/
def report (json : Bool) (e : CommandError) : String :=
  if json then
    prettyText (.object [("error",
      .object [("code", .string e.code), ("message", .string e.message)])]) ++ "\n"
  else "Error: " ++ e.message ++ "\n"

end CommandError

/-- The error of a setting. -/
def CommandError.ofSetting : SettingError → CommandError
  | .config e => .config e
  | .registry e => .registry e

/-! ### Commands -/

/-- What commands share: how results are shown and where things are. -/
structure Context where
  /-- Values instead of tables. -/
  json : Bool
  /-- Errors only. -/
  quiet : Bool
  /-- Whether output has colors. -/
  colors : Bool
  /-- The file of the dataset, if the command line names one. -/
  data : Option Path
  /-- What the environment tells. -/
  env : Environment

/-- The path of the dataset. -/
def Context.dataPath? (ctx : Context) (config : Config) : Option Path :=
  (ctx.data.or config.data).or ctx.env.dataPath?

/-- Prints a result: as a value, or as a text unless only errors are asked for. -/
def Context.show (ctx : Context) (value : Json) (text : List Char) : Procedure CommandError Unit :=
  if ctx.json then print (prettyText value ++ "\n")
  else if ctx.quiet then pure ()
  else print (String.ofList text)

/-- The path of the configuration. -/
def configPath (env : Environment) : Procedure CommandError Path :=
  ofExcept ((Config.path env).mapError .config)

/-- Loads the configuration. -/
def loadConfig (env : Environment) : Procedure CommandError Config :=
  ask fun t => (Config.load env t).mapError .config

/-- Loads the dataset, which is empty if there is no file. The user is warned of that. -/
def loadDataset (ctx : Context) (config : Config) : Procedure CommandError Dataset := do
  let store ← ofExcept (match ctx.dataPath? config with
    | some path => .ok (DatasetStore.mk path)
    | none => .error (.store .noDataDirectory))
  let present ← ask fun t => .ok (t.contains store.path)
  warnUnless present (.noDataset store.path)
  let loaded ← await store.loadOrEmptyTask
  ofExcept (loaded.mapError .store)

/-- Shows what a filter means. -/
def showFilter (ctx : Context) (text : String) : Procedure CommandError Unit := do
  let filter ← ofExcept ((Filter.parse Tracker.workItemFields text).mapError .filter)
  ctx.show (Display.filterReport filter) (Display.filterOutline ctx.colors filter)

/-- The links of a page. -/
def computeLinks (sizes : PageSizes) (path : String) (offset : Option String)
    (limit : Option Int64) (count found : Nat) (query : List String) :
    Except CommandError PageLinks :=
  let page := PageRequest.ofParams offset limit sizes
  if page.limit < found then
    .error (.argument ("--result-len " ++ String.ofList (Text.decimal found) ++
      " exceeds the page limit " ++ String.ofList (Text.decimal page.limit)))
  else .ok (PageLinks.build path page found count query)

/-- Shows the links of a page. -/
def showLinks (ctx : Context) (sizes : PageSizes) (path : String) (offset : Option String)
    (limit : Option Int64) (count found : Nat) (query : List String) :
    Procedure CommandError Unit := do
  let links ← ofExcept (computeLinks sizes path offset limit count found query)
  ctx.show (Display.linkReport links) (Display.linkTable ctx.colors links)

/-- Prints the script that completes command lines in a shell. -/
def showScript (ctx : Context) (shell : String) : Procedure CommandError Unit := do
  let script ← ofExcept ((ctx.env.script shell).mapError .io)
  print script

/-- Shows a page. -/
def showPage (ctx : Context) (p : Page WorkItem) : Procedure CommandError Unit :=
  ctx.show (Display.pageReport p) (Display.pageTable ctx.colors p)

/-- The space that an argument names. -/
def readSpace : Option String → Except CommandError (Option Uuid)
  | none => .ok none
  | some text =>
    match Uuid.parse? (Text.trimmed text) with
    | some space => .ok (some space)
    | none => .error (.argument ("--space must be a UUID, got '" ++ text ++ "'"))

/-- The path of a listing. -/
def listPath (space : Option Uuid) (backlog : Bool) : String :=
  match space with
  | none => "/workitems"
  | some space => "/spaces/" ++ space.text ++ if backlog then "/backlog" else "/workitems"

/-- The constraints of a listing. -/
def listScope (d : Dataset) (space : Option Uuid) (backlog : Bool) (filter : Option Expression) :
    Composition :=
  match space with
  | none => .ofExpression? filter
  | some space =>
    if backlog then d.backlogScope filter space else Tracker.spaceScope filter space

/-- Lists work items. -/
def listItems (config : Config) (d : Dataset) (filter offset : Option String)
    (limit : Option Int64) (space : Option String) (backlog : Bool) :
    Except CommandError (Page WorkItem) := do
  let space ← readSpace space
  let request : ListRequest :=
    { path := listPath space backlog
      filter := filter
      offset := offset
      limit := limit
      extra := (filter.map fun text => "filter=" ++ text).toList }
  (Listing.list (Listing.itemSource d) config.pageSizes request
    (listScope d space backlog)).mapError .listing

/-- Searches work items. -/
def searchItems (config : Config) (d : Dataset) (text : String) (host filter offset : Option String)
    (limit : Option Int64) : Except CommandError (Page WorkItem) := do
  let registry ← config.registry.mapError .registry
  let request : ListRequest :=
    { path := "/search"
      filter := filter
      offset := offset
      limit := limit
      extra := ["q=" ++ Text.trimmed text] }
  (Listing.search d config.pageSizes request text host registry).1.mapError .listing

/-- Shows the configuration. -/
def showConfig (ctx : Context) : Procedure CommandError Unit := do
  let config ← loadConfig ctx.env
  let path ← configPath ctx.env
  let present ← ask fun t => .ok (t.contains path)
  ctx.show (Display.configReport path present config)
    (Display.configText ctx.colors path present config)

/-- Changes a setting and saves the configuration. -/
def changeConfig (ctx : Context) (key value : String) : Procedure CommandError Unit := do
  let config ← loadConfig ctx.env
  let path ← configPath ctx.env
  let changed ← ofExcept ((config.set key value).mapError .ofSetting)
  operate fun t => ((changed.save path t).1.mapError .config, (changed.save path t).2)
  ctx.show
    (.object [("status", .string "success"), ("key", .string key), ("value", .string value),
      ("path", .string path.text)])
    ("Set " ++ key ++ " = " ++ value ++ "\n").toList

/-- Shows where the configuration is. -/
def showConfigPath (ctx : Context) : Procedure CommandError Unit := do
  let path ← configPath ctx.env
  let present ← ask fun t => .ok (t.contains path)
  if ctx.json then
    print (prettyText (.object [("path", .string path.text), ("exists", .bool present)]) ++ "\n")
  else print (path.text ++ "\n")

/-- What the program is. -/
def overviewText : String :=
  "wit - work item filters, listings and paging links\nUse --help for usage information\n"

/-- Carries out a command. -/
def execute (ctx : Context) (config : Config) : Command → Procedure CommandError Unit
  | .overview => if ctx.quiet then pure () else print overviewText
  | .filter text => showFilter ctx text
  | .links path offset limit count found query =>
    showLinks ctx config.pageSizes path offset limit count found query
  | .list filter offset limit space backlog => do
    let d ← loadDataset ctx config
    let page ← ofExcept (listItems config d filter offset limit space backlog)
    showPage ctx page
  | .search text host filter offset limit => do
    let d ← loadDataset ctx config
    let page ← ofExcept (searchItems config d text host filter offset limit)
    showPage ctx page
  | .configShow => showConfig ctx
  | .configSet key value => changeConfig ctx key value
  | .configPath => showConfigPath ctx
  | .completions shell => showScript ctx shell

/-! ### The program -/

/-- How a run of the program ends. -/
structure Outcome where
  /-- The exit status. -/
  status : UInt32
  /-- What is printed. -/
  output : String
  /-- What is printed as an error. -/
  errors : String
  /-- What the user is warned of. -/
  warnings : List Warning
  /-- The files as they are left. -/
  files : FileTree

/-- The context of a command. -/
def Invocation.context (inv : Invocation) (env : Environment) (config : Config) : Context where
  json := inv.json
  quiet := inv.quiet
  colors := !inv.noColor && !env.refusesColor && config.color.getD true
  data := inv.data
  env := env

/-- Carries out the command of a command line. -/
def Invocation.perform (inv : Invocation) (env : Environment) : Procedure CommandError Unit := do
  let config ← loadConfig env
  execute (inv.context env config) config inv.command

/-- The warnings that the user wants. Unless the environment settles it, they are shown if more than
errors is asked for. -/
def Invocation.wanted (inv : Invocation) (env : Environment) (warnings : List Warning) :
    List Warning :=
  if env.wantsWarnings.getD !inv.quiet then warnings else []

/-- Runs the command of a command line. -/
def Invocation.run (inv : Invocation) (env : Environment) (t : FileTree) : Outcome :=
  match (inv.perform env).run (.start t) with
  | (.ok (), s) => ⟨0, s.output, "", inv.wanted env s.warnings, s.files⟩
  | (.error e, s) => ⟨e.status, s.output, e.report inv.json, inv.wanted env s.warnings, s.files⟩

/-- How a command is used. -/
def usage (v : Verb) : String :=
  let words := v.title.map fun c => if c = '-' then ' ' else c
  let commands := v.children.map fun c => "  " ++ String.intercalate ", " c.names ++ "\n"
  let switches := v.switches.map fun s =>
    "  --" ++ s.long ++ (if s.takesValue then " <VALUE>" else "") ++ "\n"
  "Usage: " ++ String.intercalate " " ([words, "[OPTIONS]"] ++
      v.operands.map (fun o => "<" ++ o ++ ">") ++
      if v.children = [] then [] else ["[COMMAND]"]) ++ "\n" ++
    (if commands = [] then "" else "\nCommands:\n" ++ String.join commands) ++
    "\nOptions:\n" ++ String.join switches

/-- How the word for help below a command is used. -/
def helpUsage (v : Verb) : String :=
  "Usage: " ++ (v.title.map fun c => if c = '-' then ' ' else c) ++ " help [COMMAND]...\n"

/-- The version of the program. -/
def version : String := "0.1.0"

/-- Runs the program with arguments on a tree of files. -/
def run (env : Environment) (t : FileTree) (args : List String) : Outcome :=
  match read env args with
  | .ok levels => (Invocation.ofLevels env levels).run env t
  | .error .usage => ⟨2, "", "error: the arguments fit no command\n\n" ++ usage .program, [], t⟩
  | .error (.version v) => ⟨0, v.title ++ " " ++ version ++ "\n", "", [], t⟩
  | .error (.help v) => ⟨0, usage v, "", [], t⟩
  | .error (.helpOnHelp v) => ⟨0, helpUsage v, "", [], t⟩

/-- The path of the dataset that a run looks for, if it comes so far. -/
def datasetPath? (env : Environment) (t : FileTree) (args : List String) : Option Path :=
  match read env args, Config.load env t with
  | .ok levels, .ok config =>
    ((Invocation.ofLevels env levels).context env config).dataPath? config
  | _, _ => none

end Worklist.CommandLine
