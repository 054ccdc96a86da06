import Registry.CommandLine.Report
import Registry.CommandLine.Workspace
import Registry.Tables.Import

/-! # Commands -/

namespace Registry.CommandLine

namespace Setting

open Work

/-- Print a value in JSON over several lines. -/
def printJson (j : Json) : Work Unit :=
  print [j.pretty]

/-- Remove a file that may be missing. -/
def removeIfThere (s : Setting) (p : Path) : Work Unit :=
  replace (some ("Failed to remove " ++ p.text)) .file fun t =>
    match t.removeFile s.current p with
    | .error .notFound => .ok t
    | result => result

/-- Files that a database may have beside it. -/
def sidecars (database : Path) : List Path :=
  [⟨database.text ++ "-wal"⟩, ⟨database.text ++ "-shm"⟩]

/-- Make the store of a workspace, and its file of settings. -/
def init (s : Setting) (force noConfig : Bool) : Work Unit := do
  let quiet := s.common.quiet
  let (workspace, settings) ← s.load
  let database := settings.databasePath workspace
  if ← look (·.contains s.current database) then
    if !force then
      stop ("Element store already exists at " ++ database.text ++ ". Use --force to recreate it.")
    (database :: sidecars database).forM s.removeIfThere
  if !noConfig then
    let file ← change (some "Failed to write local configuration") .settings
      (Settings.initDirectory · s.current (workspace.join Settings.directoryName))
    note quiet ("Config:  " ++ workspace.displayFrom file)
  let _ ← change (some ("Failed to create element store " ++ database.text)) .store
    (StoreFile.create · s.current database)
  note quiet
    ("Store:   " ++ workspace.displayFrom database ++ " (schema " ++ Tables.version ++ ")")
  note quiet "Initialized scopegraph workspace"

/-- Put the rows of a dataset into the store. -/
def importData (s : Setting) (file : Path) (json : Bool) : Work Unit := do
  let (_, h) ← s.openStore
  let dataset ← take (some ("Failed to read dataset " ++ file.text)) .store
    (← look (StoreFile.dataset · s.current file))
  let (result, tables) := h.tables.importDataset dataset
  let counts ← take (some "Failed to import dataset") .store result
  keep { h with tables }
  if json then printJson counts.toJson else note s.common.quiet (countsLine counts)

/-- The store of the workspace, as far as it can be told. -/
def status (s : Setting) (showConfig json : Bool) : Work Unit := do
  let (workspace, settings) ← s.load
  let database := settings.databasePath workspace
  let store ← if ← look (·.contains s.current database) then do
      let (opened, files) ← look (StoreFile.openAt · s.current database)
      modify fun c => { c with files }
      pure <| some <| opened.map fun h =>
        (h.tables.metadata.get? Tables.versionKey, h.tables.counts)
    else pure none
  let status : Status := { workspace, database, store, settings }
  if json then printJson (status.toJson showConfig) else print (status.lines showConfig)

/-- The element with an id or, if there is none, with a uuid. -/
def findElement (t : Tables) (target : String) : Option Element :=
  match (Text.int64? target).bind t.row? with
  | some row => some row.toElement
  | none => t.findByUuid target

/-- Show an element with some of its facets. -/
def showElement (s : Setting) (target : String) (facets : FacetSet) (json : Bool) : Work Unit := do
  let (_, h) ← s.openStore
  match findElement h.tables target with
  | none => stop ("Element not found: " ++ target)
  | some e =>
      let (e, _) := Retrieval.ensureOrMark Source.tables e facets { state := h.tables }
      if json then printJson e.toJson else print (elementLines e facets)

/-- What goes into a graph. -/
def selection (scope : Option ScopeId) (choice : GraphChoice) (schema : Cleanup.Schema) :
    Loader × RelationFilter :=
  match choice with
  | .chosen types relations =>
      ({ types := .ofList types, scope },
        if relations.isEmpty then .all else .ofRelations relations)
  | .nodesOnly types => ({ types := .ofList types, scope }, .nodesOnly)
  | .forCleanup => ({ types := .ofList schema.types, scope }, .ofRelations schema.relations)

/-- Show a graph. -/
def showGraph (s : Setting) (scope : Option ScopeId) (choice : GraphChoice) (json : Bool) :
    Work Unit := do
  let (settings, h) ← s.openStore
  let (loader, filter) := selection scope choice settings.cleanup
  let (built, _) := Snapshot.build Source.tables [loader] filter { state := h.tables }
  let g ← take (some "Failed to build graph") .retrieval built
  if json then printJson (graphJson g) else print (graphLines g)

/-- The report of a cleanup of the tables, and what it leaves of them. A dry run leaves all. -/
def cleanTables (t : Tables) (scope : ScopeId) (schema : Cleanup.Schema) (dryRun : Bool) :
    Except CommandError Cleanup.Report × Tables :=
  if dryRun then
    let (result, _) := Cleanup.execute Source.tables.left Service.dryRun.right scope schema
      { state := (t, []) }
    (result, t)
  else
    let (result, r) := Cleanup.execute Source.tables Service.tables scope schema { state := t }
    (result, r.state)

/-- Clean up a scope. What was removed before a failure stays removed. -/
def cleanUp (s : Setting) (scope : ScopeId) (dryRun json : Bool) : Work Unit := do
  let (settings, h) ← s.openStore
  let (result, tables) := cleanTables h.tables scope settings.cleanup dryRun
  keep { h with tables }
  let report ← take (some ("Cleanup of scope " ++ toString scope ++ " failed")) .command result
  if json then printJson report.toJson
  else
    print (cleanupLines report dryRun)
    if dryRun && !report.removed.isEmpty then
      note s.common.quiet "Dry run: store unchanged"

/-- Show the settings in force. -/
def showSettings (s : Setting) (form : SettingsForm) : Work Unit := do
  let (workspace, effective) ← s.load
  let values ← take none .settings
    (← look (s.layers.sourced · s.current workspace effective))
  match form with
  | .toml => printText effective.render
  | .json => printJson (sourcedJson values)
  | .listing => print (sourcedLines "" values)

/-- Show which files hold settings. -/
def showPaths (s : Setting) (json : Bool) : Work Unit := do
  let workspace ← s.workspace
  let contains := fun (p : Path) => look (·.contains s.current p)
  let containsAny := fun (p : Option Path) => look fun t => p.any (t.contains s.current)
  let globalFile := s.layers.globalPath
  let localFile := Settings.localPath workspace
  let files : SettingsFiles :=
    { globalFile, localFile, explicit := s.common.config
      globalExists := ← containsAny globalFile
      localExists := ← contains localFile
      explicitExists := ← containsAny s.common.config }
  if json then printJson files.toJson else print files.lines

/-- Make a file of settings, in the workspace or at home. -/
def initSettings (s : Setting) (atHome : Bool) : Work Unit := do
  let file ←
    if atHome then
      change (some "Failed to create global configuration") .settings
        (s.layers.initGlobal · s.current)
    else do
      let workspace ← s.workspace
      change (some "Failed to create local configuration") .settings
        (Settings.initDirectory · s.current (workspace.join Settings.directoryName))
  print [file.text]

/-- The log file can be written. Settings that cannot be loaded ask for no log file; the command
    itself will report them. -/
def openLog (s : Setting) : Work Unit := do
  let (loaded, _) := (s.load.run).run (← get)
  match loaded with
  | .ok (_, { logging := { file := some file, .. }, .. }) =>
      replace (some ("Failed to open log file " ++ file.text)) .file
        (·.openToAppend s.current file)
  | _ => return

def perform (s : Setting) : Request → Work Unit
  | .init force noConfig => s.init force noConfig
  | .importData file json => s.importData file json
  | .element target facets json => s.showElement target facets json
  | .graph scope choice json => s.showGraph scope choice json
  | .cleanup scope dryRun json => s.cleanUp scope dryRun json
  | .status showConfig json => s.status showConfig json
  | .configShow form => s.showSettings form
  | .configPath json => s.showPaths json
  | .configInit atHome => s.initSettings atHome

end Setting

/-- How a run ended. -/
inductive Outcome where
  | refused (why : Refusal)
  | done (output notes : String)
  | failed (output notes : String) (failure : Failure)

/-- Run the program on files: what came of it, and what it leaves. -/
def run (home : Option Path) (current : Location) (environment : List (String × String))
    (words : List String) (files : FileTree) : Outcome × FileTree :=
  match parse environment words with
  | .error why => (.refused why, files)
  | .ok (common, request) =>
      let s : Setting := { home, current, common }
      let work : Work Unit := do
        s.openLog
        s.perform request
      match work.run.run { files } with
      | (.ok (), c) => (.done c.output c.notes, c.files)
      | (.error failure, c) => (.failed c.output c.notes failure, c.files)

end Registry.CommandLine
