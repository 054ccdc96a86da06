import Registry.CommandLine.Console
import Registry.CommandLine.Request

/-! # Workspaces

The workspace that a command is about, its settings and its store.
-/

namespace Registry.CommandLine

/-- Where a command is run, and the options that every command takes. -/
structure Setting where
  home : Option Path
  current : Location
  common : Common

namespace Setting

open Work

/-- Values that the options give for one run. -/
def overrides (s : Setting) : Settings.Overrides where
  database := s.common.database
  level :=
    if s.common.quiet then some "error"
    else if s.common.verbose then some "debug"
    else none

def layers (s : Setting) : Settings.Layers where
  globalDir := s.home.map (·.join Settings.directoryName)
  explicit := s.common.config

/-- The directory asked for, or the current one. -/
def workspace (s : Setting) : Work Path :=
  match s.common.workspace with
  | none => return FileTree.pathOf s.current
  | some p => do
      take (some ("Workspace not found: " ++ p.text)) .file (← look (·.canonical s.current p))

/-- The workspace with its settings. -/
def load (s : Setting) : Work (Path × Settings) := do
  let workspace ← s.workspace
  let (result, _) ← look fun t => s.layers.load t s.current workspace s.overrides
  let settings ← take (some "Failed to load configuration") .settings result
  return (workspace, settings)

/-- The settings of the workspace and its store, which must exist. -/
def openStore (s : Setting) : Work (Settings × StoreFile.Handle) := do
  let (workspace, settings) ← s.load
  let database := settings.databasePath workspace
  if !(← look (·.contains s.current database)) then
    stop ("No element store at " ++ database.text ++ ". Run `scopegraph init` first.")
  let handle ← change (some ("Failed to open element store " ++ database.text)) .store
    (StoreFile.openAt · s.current database)
  return (settings, handle)

/-- Keep the changed rows of an open store. -/
def keep (h : StoreFile.Handle) : Work Unit :=
  modify fun c => { c with files := StoreFile.update c.files h }

end Setting
end Registry.CommandLine
