import Registry.Cleanup
import Registry.Path
import Registry.Text.CaseFold

/-! # Settings

Where a workspace keeps its element store, what its cleanup looks at, and how it logs.
-/

namespace Registry

inductive LogFormat where
  | text
  | json
  deriving DecidableEq, Repr

namespace LogFormat

def name : LogFormat → String
  | .text => "text"
  | .json => "json"

def ofName? : String → Option LogFormat
  | "text" => some .text
  | "json" => some .json
  | _ => none

end LogFormat

namespace Settings

structure Storage where
  /-- Relative to the workspace. -/
  dataDir : Path := ⟨".scopegraph"⟩
  /-- Relative to the data directory. -/
  database : Path := ⟨"store.db"⟩
  deriving DecidableEq, Repr

structure Logging where
  level : String := "info"
  format : LogFormat := .text
  file : Option Path := none
  deriving DecidableEq, Repr

end Settings

structure Settings where
  storage : Settings.Storage := {}
  cleanup : Cleanup.Schema := {}
  logging : Settings.Logging := {}
  deriving DecidableEq, Repr

namespace Settings

/-- The parts into which settings are grouped. -/
inductive Group where
  | storage
  | cleanup
  | logging
  deriving DecidableEq, Repr

/-- One value among the settings. -/
inductive Key where
  | dataDir
  | database
  | assetType
  | scenarioType
  | controlType
  | vulnerabilityType
  | scenarioAsset
  | scenarioVulnerability
  | controlScenario
  | level
  | format
  | file
  deriving DecidableEq, Repr

namespace Group

def name : Group → String
  | .storage => "storage"
  | .cleanup => "cleanup"
  | .logging => "logging"

def all : List Group :=
  [.storage, .cleanup, .logging]

def keys : Group → List Key
  | .storage => [.dataDir, .database]
  | .cleanup => [.assetType, .scenarioType, .controlType, .vulnerabilityType, .scenarioAsset,
      .scenarioVulnerability, .controlScenario]
  | .logging => [.level, .format, .file]

end Group

namespace Key

def group : Key → Group
  | .dataDir | .database => .storage
  | .level | .format | .file => .logging
  | _ => .cleanup

/-- The name within the group. -/
def field : Key → String
  | .dataDir => "data_dir"
  | .database => "database"
  | .assetType => "asset_type"
  | .scenarioType => "scenario_type"
  | .controlType => "control_type"
  | .vulnerabilityType => "vulnerability_type"
  | .scenarioAsset => "scenario_asset_relation"
  | .scenarioVulnerability => "scenario_vulnerability_relation"
  | .controlScenario => "control_scenario_relation"
  | .level => "level"
  | .format => "format"
  | .file => "file"

def name (k : Key) : String :=
  k.group.name ++ "." ++ k.field

def all : List Key :=
  Group.all.flatMap Group.keys

end Key

/-- The text of a value; only the log file may have none. -/
def value? (s : Settings) : Key → Option String
  | .dataDir => s.storage.dataDir.text
  | .database => s.storage.database.text
  | .assetType => s.cleanup.assetType
  | .scenarioType => s.cleanup.scenarioType
  | .controlType => s.cleanup.controlType
  | .vulnerabilityType => s.cleanup.vulnerabilityType
  | .scenarioAsset => s.cleanup.scenarioAsset
  | .scenarioVulnerability => s.cleanup.scenarioVulnerability
  | .controlScenario => s.cleanup.controlScenario
  | .level => s.logging.level
  | .format => s.logging.format.name
  | .file => s.logging.file.map (·.text)

/-- The data directory of a workspace. -/
def dataDir (s : Settings) (workspace : Path) : Path :=
  workspace.join s.storage.dataDir

/-- The database file of a workspace. -/
def databasePath (s : Settings) (workspace : Path) : Path :=
  (s.dataDir workspace).join s.storage.database

end Settings
end Registry
