import Registry.FileError
import Registry.Settings
import Registry.Text.Blank

/-! # Checking settings

A database must be named, the log level must be a known one, and types and relations must not be
blank. Two types must not share a name, nor must two relations; a type and a relation may.
-/

namespace Registry

namespace Settings

/-- What is wrong with a value. -/
inductive Problem where
  | empty
  | usedTwice (value : String)
  | unknownLevel (value : String)
  | unknownFormat (value : String)
  deriving DecidableEq, Repr

def levels : List String :=
  ["trace", "debug", "info", "warn", "error"]

def Problem.message : Problem → String
  | .empty => "must not be empty"
  | .usedTwice value => "'" ++ value ++ "' is used twice"
  | .unknownLevel value =>
      "unknown level '" ++ value ++ "'. Valid values: " ++ ", ".intercalate levels
  | .unknownFormat value =>
      "unknown format '" ++ value ++ "'. Valid values: " ++
        ", ".intercalate ([LogFormat.text, LogFormat.json].map LogFormat.name)

end Settings

/-- Why settings cannot be had, kept or used. -/
inductive SettingsError where
  /-- A file that was asked for by name does not exist. -/
  | missing (path : Path)
  | unreadable (path : Path) (cause : FileError)
  /-- A file that holds no settings in TOML. -/
  | malformed (path : Path) (reason : String)
  | unwritable (path : Path) (cause : FileError)
  | noDirectory (path : Path) (cause : FileError)
  /-- There is no home, and so no place for global settings. -/
  | noHome
  | invalid (key : Settings.Key) (problem : Settings.Problem)
  deriving DecidableEq, Repr

def SettingsError.message : SettingsError → String
  | .missing path => "config file '" ++ path.text ++ "' does not exist"
  | .unreadable path cause => "failed to read config file '" ++ path.text ++ "': " ++ cause.message
  | .malformed path reason => "failed to parse config file '" ++ path.text ++ "': " ++ reason
  | .unwritable path cause => "failed to write config file '" ++ path.text ++ "': " ++ cause.message
  | .noDirectory path cause =>
      "failed to create config directory '" ++ path.text ++ "': " ++ cause.message
  | .noHome => "could not determine home directory"
  | .invalid key problem =>
      "invalid configuration value for '" ++ key.name ++ "': " ++ problem.message

/-- The format that a word names, in whatever case. -/
def LogFormat.parse (word : String) : Except SettingsError LogFormat :=
  match ofName? (Text.fold word) with
  | some format => .ok format
  | none => .error (.invalid .format (.unknownFormat word))

namespace Settings

/-- The first key with a blank name, or with a name that an earlier one has. -/
def firstFault (seen : List String) : List (Key × String) → Except SettingsError Unit
  | [] => .ok ()
  | (key, name) :: rest =>
      if Text.allBlank name then .error (.invalid key .empty)
      else if seen.contains name then .error (.invalid key (.usedTwice name))
      else firstFault (name :: seen) rest

/-- Types and relations have distinct names among themselves, none of them blank. -/
def checkSchema (schema : Cleanup.Schema) : Except SettingsError Unit := do
  firstFault [] [(.assetType, schema.assetType), (.scenarioType, schema.scenarioType),
    (.controlType, schema.controlType), (.vulnerabilityType, schema.vulnerabilityType)]
  firstFault [] [(.scenarioAsset, schema.scenarioAsset),
    (.scenarioVulnerability, schema.scenarioVulnerability),
    (.controlScenario, schema.controlScenario)]

/-- The settings can be used. -/
def check (s : Settings) : Except SettingsError Unit :=
  if s.storage.database.isEmpty then .error (.invalid .database .empty)
  else if levels.contains (Text.fold s.logging.level) then checkSchema s.cleanup
  else .error (.invalid .level (.unknownLevel s.logging.level))

end Settings
end Registry
