import Registry.Settings.Json
import Registry.Settings.Layers
import Registry.TextMap

/-! # Sources of settings

Each value in force is the default or stems from the local file, the global file, or something laid
over both. The settings in force are gone through as a value in JSON, name by name, beside those of
the files and the defaults.
-/

namespace Registry.Settings

inductive ValueSource where
  | default
  | localFile
  | globalFile
  | override
  deriving DecidableEq, Repr

def ValueSource.name : ValueSource → String
  | .default => "default"
  | .localFile => "local"
  | .globalFile => "global"
  | .override => "override"

/-- A value in force and where it stems from. -/
structure Sourced where
  /-- The names that lead to the value, dots between them. -/
  key : String
  value : Json
  source : ValueSource
  deriving DecidableEq

/-- What the settings that lie below those in force have in one place. -/
structure Lower where
  localFile : Json
  globalFile : Json
  default : Json

namespace Lower

def member (lower : Lower) (name : String) : Lower where
  localFile := lower.localFile.member name
  globalFile := lower.globalFile.member name
  default := lower.default.member name

/-- Where a value in force stems from. -/
def source (lower : Lower) (effective : Json) : ValueSource :=
  if effective = lower.default then .default
  else if effective = lower.localFile ∧ lower.localFile ≠ lower.default then .localFile
  else if effective = lower.globalFile ∧ lower.globalFile ≠ lower.default then .globalFile
  else .override

end Lower

/-- The key of a member, by the key of what it is a member of. -/
def under (key name : String) : String :=
  if key.isEmpty then name else key ++ "." ++ name

mutual

/-- The values within a value in force, those that have no members themselves. -/
def flatten (key : String) (lower : Lower) : Json → List Sourced
  | .object members => flattenMembers key lower members
  | value => [{ key, value, source := lower.source value }]

/-- Members have texts for names; what has none is nothing that settings hold. -/
def flattenMembers (key : String) (lower : Lower) : List (Option String × Json) → List Sourced
  | [] => []
  | (some name, value) :: rest =>
      flatten (under key name) (lower.member name) value ++ flattenMembers key lower rest
  | (none, _) :: rest => flattenMembers key lower rest

end

/-- An object that lists its members in the order of their names. -/
def sortedObject (members : List (String × Json)) : Json :=
  .obj (TextMap.ofList members).entries

/-- The settings as a value that is gone through: groups and keys in the order of their names. -/
def tree (s : Settings) : Json :=
  sortedObject (Group.all.map fun g => (g.name, sortedObject (s.members g)))

/-- Every value in force. -/
def sourced (globalFile localFile effective : Settings) : List Sourced :=
  flatten "" { localFile := localFile.tree, globalFile := globalFile.tree, default := tree {} }
    effective.tree

/-- Every value in force in a workspace, by what its file and the global one hold. -/
def Layers.sourced (t : FileTree) (current : Location) (workspace : Path) (effective : Settings)
    (l : Layers) : Except SettingsError (List Sourced) := do
  let globalFile ← (l.readGlobal t current).1
  let localFile ← readLocal t current workspace
  return Settings.sourced (globalFile.getD {}) (localFile.getD {}) effective

end Registry.Settings
