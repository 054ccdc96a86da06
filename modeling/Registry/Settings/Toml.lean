import Registry.Settings
import Registry.Toml.Reader

/-! # Settings in TOML

A file sets some of the keys and leaves the others to their defaults. A group is a table, or an
array of its values in their order; what else a file holds is passed over.
-/

namespace Registry.Settings

/-- What a file sets: texts for some of the keys. -/
structure Draft where
  entries : List (Key × String) := []
  deriving DecidableEq, Repr

namespace Draft

/-- The text that a file sets for a key. -/
def value? (d : Draft) (k : Key) : Option String :=
  d.entries.lookup k

/-- What a group holds for a key, if it can hold anything. A date in the place of a group holds
    nothing. -/
def offered? (k : Key) : Toml.Item → Option (Option Toml.Item)
  | .table _ entries => some (entries.lookup k.field)
  | .array items => some items[k.group.keys.idxOf k]?
  | .tables members => some ((members[k.group.keys.idxOf k]?).map (.table .header))
  | .moment => some none
  | _ => none

def isEmptyContainer : Toml.Item → Bool
  | .array items => items.isEmpty
  | .table _ entries => entries.isEmpty
  | .tables members => members.isEmpty
  | _ => false

/-- The name of a log format, which may also stand as a key above an empty container. -/
def formatName? : Toml.Item → Option String
  | .text name => (LogFormat.ofName? name).map LogFormat.name
  | .table _ [(name, item)] =>
      if isEmptyContainer item then (LogFormat.ofName? name).map LogFormat.name else none
  | _ => none

/-- The text of a key in the item that stands for it. -/
def readItem? (k : Key) (item : Toml.Item) : Option String :=
  match k, item with
  | .format, item => formatName? item
  | _, .text value => some value
  | _, _ => none

/-- What a document sets for a key; none if it sets something that is not fit for it. -/
def readKey? (root : Toml.Entries) (k : Key) : Option (Option (Key × String)) :=
  match root.lookup k.group.name with
  | none => some none
  | some group => do
      match ← offered? k group with
      | none => some none
      | some item => return some (k, ← readItem? k item)

def ofEntries? (root : Toml.Entries) : Option Draft := do
  let found ← Key.all.mapM (readKey? root)
  return { entries := found.filterMap id }

/-- What a text in TOML sets. -/
def parse? (text : String) : Option Draft :=
  (Toml.parse? text).bind ofEntries?

/-- The text for a key, or its default. -/
def get (d : Draft) (k : Key) (default : String) : String :=
  (d.value? k).getD default

/-- The settings of a file: what it sets, and the defaults of the rest. -/
def complete (d : Draft) : Settings :=
  let default : Settings := {}
  { storage :=
      { dataDir := ⟨d.get .dataDir default.storage.dataDir.text⟩
        database := ⟨d.get .database default.storage.database.text⟩ }
    cleanup :=
      { assetType := d.get .assetType default.cleanup.assetType
        scenarioType := d.get .scenarioType default.cleanup.scenarioType
        controlType := d.get .controlType default.cleanup.controlType
        vulnerabilityType := d.get .vulnerabilityType default.cleanup.vulnerabilityType
        scenarioAsset := d.get .scenarioAsset default.cleanup.scenarioAsset
        scenarioVulnerability := d.get .scenarioVulnerability default.cleanup.scenarioVulnerability
        controlScenario := d.get .controlScenario default.cleanup.controlScenario }
    logging :=
      { level := d.get .level default.logging.level
        format := ((d.value? .format).bind LogFormat.ofName?).getD default.logging.format
        file := (d.value? .file).map Path.mk } }

end Draft

/-- The settings that a text in TOML stands for. -/
def parse? (text : String) : Option Settings :=
  (Draft.parse? text).map Draft.complete

/-- A line that sets a key. -/
def line (key value : List Char) : List Char :=
  key ++ [' ', '=', ' '] ++ Toml.Literal.write value ++ ['\n']

/-- The lines of a group; a key without value has none. -/
def groupLines (s : Settings) (g : Group) : List Char :=
  ['['] ++ g.name.toList ++ [']', '\n'] ++
    g.keys.flatMap fun k => match s.value? k with
      | some value => line k.field.toList value.toList
      | none => []

/-- The settings in TOML, an empty line between groups. -/
def render (s : Settings) : String :=
  String.ofList (['\n'].intercalate (Group.all.map (groupLines s)))

end Registry.Settings
