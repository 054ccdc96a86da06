import Registry.Cleanup.Json
import Registry.Element.Json
import Registry.Json.Printer
import Registry.Settings.Json
import Registry.Settings.Sources
import Registry.Tables.Json
import Registry.Text.Pieces

/-! # Reports

What the commands print about elements, graphs, cleanups, stores and settings, as lines of text or
as JSON.
-/

namespace Registry.CommandLine

/-- The lines for a facet: its state, or what its value says. -/
def facetLines {α : Type} (facet : Facet α) (lines : α → List String) : List String :=
  match facet with
  | .unfetched => ["(not loaded)"]
  | .failed reason => ["(failed: " ++ reason ++ ")"]
  | .fetched value => match lines value with
      | [] => ["(none)"]
      | lines => lines

def attributesLines (attributes : Attributes) : List String :=
  match attributes.groups.value? with
  | none => ["(groups not loaded)"]
  | some groups => groups.entries.flatMap fun group =>
      (group.2.properties.value?.getD []).map fun p =>
        group.1 ++ "." ++ p.key ++ " = " ++ p.value

def idLine (id : ElementId) : String :=
  "#" ++ toString id

def permissionLine (p : Permission) : String :=
  p.role ++ " (" ++ (if p.read then "r" else "-") ++ (if p.write then "w" else "-") ++ ")"

/-- What the lines for a facet say. -/
def facetBody (e : Element) : FacetKind → List String
  | .attributes => facetLines e.attributes attributesLines
  | .parent => facetLines e.parent fun
      | some id => [idLine id]
      | none => ["(root)"]
  | .children => facetLines e.children (·.map idLine)
  | .permissions => facetLines e.permissions (·.map permissionLine)
  | .linksDown => facetLines e.linksDown (·.map fun l => l.relation ++ " -> " ++ idLine l.target)
  | .linksUp => facetLines e.linksUp (·.map fun l => l.relation ++ " <- " ++ idLine l.source)

/-- An element with some of its facets. -/
def elementLines (e : Element) (facets : FacetSet) : List String :=
  let scope := match e.scope with
    | some scope => toString scope
    | none => "-"
  [e.display, "  uuid:  " ++ e.uuid, "  scope: " ++ scope] ++
    facets.toList.flatMap fun kind =>
      ("  [" ++ kind.name ++ "]") :: (facetBody e kind).map ("    " ++ ·)

/-- A text with blanks behind it up to a width. -/
def padded (width : Nat) (s : String) : String :=
  s ++ String.ofList (List.replicate (width - s.length) ' ')

def tallyLines (tally : TextMap Nat) : List String :=
  tally.entries.map fun e => "  " ++ padded 24 e.1 ++ " " ++ toString e.2

def graphLines (g : Snapshot) : List String :=
  let stats := g.stats
  ["Graph: " ++ toString stats.nodeCount ++ " nodes, " ++ toString stats.edgeCount ++ " edges (" ++
    stats.relationFilter ++ ")", "", "Nodes:"] ++
    tallyLines stats.nodesByType ++ g.nodes.map (fun e => "  " ++ e.display) ++
    if g.edges.isEmpty then []
    else ["", "Edges:"] ++ tallyLines stats.edgesByRelation ++ g.edges.map fun e =>
      "  " ++ idLine e.source ++ " -[" ++ e.relation ++ "]-> " ++ idLine e.target

def graphJson (g : Snapshot) : Json :=
  .obj [("stats", g.stats.toJson),
    ("nodes", .array (g.nodes.map fun e => .obj [("id", idJson e.id), ("type", .str e.typeId),
      ("title", .str e.title)])),
    ("edges", .array (g.edges.map fun e => .obj [("source", idJson e.source),
      ("target", idJson e.target), ("relation", .str e.relation)]))]

def cleanupLines (report : Cleanup.Report) (dryRun : Bool) : List String :=
  let verb := if dryRun then "would remove" else "removed"
  report.removed.map fun r =>
    verb ++ " " ++ r.typeId ++ " " ++ idLine r.element ++ " '" ++ r.title ++ "' (orphan " ++
      idLine r.orphan ++ ")"

def countsLine (counts : Counts) : String :=
  "Store now holds " ++ toString counts.elements ++ " elements, " ++ toString counts.properties ++
    " properties, " ++ toString counts.links ++ " links, " ++ toString counts.permissions ++
    " permissions"

/-- What there is to say about the store of a workspace. -/
structure Status where
  workspace : Path
  database : Path
  /-- The version and the counts of the store, or why it cannot be opened; none if there is no
      store. -/
  store : Option (Except StoreError (Option String × Counts))
  settings : Settings

namespace Status

def version? (s : Status) : Option String :=
  match s.store with
  | some (.ok (version, _)) => version
  | _ => none

def counts? (s : Status) : Option Counts :=
  match s.store with
  | some (.ok (_, counts)) => some counts
  | _ => none

def error? (s : Status) : Option StoreError :=
  match s.store with
  | some (.error e) => some e
  | _ => none

def settingsLines (settings : Settings) : List String :=
  ["", "Configuration:", "  Log level:        " ++ settings.logging.level,
    "  Scenario type:    " ++ settings.cleanup.scenarioType,
    "  Asset relation:   " ++ settings.cleanup.scenarioAsset,
    "  Control relation: " ++ settings.cleanup.controlScenario]

def contentsLines (counts : Counts) : List String :=
  ["", "Contents:", "  Elements:    " ++ toString counts.elements,
    "  Properties:  " ++ toString counts.properties, "  Links:       " ++ toString counts.links,
    "  Permissions: " ++ toString counts.permissions]

def lines (s : Status) (showConfig : Bool) : List String :=
  ["Scopegraph Status", "=================", "", "Workspace: " ++ s.workspace.text,
    "Store:     " ++ s.database.text] ++
    if s.store.isNone then
      ["", "Not initialized. Run `scopegraph init` to create the store."]
    else
      ["Schema:    " ++ s.version?.getD "unknown" ++ " (expected " ++ Tables.version ++ ")"] ++
        (s.counts?.map contentsLines).getD [] ++
        (s.error?.map fun e => ["", "Store error: " ++ e.message]).getD [] ++
        if showConfig then settingsLines s.settings else []

def toJson (s : Status) (showConfig : Bool) : Json :=
  .obj ([("workspace_path", .str s.workspace.text), ("database", .str s.database.text),
    ("initialized", .bool s.store.isSome)] ++
    Json.memberIf "schema_version" .str s.version? ++
    Json.memberIf "counts" Counts.toJson s.counts? ++
    Json.memberIf "error" (.str ·.message) s.error? ++
    if showConfig then [("config", s.settings.toJson)] else [])

end Status

/-- A value in force, with its source unless it is the default. -/
def sourcedLine (field : String) (v : Settings.Sourced) : String :=
  let source := if v.source = .default then "" else " (" ++ v.source.name ++ ")"
  "  " ++ field ++ " = " ++ v.value.compact ++ source

/-- The name of the group of a key, empty if it is in none, and its name there. -/
def groupAndField (key : String) : String × String :=
  match Text.splitOnce? '.' key.toList with
  | some (group, field) => (String.ofList group, String.ofList field)
  | none => ("", key)

/-- Values under the names of their groups; `above` is the name above the values so far. -/
def sourcedLines (above : String) : List Settings.Sourced → List String
  | [] => []
  | v :: rest =>
      let (group, field) := groupAndField v.key
      let head :=
        if group = above then []
        else (if above.isEmpty then [] else [""]) ++ ["[" ++ group ++ "]"]
      head ++ sourcedLine field v :: sourcedLines group rest

def sourcedJson (values : List Settings.Sourced) : Json :=
  .array <| values.map fun v => .obj [("key", .str v.key), ("value", v.value),
    ("source", .str v.source.name)]

/-- The files with settings, and whether they are there. -/
structure SettingsFiles where
  globalFile : Option Path
  localFile : Path
  explicit : Option Path
  globalExists : Bool
  localExists : Bool
  explicitExists : Bool

namespace SettingsFiles

def line (label : String) (path : Path) (isThere : Bool) : String :=
  label ++ path.text ++ (if isThere then " (exists)" else " (not found)")

def lines (s : SettingsFiles) : List String :=
  ["Configuration Paths", "===================", "",
    match s.globalFile with
      | some p => line "Global: " p s.globalExists
      | none => "Global: not available (no home directory)",
    line "Local:  " s.localFile s.localExists] ++
    (s.explicit.map fun p => [line "File:   " p s.explicitExists]).getD []

def toJson (s : SettingsFiles) : Json :=
  .obj ([("global", .orNull (.str ·.text) s.globalFile), ("local", .str s.localFile.text)] ++
    Json.memberIf "explicit" (.str ·.text) s.explicit ++
    [("global_exists", .bool s.globalExists), ("local_exists", .bool s.localExists)])

end SettingsFiles
end Registry.CommandLine
