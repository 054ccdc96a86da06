import Registry.Cleanup
import Registry.Selection.Json

/-! # Mutations, schemas and reports in JSON -/

namespace Registry

open Json

namespace Mutation

def tag : String := "remove_element"

def toJson (m : Mutation) : Json :=
  .obj ([("command", .str tag), ("element_id", idJson m.element), ("type_id", .str m.typeId),
    ("title", .str m.title)] ++ memberIf "removed" .nat m.removed)

/-- The fields besides the tag. -/
def ofFields? (j : Json) : Option Mutation := do
  let [element, typeId, title, removed] ←
    j.slots? ["element_id", "type_id", "title", "removed"] | none
  return {
    element := ← element.required asInt64?
    typeId := ← typeId.required asText?
    title := ← title.required asText?
    removed := ← removed.orDefault none (nullable asCount?) }

/-- The tag tells what to read, so all other fields are put aside until it is found. In an array
    the tag comes first. -/
def ofJson? (j : Json) : Option Mutation :=
  match j with
  | .object members => do
      let [j] := membersNamed "command" members | none
      if (← asText? j) = tag then
        let fields := members.filter (·.1 != some "command")
        if holdableMembers 1 fields then ofFields? (.object fields) else none
      else none
  | .array (j :: rest) => do
      if (← asText? j) = tag && holdableItems 1 rest then ofFields? (.array rest) else none
  | _ => none

end Mutation

namespace Cleanup

def Schema.toJson (schema : Schema) : Json :=
  .obj [("asset_type", .str schema.assetType), ("scenario_type", .str schema.scenarioType),
    ("control_type", .str schema.controlType),
    ("vulnerability_type", .str schema.vulnerabilityType),
    ("scenario_asset", .str schema.scenarioAsset),
    ("scenario_vulnerability", .str schema.scenarioVulnerability),
    ("control_scenario", .str schema.controlScenario)]

def Schema.ofJson? (j : Json) : Option Schema := do
  let [asset, scenario, control, vulnerability, scenarioAsset, scenarioVulnerability,
      controlScenario] ←
    j.slots? ["asset_type", "scenario_type", "control_type", "vulnerability_type", "scenario_asset",
      "scenario_vulnerability", "control_scenario"] | none
  return {
    assetType := ← asset.required asText?
    scenarioType := ← scenario.required asText?
    controlType := ← control.required asText?
    vulnerabilityType := ← vulnerability.required asText?
    scenarioAsset := ← scenarioAsset.required asText?
    scenarioVulnerability := ← scenarioVulnerability.required asText?
    controlScenario := ← controlScenario.required asText? }

def Removed.toJson (entry : Removed) : Json :=
  .obj ([("element_id", idJson entry.element), ("type_id", .str entry.typeId),
    ("title", .str entry.title), ("orphan", idJson entry.orphan)] ++
    memberIf "deleted" .nat entry.deleted)

def Report.toJson (report : Report) : Json :=
  .obj [("scope_id", idJson report.scope), ("scenarios_scanned", .nat report.scanned),
    ("orphans", .array (report.orphans.map idJson)),
    ("removed", .array (report.removed.map Removed.toJson))]

end Cleanup

/-- Counts of a snapshot. -/
def Snapshot.Stats.toJson (stats : Snapshot.Stats) : Json :=
  .obj [("node_count", .nat stats.nodeCount), ("edge_count", .nat stats.edgeCount),
    ("nodes_by_type", stats.nodesByType.toJson .nat),
    ("edges_by_relation", stats.edgesByRelation.toJson .nat),
    ("relation_filter", .str stats.relationFilter)]

end Registry
