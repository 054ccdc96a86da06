import Registry.Element.Json
import Registry.Selection

/-! # Selections in JSON -/

namespace Registry

open Json

def TextSet.toJson (set : TextSet) : Json :=
  .array (set.toList.map .str)

def TextSet.ofJson? (j : Json) : Option TextSet :=
  .ofList <$> listOf? asText? j

def Loader.toJson (loader : Loader) : Json :=
  .obj [("type_ids", loader.types.toJson), ("scope_id", orNull idJson loader.scope)]

def Loader.ofJson? (j : Json) : Option Loader := do
  let [types, scope] ← j.slots? ["type_ids", "scope_id"] | none
  return {
    types := ← types.required TextSet.ofJson?
    scope := ← scope.optional (nullable asInt64?) }

def RelationFilter.toJson : RelationFilter → Json
  | .nodesOnly => .str "nodes_only"
  | .all => .str "all"
  | .only relations => .obj [("only", relations.toJson)]

def RelationFilter.ofJson? (j : Json) : Option RelationFilter :=
  match bareName? j, j with
  | some "nodes_only", _ => some .nodesOnly
  | some "all", _ => some .all
  | _, .object [(some "only", relations)] => .only <$> TextSet.ofJson? relations
  | _, _ => none

def GraphSpec.toJson (spec : GraphSpec) : Json :=
  .obj [("loaders", .array (spec.loaders.map Loader.toJson)), ("load_links", .bool spec.loadLinks),
    ("relation_ids", .array (spec.relations.map .str))]

def GraphSpec.ofJson? (j : Json) : Option GraphSpec := do
  let [loaders, loadLinks, relations] ← j.slots? ["loaders", "load_links", "relation_ids"] | none
  return {
    loaders := ← loaders.required (listOf? Loader.ofJson?)
    loadLinks := ← loadLinks.required asBool?
    relations := ← relations.required (listOf? asText?) }

end Registry
