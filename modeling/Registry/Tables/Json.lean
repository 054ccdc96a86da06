import Registry.Element.Json
import Registry.Tables

/-! # New elements and row counts in JSON -/

namespace Registry

open Json

def NewElement.toJson (e : NewElement) : Json :=
  .obj [("id", orNull idJson e.id), ("uuid", .str e.uuid), ("type_id", .str e.typeId),
    ("scope_id", orNull idJson e.scope), ("parent_id", orNull idJson e.parent),
    ("position", idJson e.position), ("title", .str e.title)]

def NewElement.ofJson? (j : Json) : Option NewElement := do
  let [id, uuid, typeId, scope, parent, position, title] ←
    j.slots? ["id", "uuid", "type_id", "scope_id", "parent_id", "position", "title"] | none
  return {
    id := ← id.optional (nullable asInt64?)
    uuid := ← uuid.required asText?
    typeId := ← typeId.required asText?
    scope := ← scope.optional (nullable asInt64?)
    parent := ← parent.optional (nullable asInt64?)
    position := ← position.required asInt64?
    title := ← title.required asText? }

def Counts.toJson (counts : Counts) : Json :=
  .obj [("elements", .nat counts.elements), ("properties", .nat counts.properties),
    ("links", .nat counts.links), ("permissions", .nat counts.permissions)]

end Registry
