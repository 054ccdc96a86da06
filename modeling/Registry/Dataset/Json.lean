import Registry.Dataset
import Registry.Element.Json
import Registry.Json.Reader

/-! # Datasets in JSON

Empty properties and permissions and missing optional fields are left out of the text.
-/

namespace Registry

open Json

namespace DatasetElement

def toJson (e : DatasetElement) : Json :=
  .obj ([("id", idJson e.id)] ++ memberIf "uuid" .str e.uuid ++ [("type", .str e.typeId)] ++
    memberIf "scope" idJson e.scope ++ memberIf "parent" idJson e.parent ++
    [("title", .str e.title)] ++
    (if e.properties.isEmpty then []
      else [("properties", e.properties.toJson (TextMap.toJson .str))]) ++
    (if e.permissions.isEmpty then []
      else [("permissions", .array (e.permissions.map Permission.toJson))]))

def ofJson? (j : Json) : Option DatasetElement := do
  let [id, uuid, typeId, scope, parent, title, properties, permissions] ←
    j.slots? ["id", "uuid", "type", "scope", "parent", "title", "properties", "permissions"] | none
  return {
    id := ← id.required asInt64?
    uuid := ← uuid.orDefault none (nullable asText?)
    typeId := ← typeId.required asText?
    scope := ← scope.orDefault none (nullable asInt64?)
    parent := ← parent.orDefault none (nullable asInt64?)
    title := ← title.orDefault "" asText?
    properties := ← properties.orDefault .empty (mapOf? (mapOf? asText?))
    permissions := ← permissions.orDefault [] (listOf? Permission.ofJson?) }

end DatasetElement

namespace Dataset

def linkToJson (link : Link) : Json :=
  .obj ([("source", idJson link.source), ("target", idJson link.target),
    ("relation", .str link.relation)] ++ memberIf "comment" .str link.comment)

def linkOfJson? (j : Json) : Option Link := do
  let [source, target, relation, comment] ←
    j.slots? ["source", "target", "relation", "comment"] | none
  return {
    source := ← source.required asInt64?
    target := ← target.required asInt64?
    relation := ← relation.required asText?
    comment := ← comment.orDefault none (nullable asText?) }

def toJson (dataset : Dataset) : Json :=
  .obj [("elements", .array (dataset.elements.map DatasetElement.toJson)),
    ("links", .array (dataset.links.map linkToJson))]

def ofJson? (j : Json) : Option Dataset := do
  let [elements, links] ← j.slots? ["elements", "links"] | none
  return {
    elements := ← elements.orDefault [] (listOf? DatasetElement.ofJson?)
    links := ← links.orDefault [] (listOf? linkOfJson?) }

/-- The dataset that a text holds. -/
def parse (text : String) : Except StoreError Dataset :=
  match Json.parse? text with
  | none => .error (.malformed "no JSON")
  | some j => match ofJson? j with
      | some dataset => .ok dataset
      | none => .error (.malformed "no dataset")

end Dataset
end Registry
