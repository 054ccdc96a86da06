import Registry.Element
import Registry.Json.Record

/-! # Elements in JSON

Each reader takes what its writer produces, and more: members in any order, unknown members, and
records as arrays. `depth` is the number of containers around the value being read.
-/

namespace Registry

open Json

def FacetKind.toJson (kind : FacetKind) : Json := .str kind.name

def FacetKind.ofJson? (j : Json) : Option FacetKind :=
  (bareName? j).bind ofName?

def FacetSet.toJson (set : FacetSet) : Json :=
  .array (set.toList.map FacetKind.toJson)

namespace Facet

variable {α : Type}

/-- A state, and the value or the reason that belongs to it. -/
def toJson (write : α → Json) : Facet α → Json
  | .unfetched => .obj [("state", .str "unfetched")]
  | .fetched value => .obj [("state", .str "fetched"), ("value", write value)]
  | .failed reason => .obj [("state", .str "fetch_failed"), ("value", .str reason)]

/-- The facet in a given state. A missing value stands for `default`, where there is one. -/
def ofState? (default : Option α) (read : Json → Option α) (state : String) (value : Option Json) :
    Option (Facet α) :=
  match state, value with
  | "unfetched", none | "unfetched", some .null => some .unfetched
  | "fetched", none => .fetched <$> default
  | "fetched", some j => .fetched <$> read j
  | "fetch_failed", some j => .failed <$> asText? j
  | _, _ => none

/-- State and value may come in either order. A value before its state is put aside first. -/
def ofJson? (depth : Nat) (default : Option α) (read : Json → Option α) : Json → Option (Facet α)
  | .object members =>
      if members.all (·.1.isSome) then
        match members.filter fun m => m.1 == some "state" || m.1 == some "value" with
        | [(some "state", state)] => do ofState? default read (← bareName? state) none
        | [(some "state", state), (some "value", value)] => do
            ofState? default read (← bareName? state) (some value)
        | [(some "value", value), (some "state", state)] =>
            if holdable (depth + 1) value then do
              ofState? default read (← bareName? state) (some value)
            else none
        | _ => none
      else none
  | .array [state, value] => do ofState? default read (← bareName? state) (some value)
  | _ => none

end Facet

def Property.toJson (p : Property) : Json :=
  .obj [("key", .str p.key), ("value", .str p.value)]

def Property.ofJson? (j : Json) : Option Property := do
  let [key, value] ← j.slots? ["key", "value"] | none
  return { key := ← key.required asText?, value := ← value.required asText? }

def PropertyGroup.toJson (group : PropertyGroup) : Json :=
  .obj [("properties", group.properties.toJson fun ps => .array (ps.map Property.toJson))]

def PropertyGroup.ofJson? (depth : Nat) (j : Json) : Option PropertyGroup := do
  let [properties] ← j.slots? ["properties"] | none
  let read := Facet.ofJson? (depth + 1) none (listOf? Property.ofJson?)
  return { properties := ← properties.required read }

def TextMap.toJson {α : Type} (write : α → Json) (map : TextMap α) : Json :=
  .obj (map.entries.map fun e => (e.1, write e.2))

def Attributes.toJson (attributes : Attributes) : Json :=
  .obj [("groups", attributes.groups.toJson (TextMap.toJson PropertyGroup.toJson))]

def Attributes.ofJson? (depth : Nat) (j : Json) : Option Attributes := do
  let [groups] ← j.slots? ["groups"] | none
  let readGroups := mapOf? (PropertyGroup.ofJson? (depth + 3))
  return { groups := ← groups.required (Facet.ofJson? (depth + 1) none readGroups) }

def Link.toJson (link : Link) : Json :=
  .obj ([("source", .int link.source.toInt), ("target", .int link.target.toInt),
    ("relation_id", .str link.relation)] ++ memberIf "comment" .str link.comment)

def Link.ofJson? (j : Json) : Option Link := do
  let [source, target, relation, comment] ←
    j.slots? ["source", "target", "relation_id", "comment"] | none
  return {
    source := ← source.required asInt64?
    target := ← target.required asInt64?
    relation := ← relation.required asText?
    comment := ← comment.optional (nullable asText?) }

def Permission.toJson (p : Permission) : Json :=
  .obj [("role", .str p.role), ("read", .bool p.read), ("write", .bool p.write)]

def Permission.ofJson? (j : Json) : Option Permission := do
  let [role, read, write] ← j.slots? ["role", "read", "write"] | none
  return {
    role := ← role.required asText?
    read := ← read.required asBool?
    write := ← write.required asBool? }

def idJson (id : Int64) : Json := .int id.toInt

namespace Element

def toJson (e : Element) : Json :=
  let links := fun ls : List Link => Json.array (ls.map Link.toJson)
  .obj ([("id", idJson e.id), ("uuid", .str e.uuid), ("type_id", .str e.typeId)] ++
    memberIf "scope_id" idJson e.scope ++
    [("title", .str e.title),
     ("attributes", e.attributes.toJson Attributes.toJson),
     ("parent", e.parent.toJson (orNull idJson)),
     ("children", e.children.toJson fun ids => .array (ids.map idJson)),
     ("permissions", e.permissions.toJson fun ps => .array (ps.map Permission.toJson)),
     ("links_down", e.linksDown.toJson links),
     ("links_up", e.linksUp.toJson links)])

def parentOfJson? (depth : Nat) : Json → Option (Facet (Option ElementId)) :=
  Facet.ofJson? depth (some none) (nullable asInt64?)

def idsOfJson? (depth : Nat) : Json → Option (Facet (List ElementId)) :=
  Facet.ofJson? depth none (listOf? asInt64?)

def ofJson? (depth : Nat) (j : Json) : Option Element := do
  let [id, uuid, typeId, scope, title, attributes, parent, children, permissions, down, up] ←
    j.slots? ["id", "uuid", "type_id", "scope_id", "title", "attributes", "parent", "children",
      "permissions", "links_down", "links_up"] | none
  let links := Facet.ofJson? (depth + 1) none (listOf? Link.ofJson?)
  return {
    id := ← id.required asInt64?
    uuid := ← uuid.required asText?
    typeId := ← typeId.required asText?
    scope := ← scope.optional (nullable asInt64?)
    title := ← title.required asText?
    attributes := ← attributes.orDefault .unfetched
      (Facet.ofJson? (depth + 1) none (Attributes.ofJson? (depth + 2)))
    parent := ← parent.orDefault .unfetched (parentOfJson? (depth + 1))
    children := ← children.orDefault .unfetched (idsOfJson? (depth + 1))
    permissions := ← permissions.orDefault .unfetched
      (Facet.ofJson? (depth + 1) none (listOf? Permission.ofJson?))
    linksDown := ← down.orDefault .unfetched links
    linksUp := ← up.orDefault .unfetched links }

end Element
end Registry
