import Registry.Json.Printer
import Registry.Json.Reader
import Registry.Tables.Json

/-! # Tables as text

The form in which a store is kept on disk: a heading, then all rows in JSON.
-/

namespace Registry

open Json

namespace ElementRow

def toNew (row : ElementRow) : NewElement :=
  { row with id := some row.id }

def ofNew? (e : NewElement) : Option ElementRow := do
  return { e with id := ← e.id }

end ElementRow

namespace PropertyRow

def toJson (row : PropertyRow) : Json :=
  .array [idJson row.element, .str row.group, .str row.property.key, .str row.property.value]

def ofJson? : Json → Option PropertyRow
  | .array [element, group, key, value] => do
      return ⟨← asInt64? element, ← asText? group, ← asText? key, ← asText? value⟩
  | _ => none

end PropertyRow

namespace PermissionRow

def toJson (row : PermissionRow) : Json :=
  .array [idJson row.element, row.permission.toJson]

def ofJson? : Json → Option PermissionRow
  | .array [element, permission] => do
      return ⟨← asInt64? element, ← Permission.ofJson? permission⟩
  | _ => none

end PermissionRow

namespace Tables

/-- The line before the rows. -/
def heading : String := "element store\n"

def toText (t : Tables) : String :=
  heading ++ compact (.array [
    .array (t.elements.map (·.toNew.toJson)),
    .array (t.properties.map PropertyRow.toJson),
    .array (t.links.map Link.toJson),
    .array (t.permissions.map PermissionRow.toJson),
    t.metadata.toJson .str])

/-- The rows of a text with the heading. -/
def ofText? (text : String) : Option Tables := do
  if !heading.toList.isPrefixOf text.toList then none
  match ← Json.parse? (String.ofList (text.toList.drop heading.length)) with
  | .array [elements, properties, links, permissions, metadata] => do
      let rows ← listOf? NewElement.ofJson? elements
      return {
        elements := ← rows.mapM ElementRow.ofNew?
        properties := ← listOf? PropertyRow.ofJson? properties
        links := ← listOf? Link.ofJson? links
        permissions := ← listOf? PermissionRow.ofJson? permissions
        metadata := ← mapOf? asText? metadata }
  | _ => none

end Tables
end Registry
