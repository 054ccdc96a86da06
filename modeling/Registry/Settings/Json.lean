import Registry.Json.Value
import Registry.Settings

/-! # Settings in JSON -/

namespace Registry.Settings

/-- The values of a group by their names, null for one that is missing. -/
def members (s : Settings) (g : Group) : List (String × Json) :=
  g.keys.map fun k => (k.field, Json.orNull .str (s.value? k))

/-- The groups with their values. -/
def toJson (s : Settings) : Json :=
  .obj (Group.all.map fun g => (g.name, .obj (s.members g)))

end Registry.Settings
