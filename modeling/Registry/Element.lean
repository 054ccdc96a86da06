import Registry.Facet
import Registry.Facet.Kind
import Registry.TextMap

/-! # Elements

A partially loaded view of a stored element. The base fields are always known; the six facets are
loaded on demand. Elements refer to each other by id only.
-/

namespace Registry

/-- Identity of an element in a store. -/
abbrev ElementId := Int64

/-- Identity of the scope an element belongs to. -/
abbrev ScopeId := Int64

/-- One key with its value. -/
structure Property where
  key : String
  value : String
  deriving DecidableEq, Repr

/-- The properties of one group, which may still have to be loaded. -/
structure PropertyGroup where
  properties : Facet (List Property)
  deriving DecidableEq, Repr

/-- Properties by group. -/
structure Attributes where
  groups : Facet (TextMap PropertyGroup)
  deriving DecidableEq, Repr

/-- A directed relation between two elements. -/
structure Link where
  source : ElementId
  target : ElementId
  relation : String
  comment : Option String := none
  deriving DecidableEq, Repr

/-- What a role may do with an element. -/
structure Permission where
  role : String
  read : Bool
  write : Bool
  deriving DecidableEq, Repr

/-- A partially loaded element. -/
structure Element where
  id : ElementId
  uuid : String
  typeId : String
  scope : Option ScopeId
  title : String
  attributes : Facet Attributes := .unfetched
  /-- A fetched `none` is the parent of a root. -/
  parent : Facet (Option ElementId) := .unfetched
  children : Facet (List ElementId) := .unfetched
  permissions : Facet (List Permission) := .unfetched
  linksDown : Facet (List Link) := .unfetched
  linksUp : Facet (List Link) := .unfetched
  deriving DecidableEq, Repr

namespace PropertyGroup

def isLoaded (group : PropertyGroup) : Bool :=
  group.properties.isFetched

/-- First value of `key`, if the properties are fetched. -/
def value? (group : PropertyGroup) (key : String) : Option String := do
  let properties ← group.properties.value?
  return (← properties.find? (·.key == key)).value

end PropertyGroup

namespace Attributes

/-- The groups are fetched, and the properties of each of them. -/
def isLoaded (attributes : Attributes) : Bool :=
  attributes.groups.loadedWith fun groups => groups.values.all PropertyGroup.isLoaded

/-- First value of `key` in `group`. -/
def property? (attributes : Attributes) (group key : String) : Option String := do
  let groups ← attributes.groups.value?
  (← groups.get? group).value? key

/-- First value of `key` in any group, groups taken in order of their names. -/
def value? (attributes : Attributes) (key : String) : Option String := do
  let groups ← attributes.groups.value?
  groups.values.findSome? (·.value? key)

end Attributes

namespace Element

/-- The facet of this kind is loaded, together with all that is nested in it. -/
def has (e : Element) : FacetKind → Bool
  | .attributes => e.attributes.loadedWith Attributes.isLoaded
  | .children => e.children.isFetched
  | .permissions => e.permissions.isFetched
  | .parent => e.parent.isFetched
  | .linksDown => e.linksDown.isFetched
  | .linksUp => e.linksUp.isFetched

/-- Facets that are loaded. -/
def present (e : Element) : FacetSet :=
  .ofTest e.has

/-- Facets of a request that are not loaded. -/
def missing (e : Element) (facets : FacetSet) : FacetSet :=
  facets.difference e.present

/-- Record a failure for the facets of `facets` that are not loaded. -/
def markFailed (e : Element) (facets : FacetSet) (reason : String) : Element :=
  let failed := e.missing facets
  { e with
    attributes := if failed.contains .attributes then .failed reason else e.attributes
    parent := if failed.contains .parent then .failed reason else e.parent
    children := if failed.contains .children then .failed reason else e.children
    permissions := if failed.contains .permissions then .failed reason else e.permissions
    linksDown := if failed.contains .linksDown then .failed reason else e.linksDown
    linksUp := if failed.contains .linksUp then .failed reason else e.linksUp }

/-- Bring an element up to date with a fresh copy. Base fields are those of the copy; a facet is
    kept only if it is loaded and the copy does not have it loaded. -/
def absorb (e fresh : Element) : Element :=
  { fresh with
    attributes := .refresh (·.loadedWith Attributes.isLoaded) fresh.attributes e.attributes
    parent := .refresh (·.isFetched) fresh.parent e.parent
    children := .refresh (·.isFetched) fresh.children e.children
    permissions := .refresh (·.isFetched) fresh.permissions e.permissions
    linksDown := .refresh (·.isFetched) fresh.linksDown e.linksDown
    linksUp := .refresh (·.isFetched) fresh.linksUp e.linksUp }

def withLinks (e : Element) (down up : List Link) : Element :=
  { e with linksDown := .fetched down, linksUp := .fetched up }

/-- Type, id and title in one line. -/
def display (e : Element) : String :=
  e.typeId ++ " #" ++ toString e.id ++ " '" ++ e.title ++ "'"

@[simp] theorem contains_present (e : Element) (kind : FacetKind) :
    e.present.contains kind = e.has kind :=
  FacetSet.contains_ofTest _ _

@[simp] theorem contains_missing (e : Element) (facets : FacetSet) (kind : FacetKind) :
    (e.missing facets).contains kind = (facets.contains kind && !e.has kind) := by
  simp [missing]

end Element
end Registry
