import Registry.Ordered
import Registry.StoreError
import Registry.TextSet

/-! # Tables

The rows of an element store. Elements, properties and links stand in the order in which they were
put in. A row refers to an element by its id, and nothing forces that element to exist.
-/

namespace Registry

/-- A stored element. -/
structure ElementRow where
  id : ElementId
  uuid : String
  typeId : String
  scope : Option ScopeId
  parent : Option ElementId
  /-- Rank among the children of one parent. -/
  position : Int64
  title : String
  deriving DecidableEq, Repr

structure PropertyRow where
  element : ElementId
  group : String
  property : Property
  deriving DecidableEq, Repr

structure PermissionRow where
  element : ElementId
  permission : Permission
  deriving DecidableEq, Repr

structure Tables where
  elements : List ElementRow := []
  properties : List PropertyRow := []
  links : List Link := []
  permissions : List PermissionRow := []
  metadata : TextMap String := .empty
  deriving DecidableEq, Repr

/-- How many rows the tables hold. -/
structure Counts where
  elements : Nat
  properties : Nat
  links : Nat
  permissions : Nat
  deriving DecidableEq, Repr

/-- An element to be stored. Without id it gets the next free one. -/
structure NewElement where
  id : Option ElementId := none
  uuid : String
  typeId : String
  scope : Option ScopeId := none
  parent : Option ElementId := none
  position : Int64 := 0
  title : String
  deriving DecidableEq, Repr

/-- The base fields of a stored element, with no facet loaded. -/
def ElementRow.toElement (row : ElementRow) : Element where
  id := row.id
  uuid := row.uuid
  typeId := row.typeId
  scope := row.scope
  title := row.title

/-- A row belongs to the types and the scope; no type means any, no scope means any. -/
def ElementRow.fits (types : List String) (scope : Option ScopeId) (row : ElementRow) : Bool :=
  (types.isEmpty || types.contains row.typeId) &&
    match scope with
    | some s => row.scope == some s
    | none => true

namespace Tables

/-- Version of the layout, kept in the metadata under `versionKey`. -/
def version : String := "1.0"

def versionKey : String := "schema_version"

def setMetadata (t : Tables) (key value : String) : Tables :=
  { t with metadata := t.metadata.insert key value }

/-- Give the tables the current version. -/
def stamped (t : Tables) : Tables :=
  t.setMetadata versionKey version

/-- Tables without rows. -/
def fresh : Tables :=
  stamped {}

def counts (t : Tables) : Counts where
  elements := t.elements.length
  properties := t.properties.length
  links := t.links.length
  permissions := t.permissions.length

/-- The largest id plus one, or 1 in an empty table. -/
def nextId (t : Tables) : ElementId :=
  match t.elements with
  | [] => 1
  | row :: rest => rest.foldl (fun m r => if m < r.id then r.id else m) row.id + 1

/-- Store an element. Its id and its uuid must be new; the id is looked at first. -/
def insertElement (t : Tables) (e : NewElement) : Except StoreError ElementId × Tables :=
  let id := e.id.getD t.nextId
  if t.elements.any (·.id == id) then (.error .duplicateId, t)
  else if t.elements.any (·.uuid == e.uuid) then (.error .duplicateUuid, t)
  else
    let row := {
      id, uuid := e.uuid, typeId := e.typeId, scope := e.scope, parent := e.parent,
      position := e.position, title := e.title }
    (.ok id, { t with elements := t.elements ++ [row] })

/-- Add a property, after those that are there. -/
def addProperty (t : Tables) (id : ElementId) (group key value : String) : Tables :=
  { t with properties := t.properties ++ [⟨id, group, ⟨key, value⟩⟩] }

/-- Two links say the same, comments aside. -/
def sameLink (a b : Link) : Bool :=
  a.source == b.source && a.target == b.target && a.relation == b.relation

/-- Add a link unless there is one that says the same; tells whether it was added. -/
def insertLink (t : Tables) (link : Link) : Bool × Tables :=
  if t.links.any (sameLink link) then (false, t)
  else (true, { t with links := t.links ++ [link] })

/-- Set the rights of a role on an element, in the stead of earlier ones. -/
def grant (t : Tables) (id : ElementId) (permission : Permission) : Tables :=
  let others := t.permissions.filter fun row =>
    !(row.element == id && row.permission.role == permission.role)
  { t with permissions := others ++ [⟨id, permission⟩] }

def row? (t : Tables) (id : ElementId) : Option ElementRow :=
  t.elements.find? (·.id == id)

/-- Elements of the types and the scope in order of their ids, with no facet loaded. -/
def query (t : Tables) (types : List String) (scope : Option ScopeId) : List Element :=
  (orderBy (fun a b => a.id ≤ b.id) (t.elements.filter (ElementRow.fits types scope))).map
    ElementRow.toElement

def findByUuid (t : Tables) (uuid : String) : Option Element :=
  (t.elements.find? (·.uuid == uuid)).map ElementRow.toElement

/-- The properties of an element by group, in the order they were added. -/
def attributesOf (t : Tables) (id : ElementId) : Attributes :=
  let rows := t.properties.filter (·.element == id)
  let groups := TextMap.tabulate (.ofList (rows.map (·.group))) fun group =>
    { properties := .fetched ((rows.filter (·.group == group)).map (·.property)) }
  { groups := .fetched groups }

/-- The children of an element in order of their positions; ids decide between equal ones. -/
def childrenOf (t : Tables) (id : ElementId) : List ElementId :=
  let before := fun (a b : ElementRow) =>
    a.position < b.position || (a.position == b.position && a.id ≤ b.id)
  (orderBy before (t.elements.filter (·.parent == some id))).map (·.id)

/-- The permissions on an element in order of their roles. -/
def permissionsOf (t : Tables) (id : ElementId) : List Permission :=
  let rows := (t.permissions.filter (·.element == id)).map (·.permission)
  orderBy (fun a b => !(b.role < a.role : Bool)) rows

def linksFrom (t : Tables) (id : ElementId) : List Link :=
  t.links.filter (·.source == id)

def linksTo (t : Tables) (id : ElementId) : List Link :=
  t.links.filter (·.target == id)

/-- A stored element with the facets asked for. -/
def load (t : Tables) (row : ElementRow) (facets : FacetSet) : Element :=
  let when {α : Type} (kind : FacetKind) (value : α) : Facet α :=
    if facets.contains kind then .fetched value else .unfetched
  { row.toElement with
    attributes := when .attributes (t.attributesOf row.id)
    parent := when .parent row.parent
    children := when .children (t.childrenOf row.id)
    permissions := when .permissions (t.permissionsOf row.id)
    linksDown := when .linksDown (t.linksFrom row.id)
    linksUp := when .linksUp (t.linksTo row.id) }

def fetch (t : Tables) (id : ElementId) (facets : FacetSet) : Except StoreError Element :=
  match t.row? id with
  | some row => .ok (t.load row facets)
  | none => .error (.elementNotFound id)

end Tables
end Registry
