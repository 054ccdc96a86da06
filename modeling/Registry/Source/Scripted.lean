import Registry.Source

/-! # Scripted sources

A source that answers from a fixed list of elements and has the defects it is told to have. It
serves to find out how a retrieval takes bad answers.
-/

namespace Registry

structure Script where
  elements : List Element
  /-- Every fetch fails with this reason. -/
  failFetch : Option String := none
  /-- Every query fails with this reason. -/
  failQuery : Option String := none
  /-- Added to the id of every element that is fetched. -/
  idOffset : Int64 := 0
  /-- Attributes come as one group whose properties are missing. -/
  shallowAttributes : Bool := false
  /-- Facets that are never brought. -/
  omitted : FacetSet := .empty
  reverseBatch : Bool := false
  dropLast : Bool := false
  deriving DecidableEq, Repr

namespace Script

def query (script : Script) (types : List String) (scope : Option ScopeId) :
    Except StoreError (List Element) :=
  match script.failQuery with
  | some reason => .error (.invalidData reason)
  | none =>
      .ok (script.elements.filter fun e =>
        (types.isEmpty || types.contains e.typeId) && (scope.isNone || e.scope == scope))

/-- Attributes of which only the name of one group is known. -/
def shallow : Attributes where
  groups := .fetched (TextMap.empty.insert "asset" { properties := .unfetched })

def fetch (script : Script) (id : ElementId) (facets : FacetSet) : Except StoreError Element :=
  match script.failFetch with
  | some reason => .error (.invalidData reason)
  | none =>
      match script.elements.find? (·.id == id) with
      | none => .error (.elementNotFound id)
      | some e =>
          let brought := facets.difference script.omitted
          let bring {α : Type} (kind : FacetKind) (facet : Facet α) : Facet α :=
            if brought.contains kind then facet else .unfetched
          .ok { e with
            id := id + script.idOffset
            attributes := bring .attributes
              (if script.shallowAttributes then .fetched shallow else e.attributes)
            parent := bring .parent e.parent
            children := bring .children e.children
            permissions := bring .permissions e.permissions
            linksDown := bring .linksDown e.linksDown
            linksUp := bring .linksUp e.linksUp }

def fetchMany (script : Script) (ids : List ElementId) (facets : FacetSet) :
    Except StoreError (List Element) := do
  let elements ← ids.mapM (script.fetch · facets)
  let elements := if script.reverseBatch then elements.reverse else elements
  return if script.dropLast then elements.dropLast else elements

end Script

/-- A script as a source, which leaves any state alone. -/
def Source.scripted {σ : Type} (script : Script) : Source σ where
  query types scope s := (script.query types scope, s)
  fetch id facets s := (script.fetch id facets, s)
  fetchMany ids facets s := (script.fetchMany ids facets, s)

end Registry
