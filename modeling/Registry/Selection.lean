import Registry.Element
import Registry.TextSet

/-! # Selections

What goes into a snapshot: loaders select the nodes by type and scope, a relation filter selects
the edges, and a graph spec holds both.
-/

namespace Registry

/-- Selects elements. No type means any type, no scope means any scope. -/
structure Loader where
  types : TextSet := .empty
  scope : Option ScopeId := none
  deriving DecidableEq, Repr

namespace Loader

def forType (typeId : String) : Loader :=
  { types := TextSet.empty.insert typeId }

def inScope (loader : Loader) (scope : ScopeId) : Loader :=
  { loader with scope := some scope }

def withType (loader : Loader) (typeId : String) : Loader :=
  { loader with types := loader.types.insert typeId }

def display (loader : Loader) : String :=
  let types := if loader.types.isEmpty then "*" else ",".intercalate loader.types.toList
  match loader.scope with
  | some scope => "[" ++ types ++ "] in scope " ++ toString scope
  | none => "[" ++ types ++ "] in all scopes"

end Loader

/-- Which links become edges. -/
inductive RelationFilter where
  | nodesOnly
  | all
  | only (relations : TextSet)
  deriving DecidableEq, Repr

namespace RelationFilter

/-- A filter for no relation is written as `nodesOnly`. -/
def normalized : RelationFilter → RelationFilter
  | .only relations => if relations.isEmpty then .nodesOnly else .only relations
  | filter => filter

def ofRelations (relations : List String) : RelationFilter :=
  normalized (.only (.ofList relations))

/-- Some link may become an edge. -/
def loadsLinks : RelationFilter → Bool
  | .nodesOnly => false
  | .all => true
  | .only relations => !relations.isEmpty

/-- Links of this relation become edges. -/
def accepts (filter : RelationFilter) (relation : String) : Bool :=
  match filter with
  | .nodesOnly => false
  | .all => true
  | .only relations => relations.contains relation

def display : RelationFilter → String
  | .nodesOnly => "nodes only"
  | .all => "all relations"
  | .only relations => ", ".intercalate relations.toList

end RelationFilter

/-- What a command needs of the graph it works on. -/
structure GraphSpec where
  loaders : List Loader := []
  loadLinks : Bool := true
  relations : List String := []
  deriving DecidableEq, Repr

namespace GraphSpec

def addLoader (spec : GraphSpec) (loader : Loader) : GraphSpec :=
  { spec with loaders := spec.loaders ++ [loader] }

/-- Ask for a relation, once. -/
def addRelation (spec : GraphSpec) (relation : String) : GraphSpec :=
  if spec.relations.contains relation then spec
  else { spec with relations := spec.relations ++ [relation] }

/-- Without links there are no edges; without relations every relation counts. -/
def filter (spec : GraphSpec) : RelationFilter :=
  if !spec.loadLinks then .nodesOnly
  else if spec.relations.isEmpty then .all
  else .ofRelations spec.relations

end GraphSpec
end Registry
