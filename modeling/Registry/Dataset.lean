import Registry.Element
import Registry.StoreError
import Registry.Text.Blank

/-! # Datasets

A dataset is a self-contained set of elements and links, to be imported into a store as a whole.
-/

namespace Registry

structure DatasetElement where
  id : ElementId
  uuid : Option String := none
  typeId : String
  scope : Option ScopeId := none
  parent : Option ElementId := none
  title : String := ""
  /-- Values by group and key. -/
  properties : TextMap (TextMap String) := .empty
  permissions : List Permission := []
  deriving DecidableEq, Repr

/-- The uuid of the element; one that has none is named after its id. -/
def DatasetElement.effectiveUuid (e : DatasetElement) : String :=
  e.uuid.getD ("element-" ++ toString e.id)

structure Dataset where
  elements : List DatasetElement := []
  links : List Link := []
  deriving DecidableEq, Repr

namespace Dataset

/-- What is wrong with a dataset. -/
inductive Fault where
  | duplicateId (id : ElementId)
  | duplicateUuid (uuid : String)
  | emptyType (id : ElementId)
  | unknownParent (id parent : ElementId)
  | unknownEndpoint (link : Link) (endpoint : ElementId)
  deriving DecidableEq, Repr

namespace Fault

def message : Fault → String
  | .duplicateId id => "duplicate element id " ++ toString id
  | .duplicateUuid uuid => "duplicate element uuid '" ++ uuid ++ "'"
  | .emptyType id => "element " ++ toString id ++ " has an empty type"
  | .unknownParent id parent =>
      "element " ++ toString id ++ " refers to unknown parent " ++ toString parent
  | .unknownEndpoint link endpoint =>
      "link " ++ toString link.source ++ " -> " ++ toString link.target ++ " (" ++ link.relation ++
        ") refers to unknown element " ++ toString endpoint

def toStoreError (fault : Fault) : StoreError :=
  .invalidData fault.message

end Fault

def ids (dataset : Dataset) : List ElementId :=
  dataset.elements.map (·.id)

/-- First fault among elements taken by themselves, `earlier` being those before them. -/
def elementFault? (earlier : List DatasetElement) : List DatasetElement → Option Fault
  | [] => none
  | e :: rest =>
      if earlier.any (·.id == e.id) then some (.duplicateId e.id)
      else if earlier.any (·.effectiveUuid == e.effectiveUuid) then
        some (.duplicateUuid e.effectiveUuid)
      else if Text.allBlank e.typeId then some (.emptyType e.id)
      else elementFault? (e :: earlier) rest

/-- The parent of an element, if it is not among `known`. -/
def parentFault? (known : List ElementId) (e : DatasetElement) : Option Fault :=
  match e.parent with
  | some parent => if known.contains parent then none else some (.unknownParent e.id parent)
  | none => none

/-- An end of a link that is not among `known`, the source before the target. -/
def linkFault? (known : List ElementId) (link : Link) : Option Fault :=
  if !known.contains link.source then some (.unknownEndpoint link link.source)
  else if !known.contains link.target then some (.unknownEndpoint link link.target)
  else none

/-- First fault of a dataset: of the elements by themselves, then of their parents, then of the
    links. -/
def fault? (dataset : Dataset) : Option Fault :=
  elementFault? [] dataset.elements <|>
    dataset.elements.findSome? (parentFault? dataset.ids) <|>
    dataset.links.findSome? (linkFault? dataset.ids)

def validate (dataset : Dataset) : Except StoreError Unit :=
  match dataset.fault? with
  | some fault => .error fault.toStoreError
  | none => .ok ()

end Dataset
end Registry
