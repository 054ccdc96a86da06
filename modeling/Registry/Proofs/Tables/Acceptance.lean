import Registry.Proofs.Tables.References

/-! # Whole imports

A dataset is imported if it is consistent and has nothing in common with the elements that are
stored. The tables then hold its rows after their own; otherwise they stay as they are.
-/

namespace Registry

namespace Dataset

variable {dataset : Dataset}

end Dataset

/-- The permissions of the element as rows. -/
def DatasetElement.permissionRows (e : DatasetElement) : List PermissionRow :=
  e.permissions.map fun permission => ⟨e.id, permission⟩

/-- Permissions that differ in their keys, each where its key comes last. -/
def PermissionRow.latest (rows : List PermissionRow) : List PermissionRow :=
  lastBy key rows

/-- The row of the element at some place of a dataset. Its position counts the elements before it
    that have the same parent. -/
def Dataset.rowAt (dataset : Dataset) (place : Nat) (e : DatasetElement) : ElementRow where
  id := e.id
  uuid := e.effectiveUuid
  typeId := e.typeId
  scope := e.scope
  parent := e.parent
  position := Int64.ofNat ((dataset.elements.take place).countP (·.parent == e.parent))
  title := e.title

namespace Tables

variable {t left : Tables} {dataset : Dataset}

/-- The tables with the rows of a dataset after their own. Of links that share a key the first one
    stays, of permissions the last one. -/
def joined (t : Tables) (dataset : Dataset) : Tables :=
  { t with
    elements := t.elements ++ dataset.elements.mapIdx dataset.rowAt
    properties := t.properties ++ dataset.elements.flatMap DatasetElement.propertyRows
    permissions := PermissionRow.latest
      (t.permissions ++ dataset.elements.flatMap DatasetElement.permissionRows)
    links := Link.distinct (t.links ++ dataset.links) }

end Tables
end Registry
