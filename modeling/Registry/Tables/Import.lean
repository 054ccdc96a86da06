import Registry.Dataset
import Registry.Tables

/-! # Importing a dataset

The rows of a dataset are put in one by one. If one of them is refused, nothing of the dataset
stays.
-/

namespace Registry.Tables

/-- Run a change, and go back to the tables before it if it fails. -/
def transaction {α : Type} (change : Tables → Except StoreError α × Tables) (t : Tables) :
    Except StoreError α × Tables :=
  match change t with
  | (.ok a, changed) => (.ok a, changed)
  | (.error e, _) => (.error e, t)

/-- The row of a dataset element; its position counts the `earlier` elements of its parent. -/
def newElement (earlier : List DatasetElement) (e : DatasetElement) : NewElement where
  id := some e.id
  uuid := e.effectiveUuid
  typeId := e.typeId
  scope := e.scope
  parent := e.parent
  position := Int64.ofNat (earlier.countP (·.parent == e.parent))
  title := e.title

/-- Properties of a dataset element, in order of groups and keys. -/
def addProperties (t : Tables) (id : ElementId) (properties : TextMap (TextMap String)) : Tables :=
  properties.entries.foldl (fun t group =>
    group.2.entries.foldl (fun t e => t.addProperty id group.1 e.1 e.2) t) t

def importElements (earlier : List DatasetElement) :
    List DatasetElement → Tables → Except StoreError Unit × Tables
  | [], t => (.ok (), t)
  | e :: rest, t =>
      match t.insertElement (newElement earlier e) with
      | (.error error, t) => (.error error, t)
      | (.ok id, t) =>
          let t := t.addProperties id e.properties
          let t := e.permissions.foldl (fun t p => t.grant id p) t
          importElements (earlier ++ [e]) rest t

def importLinks (links : List Link) (t : Tables) : Tables :=
  links.foldl (fun t link => (t.insertLink link).2) t

/-- Import a dataset; tells how many rows the tables then hold. -/
def importDataset (t : Tables) (dataset : Dataset) : Except StoreError Counts × Tables :=
  match dataset.validate with
  | .error e => (.error e, t)
  | .ok () =>
      t.transaction fun t =>
        match importElements [] dataset.elements t with
        | (.error e, t) => (.error e, t)
        | (.ok (), t) =>
            let t := t.importLinks dataset.links
            (.ok t.counts, t)

end Registry.Tables
