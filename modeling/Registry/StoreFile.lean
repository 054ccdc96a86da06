import Registry.Dataset.Json
import Registry.FileTree

/-! # Store files

Element stores and datasets kept in files. The path of a store is brought to its absolute form as
text, so a `..` takes back the name before it whether or not that name exists.
-/

namespace Registry.StoreFile

/-- The place that parts of a path lead to when each `..` takes back the name before it; none if
    the way goes through a file. -/
def resolve (t : FileTree) (place : Location) : List String → Option Location
  | [] => some place
  | part :: rest =>
      if Path.isVoid part then resolve t place rest
      else if part = ".." then resolve t place.tail rest
      else match t.at? place with
        | some (.file _) => none
        | _ => resolve t (part :: place) rest

/-- The place of the file for a store, if there can be one. -/
def place? (t : FileTree) (current : Location) (p : Path) : Option Location := do
  let place ← resolve t (FileTree.start current p) p.parts
  match t.at? place.tail, t.at? place with
  | _, some .directory => none
  | some .directory, _ => some place
  | _, _ => none

/-- An open store: its rows and where they are kept. -/
structure Handle where
  place : Location
  tables : Tables

/-- Put the rows of an open store into its file. -/
def save (t : FileTree) (h : Handle) : FileTree :=
  t.put h.place (.file (.store h.tables))

/-- Put the changed rows of an open store into its file, unless it was taken away meanwhile. -/
def update (t : FileTree) (h : Handle) : FileTree :=
  match t.at? h.place with
  | some (.file (.store _)) => save t h
  | _ => t

/-- The rows at the place of a path: none in a file that is missing or empty. -/
def read (t : FileTree) (current : Location) (p : Path) :
    Except StoreError (Location × Option Tables) :=
  match place? t current p with
  | none => .error (.cannotOpen p.text)
  | some place => match t.at? place with
      | some (.file (.store tables)) => .ok (place, some tables)
      | none | some (.file (.text "")) => .ok (place, none)
      | _ => .error .notADatabase

/-- Open a store; a missing one is made. A store of another version is refused, one without version
    gets the current one. -/
def openAt (t : FileTree) (current : Location) (p : Path) :
    Except StoreError Handle × FileTree :=
  match read t current p with
  | .error e => (.error e, t)
  | .ok (place, found) =>
      let tables := found.getD Tables.fresh
      let h := Handle.mk place tables.stamped
      match tables.metadata.get? Tables.versionKey with
      | none => (.ok h, save t h)
      | some v =>
          if v = Tables.version then (.ok h, save t h)
          else (.error (.versionMismatch Tables.version v), t)

/-- Make a store and the directories that lead to it. One that is there keeps its rows and gets the
    current version. -/
def create (t : FileTree) (current : Location) (p : Path) :
    Except StoreError Handle × FileTree :=
  let (made, t) := match p.parent? with
    | some above => t.makeDirectories current above
    | none => (.ok (), t)
  match made with
  | .error e => (.error (.file e), t)
  | .ok () =>
      match read t current p with
      | .error e => (.error e, t)
      | .ok (place, found) =>
          let h := Handle.mk place (found.getD Tables.fresh).stamped
          (.ok h, save t h)

/-- The dataset in a file. -/
def dataset (t : FileTree) (current : Location) (p : Path) : Except StoreError Dataset :=
  match t.readText current p with
  | .error e => .error (.file e)
  | .ok text => Dataset.parse text

end Registry.StoreFile
