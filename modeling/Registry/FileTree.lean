import Registry.FileError
import Registry.Path
import Registry.Tables
import Registry.Ordered

/-! # File trees

Directories and files below one root. A file holds a text, an element store, or bytes that are
neither. Paths are followed part by part, so that a path through something missing, or through a
file, fails even where a later `..` would lead back.
-/

namespace Registry

/-- A place in a tree: names from the innermost one up to the root. -/
abbrev Location := List String

inductive FileContent where
  | text (value : String)
  | store (tables : Tables)
  /-- Bytes that spell no text. -/
  | bytes
  deriving DecidableEq

inductive FileEntry where
  | directory
  | file (content : FileContent)
  deriving DecidableEq

/-- What stands below the root, which is a directory itself. -/
structure FileTree where
  entries : List (Location × FileEntry) := []

namespace FileTree

/-- What stands at a place. -/
def at? (t : FileTree) (place : Location) : Option FileEntry :=
  if place.isEmpty then some .directory else t.entries.lookup place

/-- Put an entry at a place, in the stead of what is there. -/
def put (t : FileTree) (place : Location) (entry : FileEntry) : FileTree where
  entries := (place, entry) :: t.entries.filter (·.1 != place)

/-- Take away what stands at a place. -/
def erase (t : FileTree) (place : Location) : FileTree where
  entries := t.entries.filter (·.1 != place)

private theorem lookup_filter_ne (place other : Location) :
    ∀ l : List (Location × FileEntry),
      (l.filter (·.1 != place)).lookup other = if other = place then none else l.lookup other
  | [] => by simp
  | (p, entry) :: rest => by
      have ih := lookup_filter_ne place other rest
      by_cases hp : p = place
      · by_cases ho : other = place
        · simpa [hp, ho] using ih
        · have hb : (other == place) = false := beq_eq_false_iff_ne.2 ho
          simpa [hp, ho, List.lookup_cons, hb] using ih
      · by_cases ho : other = p
        · simp [hp, ho]
        · have hb : (other == p) = false := beq_eq_false_iff_ne.2 ho
          simpa [hp, List.lookup_cons, hb] using ih

/-- Putting changes one place only. -/
theorem at?_put {t : FileTree} {place : Location} (h : place ≠ []) (entry : FileEntry)
    (other : Location) :
    (t.put place entry).at? other = if other = place then some entry else t.at? other := by
  by_cases ho : other = place
  · simp [at?, put, ho, h]
  · have hb : (other == place) = false := beq_eq_false_iff_ne.2 ho
    simp [at?, put, ho, List.lookup_cons, hb, lookup_filter_ne]

/-- Fails unless the place is a directory. -/
def checkDirectory (t : FileTree) (place : Location) : Except FileError Unit :=
  match t.at? place with
  | some .directory => .ok ()
  | some (.file _) => .error .notDirectory
  | none => .error .notFound

/-- Follow parts of a path from a place. Every part but an empty list of them asks for a directory;
    what stands at the end, if anything, is left open. -/
def follow (t : FileTree) (place : Location) : List String → Except FileError Location
  | [] => .ok place
  | part :: rest => do
      t.checkDirectory place
      if Path.isVoid part then t.follow place rest
      else if part = ".." then t.follow place.tail rest
      else t.follow (part :: place) rest

/-- The place where a path starts, seen from the current one. -/
def start (current : Location) (p : Path) : Location :=
  if p.isAbsolute then [] else current

/-- The place that a path leads to, whether or not something stands there. -/
def locate (t : FileTree) (current : Location) (p : Path) : Except FileError Location :=
  if p.isEmpty then .error .notFound else t.follow (start current p) p.parts

/-- What stands where a path leads. -/
def stat (t : FileTree) (current : Location) (p : Path) :
    Except FileError (Location × FileEntry) := do
  let place ← t.locate current p
  match t.at? place with
  | some entry => .ok (place, entry)
  | none => .error .notFound

/-- Something stands where the path leads. -/
def contains (t : FileTree) (current : Location) (p : Path) : Bool :=
  match t.stat current p with
  | .ok _ => true
  | .error _ => false

def isDirectory (t : FileTree) (current : Location) (p : Path) : Bool :=
  match t.stat current p with
  | .ok (_, .directory) => true
  | _ => false

/-- The absolute path of a place. -/
def pathOf (place : Location) : Path :=
  ⟨"/" ++ "/".intercalate place.reverse⟩

/-- The absolute path without `.`, `..` and doubled slashes of what stands where a path leads. -/
def canonical (t : FileTree) (current : Location) (p : Path) : Except FileError Path := do
  let (place, _) ← t.stat current p
  return pathOf place

/-- The text of a file. -/
def readText (t : FileTree) (current : Location) (p : Path) : Except FileError String := do
  match ← t.stat current p with
  | (_, .directory) => .error .isDirectory
  | (_, .file (.text value)) => .ok value
  | (_, .file _) => .error .notText

/-- How the last part of a path leads on from the directory before it. -/
inductive LastPart where
  | name (value : String)
  /-- A name that a slash follows. -/
  | directoryName (value : String)
  /-- The directory itself or the one above it. -/
  | here

/-- The directory in which the last part of a path is looked up, and that part. -/
def lastPart (t : FileTree) (current : Location) (p : Path) :
    Except FileError (Location × LastPart) :=
  if p.isEmpty then .error .notFound
  else
    match p.parts.reverse.dropWhile (· = "") with
    | [] => .ok ([], .here)
    | last :: before => do
        let place ← t.follow (start current p) before.reverse
        t.checkDirectory place
        if last = "." || last = ".." then .ok (place, .here)
        else if p.parts.getLast? == some "" then .ok (place, .directoryName last)
        else .ok (place, .name last)

/-- The place of the file that a path names, which need not exist yet. -/
def fileTarget (t : FileTree) (current : Location) (p : Path) : Except FileError Location := do
  match ← t.lastPart current p with
  | (place, .name name) =>
      match t.at? (name :: place) with
      | some .directory => .error .isDirectory
      | _ => .ok (name :: place)
  | _ => .error .isDirectory

/-- Write a text file, in the stead of an earlier file. -/
def writeText (t : FileTree) (current : Location) (p : Path) (value : String) :
    Except FileError FileTree := do
  let place ← t.fileTarget current p
  return t.put place (.file (.text value))

/-- Open a file to write behind its end; a missing one is made. -/
def openToAppend (t : FileTree) (current : Location) (p : Path) : Except FileError FileTree := do
  let place ← t.fileTarget current p
  match t.at? place with
  | some _ => return t
  | none => return t.put place (.file (.text ""))

/-- Remove a file. -/
def removeFile (t : FileTree) (current : Location) (p : Path) : Except FileError FileTree := do
  match ← t.stat current p with
  | (_, .directory) => .error .isDirectory
  | (place, .file _) => return t.erase place

/-- Make a directory in one that exists. -/
def makeDirectory (t : FileTree) (current : Location) (p : Path) : Except FileError FileTree := do
  match ← t.lastPart current p with
  | (_, .here) => .error .alreadyExists
  | (place, .name name) | (place, .directoryName name) =>
      match t.at? (name :: place) with
      | some _ => .error .alreadyExists
      | none => return t.put (name :: place) .directory

/-- Make the first of the paths a directory, and before it as many of the others, each of which
    holds the one before, as are missing. -/
def makeLineage (t : FileTree) (current : Location) : List Path → Except FileError Unit × FileTree
  | [] => (.error .notFound, t)
  | p :: above =>
      let settle := fun (t : FileTree) (e : FileError) =>
        (if t.isDirectory current p then Except.ok () else .error e, t)
      if p.isEmpty then (.ok (), t)
      else match t.makeDirectory current p with
        | .ok t => (.ok (), t)
        | .error .notFound =>
            match t.makeLineage current above with
            | (.ok (), t) => match t.makeDirectory current p with
                | .ok t => (.ok (), t)
                | .error e => settle t e
            | (.error e, t) => (.error e, t)
        | .error e => settle t e

/-- Make a directory and the missing ones that lead to it. One that is there is fine; after a
    failure those made so far stay. -/
def makeDirectories (t : FileTree) (current : Location) (p : Path) :
    Except FileError Unit × FileTree :=
  t.makeLineage current p.lineage

/-- The path of a place below another one. -/
def relative? (base place : Location) : Option String :=
  if base.length < place.length && base.isSuffixOf place then
    some ("/".intercalate (place.take (place.length - base.length)).reverse)
  else none

/-- The paths of everything below a place in ascending order, those of directories with a final
    slash. -/
def listing (t : FileTree) (base : Location) : List String :=
  orderBy (fun a b => !(b < a : Bool)) <| t.entries.filterMap fun e =>
    (relative? base e.1).map fun path => match e.2 with
      | .directory => path ++ "/"
      | .file _ => path

end FileTree
end Registry
