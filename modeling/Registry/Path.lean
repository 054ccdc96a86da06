import Registry.Text.Pieces

/-! # Paths

A path is kept as it was written. Two paths are the same path when their components agree: doubled
and final slashes do not count, nor does a `.`, save at the start of a relative path.
-/

namespace Registry

/-- A path as written. -/
structure Path where
  text : String
  deriving DecidableEq, Repr

namespace Path

/-- The parts of a path between its slashes; before a leading slash stands an empty one. -/
def parts (p : Path) : List String :=
  (Text.pieces '/' p.text.toList).map String.ofList

def ofParts (parts : List String) : Path :=
  ⟨"/".intercalate parts⟩

def isEmpty (p : Path) : Bool :=
  p.text.isEmpty

def isAbsolute (p : Path) : Bool :=
  p.text.toList.head? == some '/'

/-- A part that names nothing: the gap of a doubled slash, or the place itself. -/
def isVoid (part : String) : Bool :=
  part = "" || part = "."

/-- The parts that count; the first one of a relative path always does. -/
def components (p : Path) : List String :=
  match p.parts with
  | [] => []
  | first :: rest => (if first = "" then [] else [first]) ++ rest.filter (!isVoid ·)

/-- The paths have the same components. -/
def same (p q : Path) : Bool :=
  p.isAbsolute == q.isAbsolute && p.components == q.components

/-- The path `q` seen from `p`: below it, or `q` itself when it is absolute. -/
def join (p q : Path) : Path :=
  if q.isAbsolute then q
  else if p.isEmpty || p.text.toList.getLast? == some '/' then ⟨p.text ++ q.text⟩
  else ⟨p.text ++ "/" ++ q.text⟩

/-- The path without its last component, if there is one. -/
def parent? (p : Path) : Option Path :=
  match p.parts with
  | [] => none
  | first :: rest =>
      match rest.reverse.dropWhile isVoid with
      | [] => if first = "" then none else some ⟨""⟩
      | _ :: above =>
          match above.dropWhile isVoid with
          | [] => some ⟨if first = "" then "/" else first⟩
          | kept => some (ofParts (first :: kept.reverse))

/-- The path and the paths above it, innermost first. `fuel` bounds their number. -/
def upward : (fuel : Nat) → Path → List Path
  | 0, p => [p]
  | fuel + 1, p =>
      p :: match p.parent? with
        | some above => upward fuel above
        | none => []

/-- The path and the paths above it, innermost first. -/
def lineage (p : Path) : List Path :=
  upward p.parts.length p

/-- What is left of the parts of a path once the components of `base` are taken from their front. -/
def stripped : (base : List String) → List String → Option (List String)
  | [], parts => some parts
  | _ :: _, [] => none
  | b :: base, part :: rest =>
      if isVoid part then stripped (b :: base) rest
      else if part = b then stripped base rest
      else none

/-- Parts without void ones at their ends. -/
def trimmed (parts : List String) : List String :=
  ((parts.dropWhile isVoid).reverse.dropWhile isVoid).reverse

/-- An absolute path seen from the directory `base` if it lies below it, else as written. -/
def displayFrom (base p : Path) : String :=
  if base.isAbsolute && p.isAbsolute then
    match stripped base.components p.parts with
    | some rest => (ofParts (trimmed rest)).text
    | none => p.text
  else p.text

end Path
end Registry
