import Registry.Text.CaseFold

/-! # Facet kinds and sets of them

The six facets of an element, in canonical order, and requests for several of them.
-/

namespace Registry

inductive FacetKind where
  | attributes
  | children
  | permissions
  | parent
  | linksDown
  | linksUp
  deriving DecidableEq, Repr

namespace FacetKind

/-- Every kind, in canonical order. -/
def all : List FacetKind :=
  [.attributes, .children, .permissions, .parent, .linksDown, .linksUp]

theorem mem_all (kind : FacetKind) : kind ∈ all := by
  cases kind <;> decide

def name : FacetKind → String
  | .attributes => "attributes"
  | .children => "children"
  | .permissions => "permissions"
  | .parent => "parent"
  | .linksDown => "links_down"
  | .linksUp => "links_up"

/-- Name in the listing of a set for diagnosis. -/
def label : FacetKind → String
  | .attributes => "Attributes"
  | .children => "Children"
  | .permissions => "Permissions"
  | .parent => "Parent"
  | .linksDown => "LinksDown"
  | .linksUp => "LinksUp"

/-- Links only make sense for an element that is already stored. -/
def requiresElement : FacetKind → Bool
  | .linksDown | .linksUp => true
  | _ => false

def ofName? (s : String) : Option FacetKind :=
  all.find? (·.name == s)

/-- A text that names no facet kind. -/
structure Unknown where
  text : String
  deriving DecidableEq, Repr

def Unknown.message (e : Unknown) : String :=
  "Unknown facet: '" ++ e.text ++ "'. Valid values: " ++ ", ".intercalate (all.map name)

/-- Kind named by a user: case does not matter, a hyphen stands for an underscore, and two names
    have a shorter or older form. -/
def parse (s : String) : Except Unknown FacetKind :=
  let word := (Text.fold s).map fun c => if c = '-' then '_' else c
  let word :=
    if word = "properties" then "attributes"
    else if word = "links" then "links_down"
    else word
  match ofName? word with
  | some kind => .ok kind
  | none => .error ⟨s⟩

end FacetKind

/-- A set of facet kinds. -/
structure FacetSet where
  attributes : Bool := false
  children : Bool := false
  permissions : Bool := false
  parent : Bool := false
  linksDown : Bool := false
  linksUp : Bool := false
  deriving DecidableEq, Repr

namespace FacetSet

def contains (set : FacetSet) : FacetKind → Bool
  | .attributes => set.attributes
  | .children => set.children
  | .permissions => set.permissions
  | .parent => set.parent
  | .linksDown => set.linksDown
  | .linksUp => set.linksUp

/-- The kinds that satisfy a test. -/
def ofTest (p : FacetKind → Bool) : FacetSet where
  attributes := p .attributes
  children := p .children
  permissions := p .permissions
  parent := p .parent
  linksDown := p .linksDown
  linksUp := p .linksUp

@[simp] theorem contains_ofTest (p : FacetKind → Bool) (kind : FacetKind) :
    (ofTest p).contains kind = p kind := by
  cases kind <;> rfl

theorem ext_contains {s t : FacetSet} (h : ∀ kind, s.contains kind = t.contains kind) : s = t := by
  cases s; cases t
  simp only [FacetSet.mk.injEq]
  exact ⟨h .attributes, h .children, h .permissions, h .parent, h .linksDown, h .linksUp⟩

def empty : FacetSet := {}

def all : FacetSet := ofTest fun _ => true

def ofList (kinds : List FacetKind) : FacetSet :=
  ofTest (kinds.contains ·)

def single (kind : FacetKind) : FacetSet :=
  ofTest (· == kind)

/-- Outgoing and incoming links. -/
def links : FacetSet := ofList [.linksDown, .linksUp]

def union (s t : FacetSet) : FacetSet :=
  ofTest fun kind => s.contains kind || t.contains kind

def insert (set : FacetSet) (kind : FacetKind) : FacetSet :=
  set.union (single kind)

def difference (s t : FacetSet) : FacetSet :=
  ofTest fun kind => s.contains kind && !t.contains kind

/-- The kinds of the set, in canonical order. -/
def toList (set : FacetSet) : List FacetKind :=
  FacetKind.all.filter set.contains

def isEmpty (set : FacetSet) : Bool :=
  set.toList.isEmpty

def size (set : FacetSet) : Nat :=
  set.toList.length

/-- Names of the kinds, or `none`. -/
def display (set : FacetSet) : String :=
  if set.isEmpty then "none" else ", ".intercalate (set.toList.map FacetKind.name)

/-- Labels of the kinds in braces. -/
def listing (set : FacetSet) : String :=
  "\x7b" ++ ", ".intercalate (set.toList.map FacetKind.label) ++ "\x7d"

theorem isEmpty_iff {set : FacetSet} : set.isEmpty = true ↔ ∀ kind, set.contains kind = false := by
  simp only [isEmpty, toList, List.isEmpty_iff, List.filter_eq_nil_iff, Bool.not_eq_true]
  exact ⟨fun h kind => h kind (FacetKind.mem_all kind), fun h kind _ => h kind⟩

@[simp] theorem contains_union (s t : FacetSet) (kind : FacetKind) :
    (s.union t).contains kind = (s.contains kind || t.contains kind) :=
  contains_ofTest _ _

@[simp] theorem contains_difference (s t : FacetSet) (kind : FacetKind) :
    (s.difference t).contains kind = (s.contains kind && !t.contains kind) :=
  contains_ofTest _ _

@[simp] theorem contains_empty (kind : FacetKind) : empty.contains kind = false := by
  cases kind <;> rfl

@[simp] theorem contains_all (kind : FacetKind) : all.contains kind = true :=
  contains_ofTest _ _

end FacetSet
end Registry
