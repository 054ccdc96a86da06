/-! # Facets

A facet is a part of an element that is loaded by itself. Until it is fetched nothing is known
of it, which differs from being known to be empty.
-/

namespace Registry

/-- Load state of one part of an element. -/
inductive Facet (α : Type) where
  /-- Nothing is known of the value. -/
  | unfetched
  /-- The value at the time it was fetched. -/
  | fetched (value : α)
  /-- A fetch was tried and did not bring the value. -/
  | failed (reason : String)
  deriving DecidableEq, Repr, Inhabited

namespace Facet

variable {α : Type}

/-- The fetched value; parts of it may still be missing. -/
def value? : Facet α → Option α
  | .fetched value => some value
  | _ => none

def isFetched (facet : Facet α) : Bool :=
  facet.value?.isSome

def failure? : Facet α → Option String
  | .failed reason => some reason
  | _ => none

/-- Fetched, with a value that satisfies `deep`, which says that nothing inside it is missing. -/
def loadedWith (deep : α → Bool) : Facet α → Bool
  | .fetched value => deep value
  | _ => false

/-- Change the value of a fetched facet. -/
def map (f : α → α) : Facet α → Facet α
  | .fetched value => .fetched (f value)
  | other => other

/-- The fresh facet, unless the old one is loaded and the fresh one is not. -/
def refresh (loaded : Facet α → Bool) (fresh old : Facet α) : Facet α :=
  if !loaded fresh && loaded old then old else fresh

end Facet
end Registry
