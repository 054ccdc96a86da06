import Registry.Tables

/-! # Removing a subtree

Removing an element removes all that is below it in the containment tree, with every property,
permission and link of a removed element. Parent chains may be circular or lead nowhere.
-/

namespace Registry.Tables

/-- Belongs to the subtree of `top`: it is `top`, or its parent belongs to it. -/
inductive Below (t : Tables) (top : ElementId) : ElementId → Prop
  | top : Below t top top
  | child {row : ElementRow} {parent : ElementId} (stored : row ∈ t.elements)
      (up : row.parent = some parent) (below : Below t top parent) : Below t top row.id

/-- The rows of `rest` below the elements `level`, found level by level. Every round but the last
    takes a row out of `rest`, so `rounds` may be its length. -/
def descend (rounds : Nat) (rest : List ElementRow) (level : List ElementId) : List ElementId :=
  match rounds with
  | 0 => []
  | rounds + 1 =>
      let isNext := fun (row : ElementRow) => row.parent.any level.contains
      let next := (rest.filter isNext).map (·.id)
      if next.isEmpty then []
      else next ++ descend rounds (rest.filter (!isNext ·)) next

/-- The ids of the subtree of `top`. -/
def subtree (t : Tables) (top : ElementId) : List ElementId :=
  top :: descend t.elements.length (t.elements.filter (·.id != top)) [top]

/-- Take out elements with all their rows. -/
def without (t : Tables) (ids : List ElementId) : Tables :=
  { t with
    elements := t.elements.filter fun row => !ids.contains row.id
    properties := t.properties.filter fun row => !ids.contains row.element
    permissions := t.permissions.filter fun row => !ids.contains row.element
    links := t.links.filter fun link => !(ids.contains link.source || ids.contains link.target) }

/-- Remove an element with its subtree; tells how many elements are gone. -/
def remove (t : Tables) (id : ElementId) : Except StoreError Nat × Tables :=
  if (t.row? id).isSome then
    let ids := t.subtree id
    (.ok ids.length, t.without ids)
  else (.error (.elementNotFound id), t)

end Registry.Tables
