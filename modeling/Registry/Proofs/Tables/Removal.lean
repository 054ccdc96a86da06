import Registry.Proofs.Tables.Subtree
import Mathlib.Data.Set.Card
import Mathlib.Order.Bounds.Defs

/-! # Exact removals

What a removal takes out is the least set of elements that holds the one asked for and the children
of its members, whether parent chains end, run in circles or lead nowhere. Every other row stays
where it is.
-/

namespace Registry.Tables

variable {t : Tables} {top : ElementId}

/-- The element belongs to the set, and so does every child of a member. -/
def Spans (t : Tables) (top : ElementId) (ids : Set ElementId) : Prop :=
  top ∈ ids ∧ ∀ row ∈ t.elements, ∀ parent ∈ ids, row.parent = some parent → row.id ∈ ids

theorem isLeast_below (t : Tables) (top : ElementId) :
    IsLeast {ids | t.Spans top ids} {id | t.Below top id} := by
  refine ⟨⟨.top, fun row stored parent below up => .child stored up below⟩, ?_⟩
  intro ids spanned id below
  induction below with
  | top => exact spanned.1
  | child stored up _ ih => exact spanned.2 _ stored _ ih up

theorem encard_below (keyed : t.Keyed) (top : ElementId) :
    {id | t.Below top id}.encard = (t.subtree top).length := by
  have members : {id | t.Below top id} = ((t.subtree top).toFinset : Set ElementId) := by
    ext id
    simp [mem_subtree_iff]
  rw [members, Set.encard_coe_eq_coe_finsetCard,
    List.toFinset_card_of_nodup (nodup_subtree keyed top)]

/-- The parent of an element that is left is not below the removed one, or the element would be. -/
theorem parent_not_below {left : Tables} (spared : t.Spared left (t.Below top)) {row : ElementRow}
    (stays : row ∈ left.elements) {parent : ElementId} (up : row.parent = some parent) :
    ¬ t.Below top parent := by
  intro below
  rw [spared.elements] at stays
  obtain ⟨stored, kept⟩ := List.mem_filter.1 stays
  have isBelow : t.Below top row.id := .child stored up below
  simp [isBelow] at kept

/-- How an element is removed: not at all if it is not stored, else with all that is below it, and
    with nothing else. -/
structure RemovesSubtree (t : Tables) (top : ElementId) : Prop where
  least : IsLeast {ids | t.Spans top ids} {id | t.Below top id}
  refused : t.remove top = (.error (.elementNotFound top), t) ↔ ¬ t.Holds top
  removed : t.Holds top → ∃ count left, t.remove top = (.ok count, left) ∧
    {id | t.Below top id}.encard = count ∧ t.Spared left (t.Below top) ∧
    ∀ row ∈ left.elements, ∀ parent ∈ row.parent, ¬ t.Below top parent

/-- Every removal takes exactly a subtree, or fails and changes nothing. -/
theorem remove_exact (keyed : t.Keyed) (top : ElementId) : t.RemovesSubtree top where
  least := t.isLeast_below top
  refused := by
    constructor
    · intro failed stored
      rw [remove_of_holds stored] at failed
      cases failed
    · exact remove_of_not_holds
  removed stored := by
    have spared : t.Spared (t.without (t.subtree top)) (t.Below top) :=
      spared_without fun _ => mem_subtree_iff
    exact ⟨_, _, remove_of_holds stored, encard_below keyed top, spared,
      fun row stays parent up => parent_not_below spared stays up⟩

/-- Two racks inside each other, with a shelf in one of them, a box inside itself that the shelf is
    linked to, and a cable inside an element that is not there. -/
def circular : Tables :=
  ((fresh.importDataset {
    elements := [{ id := 1, typeId := "rack", parent := some 2 },
      { id := 2, typeId := "rack", parent := some 1 },
      { id := 3, typeId := "shelf", parent := some 2,
        properties := TextMap.ofList [("place", TextMap.ofList [("room", "B")])],
        permissions := [⟨"reader", true, false⟩] },
      { id := 4, typeId := "box", parent := some 4 }]
    links := [⟨3, 4, "uses", none⟩, ⟨4, 4, "uses", none⟩] }).2.insertElement
      { id := some 5, uuid := "cable", typeId := "cable", parent := some 9, title := "" }).2

theorem remove_exact_circular :
    circular.Keyed ∧ circular.RemovesSubtree 1 ∧
      ∃ left, circular.remove 1 = (.ok 3, left) ∧ left.elements.map (·.id) = [4, 5] ∧
        left.properties = [] ∧ left.permissions = [] ∧ left.links = [⟨4, 4, "uses", none⟩] := by
  have keyed : circular.Keyed := ((Reachable.fresh.importDataset _).insertElement _).keyed
  refine ⟨keyed, remove_exact keyed 1, _, Prod.ext ?_ rfl, ?_⟩
  · decide +kernel
  · decide +kernel

end Registry.Tables
