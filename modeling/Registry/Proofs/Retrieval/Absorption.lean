import Registry.Proofs.Retrieval.Agreement

/-! # Taking in copies

An element can be brought up to date with several copies in any grouping. Facets are only ever
gained by it: each one that is present on either side is present in the end, taken from the copy if
that has it, and whether a facet is present is a question of all that is nested in it.
-/

namespace Registry

/-- Of three facets in a row the last one that is loaded prevails, and the last one of all if none
    is. -/
theorem Facet.refresh_assoc {α : Type} (loaded : Facet α → Bool) (first second third : Facet α) :
    refresh loaded third (refresh loaded second first) =
      refresh loaded (refresh loaded third second) first := by
  cases lastLoaded : loaded third with
  | true =>
      have prevails : refresh loaded third second = third := refresh_of_fresh lastLoaded
      rw [prevails, refresh_of_fresh lastLoaded, refresh_of_fresh lastLoaded]
  | false =>
      cases middleLoaded : loaded second with
      | true =>
          have prevails : refresh loaded third second = second :=
            refresh_of_loaded lastLoaded middleLoaded
          rw [prevails, refresh_of_fresh middleLoaded, prevails]
      | false =>
          have passed : refresh loaded third second = third :=
            refresh_of_not_loaded loaded middleLoaded
          rw [passed]
          cases firstLoaded : loaded first with
          | true => rw [refresh_of_loaded middleLoaded firstLoaded]
          | false =>
              have nothing (fresh : Facet α) : refresh loaded fresh first = fresh :=
                refresh_of_not_loaded loaded firstLoaded
              rw [nothing, nothing, passed]

namespace Element

variable {e : Element} {kind : FacetKind}

theorem absorb_assoc (first second third : Element) :
    (first.absorb second).absorb third = first.absorb (second.absorb third) := by
  refine eq_of_sameFacet rfl fun kind => ?_
  cases kind with
  | attributes => exact Facet.refresh_assoc (·.loadedWith Attributes.isLoaded) _ _ _
  | children | permissions | parent | linksDown | linksUp =>
      exact Facet.refresh_assoc (·.isFetched) _ _ _

theorem present_absorb (e fresh : Element) :
    (e.absorb fresh).present = e.present.union fresh.present := by
  refine FacetSet.ext_contains fun kind => ?_
  rw [FacetSet.contains_union, contains_present, contains_present, contains_present, has_absorb,
    Bool.or_comm]

theorem contains_present_iff : e.present.contains kind = true ↔ e.Present kind := by
  rw [contains_present, has_iff]

/-- Elements that take in copies form a semigroup, presence is gained from either side, and of two
    facets that are present the one of the copy is taken. -/
theorem absorb_laws :
    (∀ first second third : Element,
      (first.absorb second).absorb third = first.absorb (second.absorb third)) ∧
    (∀ e fresh : Element, (e.absorb fresh).present = e.present.union fresh.present) ∧
    (∀ (e fresh : Element) (kind : FacetKind),
      (fresh.Present kind → (e.absorb fresh).SameFacet fresh kind) ∧
      (e.Present kind → ¬ fresh.Present kind → (e.absorb fresh).SameFacet e kind)) ∧
    ∀ (e : Element) (kind : FacetKind), e.present.contains kind = true ↔ e.Present kind := by
  refine ⟨absorb_assoc, present_absorb, fun e fresh kind => ⟨fun carried => ?_,
    fun held lacking => ?_⟩, fun e kind => contains_present_iff⟩
  · exact sameFacet_absorb_of_has (has_iff.2 carried)
  · rw [← has_iff, Bool.not_eq_true] at lacking
    exact sameFacet_absorb_of_not_has lacking held

/-- A rack with the properties of its one group, and its parent as it was. -/
def wholeRack : Element where
  id := 1
  uuid := "element-1"
  typeId := "rack"
  scope := none
  title := "R"
  attributes := .fetched ⟨.fetched (TextMap.ofList [("place", ⟨.fetched [⟨"room", "12"⟩]⟩)])⟩
  parent := .fetched (some 2)

/-- A later copy of it. The group is there, but not its properties; the rack has moved. -/
def movedRack : Element :=
  { wholeRack with
    attributes := .fetched ⟨.fetched (TextMap.ofList [("place", ⟨.unfetched⟩)])⟩
    parent := .fetched (some 3) }

theorem absorb_laws_movedRack :
    movedRack.Present .parent ∧ (wholeRack.absorb movedRack).SameFacet movedRack .parent ∧
    wholeRack.Present .attributes ∧ ¬ movedRack.Present .attributes ∧
    (wholeRack.absorb movedRack).SameFacet wholeRack .attributes := by
  have carried : movedRack.Present .parent := has_iff.1 rfl
  have held : wholeRack.Present .attributes := has_iff.1 rfl
  have lacking : ¬ movedRack.Present .attributes := fun present =>
    absurd (has_iff.2 present) (by decide)
  obtain ⟨-, -, taken, -⟩ := absorb_laws
  exact ⟨carried, (taken wholeRack movedRack .parent).1 carried, held, lacking,
    (taken wholeRack movedRack .attributes).2 held lacking⟩

end Element
end Registry
