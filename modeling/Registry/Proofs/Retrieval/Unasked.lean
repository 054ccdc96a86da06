import Registry.Tables.Import
import Registry.Proofs.Retrieval.Guarantees

/-! # Facets that nobody asked for

A load brings an element up to date with a copy that carries what was missing and nothing else.
Beside the facets of the request only those that are present outlast this: attributes that are
loaded in part, and recorded failures, are forgotten.
-/

namespace Registry

theorem Facet.refresh_of_loaded {α : Type} {loaded : Facet α → Bool} {fresh old : Facet α}
    (notLoaded : loaded fresh = false) (isLoaded : loaded old = true) :
    refresh loaded fresh old = old := by
  simp [refresh, notLoaded, isLoaded]

namespace Element

variable {a b e fresh : Element} {kind : FacetKind}

/-- Two elements have the same facet of this kind, in whatever state it is. -/
def SameFacet (a b : Element) : FacetKind → Prop
  | .attributes => a.attributes = b.attributes
  | .children => a.children = b.children
  | .permissions => a.permissions = b.permissions
  | .parent => a.parent = b.parent
  | .linksDown => a.linksDown = b.linksDown
  | .linksUp => a.linksUp = b.linksUp

/-- Nothing is known of the facet of this kind. -/
def Unfetched (e : Element) : FacetKind → Prop
  | .attributes => e.attributes = .unfetched
  | .children => e.children = .unfetched
  | .permissions => e.permissions = .unfetched
  | .parent => e.parent = .unfetched
  | .linksDown => e.linksDown = .unfetched
  | .linksUp => e.linksUp = .unfetched

theorem sameFacet_refl (e : Element) (kind : FacetKind) : e.SameFacet e kind := by
  cases kind <;> rfl

theorem Unfetched.sameFacet_iff (unfetched : a.Unfetched kind) :
    a.SameFacet b kind ↔ b.Unfetched kind := by
  cases kind <;> simp only [Unfetched] at unfetched <;>
    simp only [SameFacet, Unfetched, unfetched, eq_comm]

theorem Unfetched.not_has (unfetched : e.Unfetched kind) : e.has kind = false := by
  cases kind <;> simp only [Unfetched] at unfetched <;> simp only [has, unfetched] <;> rfl

theorem sameFacet_absorb_of_not_has (lacking : fresh.has kind = false) (present : e.Present kind) :
    (e.absorb fresh).SameFacet e kind := by
  rw [← has_iff] at present
  cases kind with
  | attributes | children | permissions | parent | linksDown | linksUp =>
      exact Facet.refresh_of_loaded lacking present

theorem sameFacet_absorb (uncarried : fresh.Unfetched kind) (present : e.Present kind) :
    (e.absorb fresh).SameFacet e kind :=
  sameFacet_absorb_of_not_has uncarried.not_has present

theorem unfetched_absorb (uncarried : fresh.Unfetched kind) (absent : ¬ e.Present kind) :
    (e.absorb fresh).Unfetched kind := by
  rw [← has_iff, Bool.not_eq_true] at absent
  cases kind with
  | attributes | children | permissions | parent | linksDown | linksUp =>
      exact (Facet.refresh_of_not_loaded _ absent).trans uncarried

end Element

theorem Tables.unfetched_load (t : Tables) (row : ElementRow) {asked : FacetSet} {kind : FacetKind}
    (unasked : asked.contains kind = false) : (t.load row asked).Unfetched kind := by
  cases kind <;> simp only [FacetSet.contains] at unasked <;>
    simp [Element.Unfetched, load, FacetSet.contains, unasked]

namespace Retrieval

variable {t : Tables} {e loaded : Element} {facets : FacetSet} {usage : Usage}
  {after : Retrieval Tables}

/-- Every facet that did not have to be loaded is the same as before. -/
def KeepsUnasked (e : Element) (facets : FacetSet) (loaded : Element) : Prop :=
  ∀ kind, (e.missing facets).contains kind = false → loaded.SameFacet e kind

/-- What becomes of a facet that is not loaded when others are. -/
theorem unasked_of_ensure (lacking : ¬ e.Covers facets)
    (done : ensure Source.tables e facets ⟨t, usage⟩ = (.ok loaded, after)) (kind : FacetKind)
    (unasked : (e.missing facets).contains kind = false) :
    (e.Present kind → loaded.SameFacet e kind) ∧ (¬ e.Present kind → loaded.Unfetched kind) := by
  obtain ⟨spent, settled⟩ := ensure_of_not_covers Source.tables lacking ⟨t, usage⟩
  rw [settled] at done
  obtain ⟨fresh, fetched, -, -, rfl⟩ := settle_eq_ok_iff.1 (congrArg Prod.fst done)
  have uncarried : fresh.Unfetched kind := by
    simp only [Source.tables, Tables.fetch] at fetched
    split at fetched
    · cases fetched
      exact t.unfetched_load _ unasked
    · cases fetched
  exact ⟨Element.sameFacet_absorb uncarried, Element.unfetched_absorb uncarried⟩

/-- A load from tables keeps what it does not load iff it loads nothing, or every facet outside the
    request is present or was never fetched. -/
theorem ensure_keeps_iff
    (done : ensure Source.tables e facets ⟨t, usage⟩ = (.ok loaded, after)) :
    KeepsUnasked e facets loaded ↔ e.Covers facets ∨
      ∀ kind, facets.contains kind = false → e.Present kind ∨ e.Unfetched kind := by
  by_cases enough : e.Covers facets
  · obtain ⟨spent, unchanged⟩ := ensure_of_covers Source.tables enough ⟨t, usage⟩
    rw [unchanged] at done
    cases done
    exact iff_of_true (fun kind _ => e.sameFacet_refl kind) (.inl enough)
  · have fate := unasked_of_ensure enough done
    rw [or_iff_right enough]
    constructor
    · intro kept kind outside
      have unasked : (e.missing facets).contains kind = false := by
        rw [Element.contains_missing, outside, Bool.false_and]
      rw [or_iff_not_imp_left]
      exact fun absent => ((fate kind unasked).2 absent).sameFacet_iff.1 (kept kind unasked)
    · intro harmless kind unasked
      by_cases present : e.Present kind
      · exact (fate kind unasked).1 present
      · have outside : facets.contains kind = false := by
          rw [← Bool.not_eq_true] at unasked ⊢
          exact fun wanted => unasked (Element.contains_missing_iff.2 ⟨wanted, present⟩)
        have unfetched : e.Unfetched kind := (harmless kind outside).resolve_left present
        exact ((fate kind unasked).2 present).sameFacet_iff.2 unfetched

/-- A rack with properties in two groups. -/
def oneRack : Tables :=
  (Tables.fresh.importDataset {
    elements := [{
      id := 1
      typeId := "rack"
      title := "R"
      properties := .ofList
        [("legal", .ofList [("owner", "ops")]), ("place", .ofList [("room", "12")])] }] }).2

/-- The rack with one of its groups loaded, after an attempt at its permissions. -/
def partlySeen : Element where
  id := 1
  uuid := "element-1"
  typeId := "rack"
  scope := none
  title := "R"
  attributes := .fetched ⟨.fetched (TextMap.ofList
    [("legal", ⟨.unfetched⟩), ("place", ⟨.fetched [⟨"room", "12"⟩]⟩)])⟩
  permissions := .failed "timeout"

/-- The rack after its children were loaded. -/
def barelySeen : Element :=
  { partlySeen with attributes := .unfetched, children := .fetched [], permissions := .unfetched }

theorem ensure_partlySeen :
    ensure Source.tables partlySeen (.single .children) ⟨oneRack, {}⟩ =
      (.ok barelySeen, ⟨oneRack, { checks := 1, fetches := 1, elementsFetched := 1 }⟩) := by
  rfl

theorem ensure_keeps_iff_partlySeen :
    ensure Source.tables partlySeen (.single .children) ⟨oneRack, {}⟩ =
        (.ok barelySeen, ⟨oneRack, { checks := 1, fetches := 1, elementsFetched := 1 }⟩) ∧
      (KeepsUnasked partlySeen (.single .children) barelySeen ↔
        partlySeen.Covers (.single .children) ∨
          ∀ kind, (FacetSet.single .children).contains kind = false →
            partlySeen.Present kind ∨ partlySeen.Unfetched kind) :=
  ⟨ensure_partlySeen, ensure_keeps_iff ensure_partlySeen⟩

/-- Loading the children forgets the group and the failure. -/
theorem ensure_forgets_partlySeen :
    ensure Source.tables partlySeen (.single .children) ⟨oneRack, {}⟩ =
        (.ok barelySeen, ⟨oneRack, { checks := 1, fetches := 1, elementsFetched := 1 }⟩) ∧
      ¬ KeepsUnasked partlySeen (.single .children) barelySeen := by
  refine ⟨ensure_partlySeen, fun kept => ?_⟩
  have same : Facet.unfetched = partlySeen.permissions := kept .permissions (by decide)
  cases same

end Retrieval
end Registry
