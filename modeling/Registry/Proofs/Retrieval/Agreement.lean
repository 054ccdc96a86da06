import Registry.Proofs.Retrieval.Unasked
import Registry.Proofs.Retrieval.Vanished
import Registry.Proofs.Snapshot.Exact

/-! # A batch against single loads

A batch from tables succeeds iff each of its elements can be loaded by itself, and it returns what
these loads return, but for one thing. All of its elements are asked for alike, so that one which is
incomplete is also brought what it had and others lack. Such a facet is then as the tables hold it
now, where a single load keeps it as it was seen before.
-/

namespace Registry

theorem Facet.refresh_of_fresh {α : Type} {loaded : Facet α → Bool} {fresh old : Facet α}
    (isLoaded : loaded fresh = true) : refresh loaded fresh old = fresh := by
  simp [refresh, isLoaded]

namespace Element

variable {a b c e fresh : Element} {kind : FacetKind}

theorem SameFacet.symm (same : a.SameFacet b kind) : b.SameFacet a kind := by
  cases kind <;> exact Eq.symm same

theorem SameFacet.trans (first : a.SameFacet b kind) (second : b.SameFacet c kind) :
    a.SameFacet c kind := by
  cases kind <;> exact Eq.trans first second

theorem eq_of_sameFacet (base : a.base = b.base) (facets : ∀ kind, a.SameFacet b kind) : a = b := by
  cases a
  cases b
  simp only [Element.base, Element.mk.injEq, and_true] at base
  obtain ⟨rfl, rfl, rfl, rfl, rfl⟩ := base
  simp only [Element.mk.injEq, true_and]
  exact ⟨facets .attributes, facets .parent, facets .children, facets .permissions,
    facets .linksDown, facets .linksUp⟩

theorem sameFacet_absorb_of_has (carried : fresh.has kind = true) :
    (e.absorb fresh).SameFacet fresh kind := by
  cases kind with
  | attributes | children | permissions | parent | linksDown | linksUp =>
      exact Facet.refresh_of_fresh carried

theorem sameFacet_absorb_congr (same : a.SameFacet b kind) :
    (e.absorb a).SameFacet (e.absorb b) kind := by
  cases kind <;>
    · simp only [SameFacet] at same
      simp only [SameFacet, absorb, same]

end Element

namespace Tables

variable {t : Tables} {kind : FacetKind}

theorem sameFacet_load (t : Tables) (row : ElementRow) {asked asked' : FacetSet}
    (same : asked.contains kind = asked'.contains kind) :
    (t.load row asked).SameFacet (t.load row asked') kind := by
  cases kind <;> simp only [Element.SameFacet, load, same]

/-- The facet of this kind is on `e` as the tables hold it. -/
def UpToDate (t : Tables) (e : Element) (kind : FacetKind) : Prop :=
  ∃ fresh, t.fetch e.id (.single kind) = .ok fresh ∧ e.SameFacet fresh kind

theorem UpToDate.of_same {a b : Element} (upToDate : t.UpToDate a kind) (sameId : a.id = b.id)
    (same : a.SameFacet b kind) : t.UpToDate b kind := by
  obtain ⟨fresh, fetched, current⟩ := upToDate
  exact ⟨fresh, sameId ▸ fetched, same.symm.trans current⟩

theorem UpToDate.sameFacet {a b : Element} (first : t.UpToDate a kind)
    (second : t.UpToDate b kind) (sameId : a.id = b.id) : a.SameFacet b kind := by
  obtain ⟨fresh, fetched, same⟩ := first
  obtain ⟨other, again, same'⟩ := second
  rw [sameId, again] at fetched
  cases fetched
  exact same.trans same'.symm

theorem upToDate_iff {e : Element} {row : ElementRow} (found : t.row? e.id = some row)
    {asked : FacetSet} (wanted : asked.contains kind = true) :
    t.UpToDate e kind ↔ e.SameFacet (t.load row asked) kind := by
  have alike : (t.load row (.single kind)).SameFacet (t.load row asked) kind :=
    t.sameFacet_load row (by simp [FacetSet.single, wanted])
  simp only [UpToDate, fetch, found]
  constructor
  · rintro ⟨_, ⟨rfl⟩, same⟩
    exact same.trans alike
  · intro same
    exact ⟨_, rfl, same.trans alike.symm⟩

end Tables

namespace Retrieval

variable {t : Tables} {e : Element} {elements : List Element} {facets : FacetSet}
  {kind : FacetKind} {usage : Usage}

/-- An incomplete element has this facet of the request, which others lack. -/
structure Shared (elements : List Element) (facets : FacetSet) (e : Element) (kind : FacetKind) :
    Prop where
  incomplete : ¬ e.Covers facets
  wanted : facets.contains kind = true
  present : e.Present kind
  lacked : ∃ other ∈ elements, ¬ other.Present kind

theorem contains_request_of_shared (shared : Shared elements facets e kind) :
    (request elements facets).contains kind = true := by
  obtain ⟨other, member, absent⟩ := shared.lacked
  rw [contains_request]
  exact ⟨other, member, Element.contains_missing_iff.2 ⟨shared.wanted, absent⟩⟩

/-- An incomplete element is asked for what it lacks and for what it shares, and nothing else. -/
theorem contains_request_of_not_shared (member : e ∈ elements) (lacking : ¬ e.Covers facets)
    (unshared : ¬ Shared elements facets e kind) :
    (request elements facets).contains kind = (e.missing facets).contains kind := by
  rw [Bool.eq_iff_iff, contains_request]
  constructor
  · rintro ⟨other, listed, missing⟩
    obtain ⟨wanted, absent⟩ := Element.contains_missing_iff.1 missing
    exact Element.contains_missing_iff.2
      ⟨wanted, fun present => unshared ⟨lacking, wanted, present, other, listed, absent⟩⟩
  · intro missing
    exact ⟨e, member, missing⟩

/-- What a batch makes of an element, against what a load of it alone makes. -/
structure Renews (t : Tables) (elements : List Element) (facets : FacetSet)
    (e single loaded : Element) : Prop where
  base : loaded.base = single.base
  unshared : ∀ kind, ¬ Shared elements facets e kind → loaded.SameFacet single kind
  shared : ∀ kind, Shared elements facets e kind → t.UpToDate loaded kind

theorem brought_of_covers (enough : e.Covers facets) (asked : FacetSet) :
    t.brought facets asked e = e :=
  if_pos (Element.covers_iff.1 enough)

theorem brought_of_not_covers (lacking : ¬ e.Covers facets) {row : ElementRow}
    (found : t.row? e.id = some row) (asked : FacetSet) :
    t.brought facets asked e = e.absorb (t.load row asked) := by
  rw [Tables.brought, if_neg (Element.covers_iff.not.1 lacking)]
  simp only [Tables.current, found]

theorem row_of_not_covers (lacking : ¬ e.Covers facets) (present : ¬ t.Vanished facets e) :
    ∃ row, t.row? e.id = some row := by
  rw [← Option.isSome_iff_exists, Tables.isSome_row?_iff]
  refine by_contra fun gone => present ⟨?_, gone⟩
  rw [Element.lacks_iff, ← Element.covers_iff]
  exact lacking

theorem renews_brought (member : e ∈ elements) (present : ¬ t.Vanished facets e) :
    Renews t elements facets e (t.brought facets (e.missing facets) e)
      (t.brought facets (request elements facets) e) := by
  by_cases enough : e.Covers facets
  · rw [brought_of_covers enough, brought_of_covers enough]
    exact ⟨rfl, fun kind _ => e.sameFacet_refl kind,
      fun _ shared => absurd enough shared.incomplete⟩
  · obtain ⟨row, found⟩ := row_of_not_covers enough present
    rw [brought_of_not_covers enough found, brought_of_not_covers enough found]
    refine ⟨rfl, fun kind unshared => ?_, fun kind shared => ?_⟩
    · exact Element.sameFacet_absorb_congr
        (t.sameFacet_load row (contains_request_of_not_shared member enough unshared))
    · have asked := contains_request_of_shared shared
      have sameId : (e.absorb (t.load row (request elements facets))).id = e.id := t.row?_id found
      rw [Tables.upToDate_iff (sameId.symm ▸ found) asked]
      exact Element.sameFacet_absorb_of_has (by rw [t.has_load, asked])

/-- A single load keeps the facets that a batch would bring anew. -/
theorem sameFacet_brought (shared : Shared elements facets e kind)
    (present : ¬ t.Vanished facets e) :
    (t.brought facets (e.missing facets) e).SameFacet e kind := by
  obtain ⟨row, found⟩ := row_of_not_covers shared.incomplete present
  have unasked : (e.missing facets).contains kind = false :=
    Element.not_contains_missing_iff.2 fun _ => shared.present
  rw [brought_of_not_covers shared.incomplete found]
  exact Element.sameFacet_absorb (t.unfetched_load row unasked) shared.present

theorem brought_id (asked : FacetSet) : (t.brought facets asked e).id = e.id := by
  unfold Tables.brought
  split
  · rfl
  · exact t.current_id e

/-- The batch makes no difference to an element iff it has seen, as they are now, all the facets
    that it shares. -/
theorem brought_eq_iff (member : e ∈ elements) (present : ¬ t.Vanished facets e) :
    t.brought facets (request elements facets) e = t.brought facets (e.missing facets) e ↔
      ∀ kind, Shared elements facets e kind → t.UpToDate e kind := by
  have renews := renews_brought member present
  constructor
  · intro same kind shared
    have renewed := renews.shared kind shared
    rw [same] at renewed
    exact renewed.of_same (brought_id _) (sameFacet_brought shared present)
  · intro current
    refine Element.eq_of_sameFacet renews.base fun kind => ?_
    by_cases shared : Shared elements facets e kind
    · have asSeen := (renews.shared kind shared).sameFacet (current kind shared) (brought_id _)
      exact asSeen.trans (sameFacet_brought shared present).symm
    · exact renews.unshared kind shared

/-- A load of the element by itself succeeds with `loaded`. -/
def Loads (t : Tables) (usage : Usage) (facets : FacetSet) (e loaded : Element) : Prop :=
  ∃ spent, ensure Source.tables e facets ⟨t, usage⟩ = (.ok loaded, ⟨t, spent⟩)

theorem loads_iff (present : ¬ t.Vanished facets e) {loaded : Element} :
    Loads t usage facets e loaded ↔ t.brought facets (e.missing facets) e = loaded := by
  obtain ⟨spent, done⟩ := ensure_of_present present usage
  simp only [Loads, done, Prod.mk.injEq, Except.ok.injEq]
  constructor
  · rintro ⟨_, same, -⟩
    exact same
  · intro same
    exact ⟨spent, same, rfl⟩

theorem not_loads (vanished : t.Vanished facets e) (loaded : Element) :
    ¬ Loads t usage facets e loaded := by
  obtain ⟨spent, failed⟩ := ensure_of_vanished vanished usage
  rintro ⟨_, done⟩
  rw [failed] at done
  cases done

/-- A batch succeeds iff all single loads do. It then returns their results, up to the facets that
    its elements share, and exactly their results iff each of these is still as it was seen. -/
theorem ensureAll_agrees_iff (t : Tables) (elements : List Element) (facets : FacetSet)
    (usage other : Usage) :
    ∃ result spent, ensureAll Source.tables elements facets ⟨t, usage⟩ = (result, ⟨t, spent⟩) ∧
      ((∃ loaded, result = .ok loaded) ↔
        ∀ e ∈ elements, ∃ single, Loads t other facets e single) ∧
      ∀ loaded, result = .ok loaded →
        List.Forall₂ (fun e loaded => ∃ single, Loads t other facets e single ∧
          Renews t elements facets e single loaded) elements loaded ∧
        (List.Forall₂ (Loads t other facets) elements loaded ↔
          ∀ e ∈ elements, ∀ kind, Shared elements facets e kind → t.UpToDate e kind) := by
  by_cases vanished : ∃ e ∈ elements, t.Vanished facets e
  · obtain ⟨_, _, _, spent, failed⟩ := ensureAll_of_vanished vanished usage
    obtain ⟨e, member, vanished⟩ := vanished
    refine ⟨_, spent, failed, iff_of_false ?_ ?_, fun _ done => by cases done⟩
    · rintro ⟨_, done⟩
      cases done
    · intro all
      obtain ⟨single, loads⟩ := all e member
      exact not_loads vanished single loads
  · have present : ∀ e ∈ elements, ¬ t.Vanished facets e := by simpa using vanished
    obtain ⟨spent, done⟩ := ensureAll_stored (stored_of_present present) usage
    have singly : ∀ e ∈ elements, ∃ single, Loads t other facets e single := fun e member =>
      ⟨_, (loads_iff (present e member)).2 rfl⟩
    refine ⟨_, spent, done, iff_of_true ⟨_, rfl⟩ singly, ?_⟩
    rintro _ ⟨rfl⟩
    rw [List.forall₂_map_right_iff, List.forall₂_same, List.forall₂_map_right_iff,
      List.forall₂_same]
    constructor
    · intro e member
      exact ⟨_, (loads_iff (present e member)).2 rfl, renews_brought member (present e member)⟩
    · refine forall₂_congr fun e member => ?_
      rw [loads_iff (present e member), eq_comm]
      exact brought_eq_iff member (present e member)

/-- A box that was put into a rack. -/
def boxedRack : Tables where
  elements := [⟨1, "a", "rack", none, none, 0, "R"⟩, ⟨2, "b", "box", none, some 1, 0, "B"⟩]

/-- The rack as it was seen before the box came. -/
def emptyRack : Element where
  id := 1
  uuid := "a"
  typeId := "rack"
  scope := none
  title := "R"
  children := .fetched []

/-- The box as a query brings it. -/
def newBox : Element where
  id := 2
  uuid := "b"
  typeId := "box"
  scope := none
  title := "B"

/-- The parents are missing on both, the children on the box only. The batch brings the children of
    the rack anew; the load of the rack alone keeps them. -/
theorem ensureAll_renews_emptyRack :
    ensureAll Source.tables [emptyRack, newBox] (.ofList [.children, .parent]) ⟨boxedRack, {}⟩ =
        (.ok [{ emptyRack with children := .fetched [2], parent := .fetched none },
            { newBox with children := .fetched [], parent := .fetched (some 1) }],
          ⟨boxedRack, { checks := 2, fetches := 1, elementsFetched := 2 }⟩) ∧
      Loads boxedRack {} (.ofList [.children, .parent]) emptyRack
        { emptyRack with parent := .fetched none } ∧
      Loads boxedRack {} (.ofList [.children, .parent]) newBox
        { newBox with children := .fetched [], parent := .fetched (some 1) } ∧
      ¬ List.Forall₂ (Loads boxedRack {} (.ofList [.children, .parent])) [emptyRack, newBox]
        [{ emptyRack with children := .fetched [2], parent := .fetched none },
          { newBox with children := .fetched [], parent := .fetched (some 1) }] := by
  have kept : Loads boxedRack {} (.ofList [.children, .parent]) emptyRack
      { emptyRack with parent := .fetched none } := ⟨_, rfl⟩
  refine ⟨rfl, kept, ⟨_, rfl⟩, ?_⟩
  rintro (_ | ⟨⟨spent, renewed⟩, _⟩)
  obtain ⟨spent', keeps⟩ := kept
  rw [keeps] at renewed
  cases renewed

end Retrieval
end Registry
