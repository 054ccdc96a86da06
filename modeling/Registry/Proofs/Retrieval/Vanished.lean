import Registry.Proofs.Snapshot.Stored
import Registry.Proofs.Tables.Reading

/-! # Vanished elements

A view of an element may outlast its row. Over tables this is the one way in which a retrieval can
fail; otherwise what was missing is loaded as the tables hold it, and a snapshot is always built.
-/

namespace Registry

/-- Some of the facets are not loaded. -/
def Element.Lacks (e : Element) (facets : FacetSet) : Prop :=
  ∃ kind, facets.contains kind = true ∧ e.has kind = false

theorem Element.lacks_iff {e : Element} {facets : FacetSet} :
    e.Lacks facets ↔ ¬ (e.missing facets).isEmpty = true := by
  simp [Lacks, Element.missing_isEmpty_iff]

namespace Tables

variable {t : Tables}

/-- Something has to be loaded of the element, but it is not stored. -/
def Vanished (t : Tables) (facets : FacetSet) (e : Element) : Prop :=
  e.Lacks facets ∧ ¬ t.Holds e.id

/-- What a retrieval makes of an element: one that lacks nothing stays as it is, any other has all
    that was asked for as the tables tell it. -/
def Supplies (t : Tables) (facets asked : FacetSet) (e supplied : Element) : Prop :=
  (¬ e.Lacks facets → supplied = e) ∧
    (e.Lacks facets → ∀ kind, asked.contains kind = true → t.Tells e.id supplied kind)

theorem row?_eq_none_iff {id : ElementId} : t.row? id = none ↔ ¬ t.Holds id := by
  rw [← isSome_row?_iff, Bool.not_eq_true, Option.isSome_eq_false_iff, Option.isNone_iff_eq_none]

theorem supplies_brought (keyed : t.Keyed) {facets asked : FacetSet} {e : Element}
    (present : ¬ t.Vanished facets e) : t.Supplies facets asked e (t.brought facets asked e) := by
  unfold brought
  constructor
  · intro enough
    rw [Element.lacks_iff, not_not] at enough
    rw [if_pos enough]
  · intro lacks kind wanted
    have stored : t.Holds e.id := by_contra fun gone => present ⟨lacks, gone⟩
    obtain ⟨row, isStored, isRow⟩ := stored
    have found : t.row? e.id = some row := keyed.row?_eq_some_iff.2 ⟨isStored, isRow⟩
    rw [Element.lacks_iff] at lacks
    rw [if_neg lacks, ← isRow]
    simp only [current, found]
    refine tells_absorb ?_ (load_tells keyed isStored wanted)
    rw [t.has_load, wanted]

end Tables

namespace Retrieval

variable {t : Tables} {e : Element} {elements : List Element} {facets : FacetSet}

theorem ensure_of_vanished (vanished : t.Vanished facets e) (usage : Usage) :
    ∃ spent, ensure Source.tables e facets ⟨t, usage⟩ =
      (.error (.fetch e.id (.elementNotFound e.id)), ⟨t, spent⟩) := by
  obtain ⟨lacks, gone⟩ := vanished
  rw [Element.lacks_iff] at lacks
  rw [← Tables.row?_eq_none_iff] at gone
  simp only [ensure, lacks, Source.tables, Tables.fetch, gone]
  exact ⟨_, rfl⟩

theorem ensure_of_present (present : ¬ t.Vanished facets e) (usage : Usage) :
    ∃ spent, ensure Source.tables e facets ⟨t, usage⟩ =
      (.ok (t.brought facets (e.missing facets) e), ⟨t, spent⟩) := by
  by_cases enough : (e.missing facets).isEmpty = true
  · simp only [ensure, Tables.brought, enough, if_true]
    exact ⟨_, rfl⟩
  · have stored : (t.row? e.id).isSome = true := Tables.isSome_row?_iff.2
      (by_contra fun gone => present ⟨Element.lacks_iff.2 enough, gone⟩)
    have whole : complete (e.absorb (t.current (e.missing facets) e)) facets =
        .ok (e.absorb (t.current (e.missing facets) e)) := by
      refine complete_eq_ok fun kind wanted => ?_
      rw [Element.has_absorb, t.has_current stored, Element.contains_missing, wanted]
      cases e.has kind <;> rfl
    obtain ⟨row, found⟩ := Option.isSome_iff_exists.1 stored
    have sameId : (t.load row (e.missing facets)).id = e.id := t.row?_id found
    simp only [Tables.current, found] at whole
    simp only [ensure, Tables.brought, Tables.current, enough, Source.tables, Tables.fetch, found,
      sameId, if_true, whole]
    exact ⟨_, rfl⟩

theorem mapM_fetch_of_gone {ids : List ElementId} (gone : ∃ id ∈ ids, ¬ t.Holds id)
    (asked : FacetSet) :
    ∃ id ∈ ids, ¬ t.Holds id ∧ ids.mapM (t.fetch · asked) = .error (.elementNotFound id) := by
  induction ids with
  | nil => simp at gone
  | cons id rest ih =>
      by_cases stored : t.Holds id
      · obtain ⟨row, found⟩ := Option.isSome_iff_exists.1 (Tables.isSome_row?_iff.2 stored)
        have later : ∃ id ∈ rest, ¬ t.Holds id := by simpa [stored] using gone
        obtain ⟨first, member, isGone, failed⟩ := ih later
        refine ⟨first, List.mem_cons_of_mem _ member, isGone, ?_⟩
        rw [List.mapM_cons, failed]
        simp [Tables.fetch, found, bind, Except.bind]
      · refine ⟨id, List.mem_cons_self, stored, ?_⟩
        rw [← Tables.row?_eq_none_iff] at stored
        rw [List.mapM_cons]
        simp [Tables.fetch, stored, bind, Except.bind]

theorem mem_pending_iff : e ∈ pending elements facets ↔ e ∈ elements ∧ e.Lacks facets := by
  simp [pending, Element.lacks_iff]

/-- A batch with vanished elements fails for the first of them. -/
theorem ensureAll_of_vanished (vanished : ∃ e ∈ elements, t.Vanished facets e) (usage : Usage) :
    ∃ e ∈ elements, t.Vanished facets e ∧
      ∃ spent, ensureAll Source.tables elements facets ⟨t, usage⟩ =
        (.error (.batch (pending elements facets).length (.elementNotFound e.id)), ⟨t, spent⟩) := by
  obtain ⟨e, member, lacks, isGone⟩ := vanished
  have isPending : e ∈ pending elements facets := mem_pending_iff.2 ⟨member, lacks⟩
  have some : ((pending elements facets).map (·.id)).isEmpty = false := by
    rw [List.isEmpty_eq_false_iff_exists_mem]
    exact ⟨e.id, List.mem_map_of_mem isPending⟩
  obtain ⟨id, listed, firstGone, failed⟩ := mapM_fetch_of_gone
    ⟨e.id, List.mem_map_of_mem isPending, isGone⟩ (request elements facets)
  obtain ⟨first, isPending, rfl⟩ := List.mem_map.1 listed
  obtain ⟨member, lacks⟩ := mem_pending_iff.1 isPending
  refine ⟨first, member, ⟨lacks, firstGone⟩, ?_⟩
  simp only [ensureAll, some, Bool.false_eq_true, if_false, Source.tables, failed, List.length_map]
  exact ⟨_, rfl⟩

theorem stored_of_present (present : ∀ e ∈ elements, ¬ t.Vanished facets e) :
    ∀ e ∈ pending elements facets, (t.row? e.id).isSome = true := by
  intro e isPending
  obtain ⟨member, lacks⟩ := mem_pending_iff.1 isPending
  exact Tables.isSome_row?_iff.2 (by_contra fun gone => present e member ⟨lacks, gone⟩)

theorem ensureAll_of_present (keyed : t.Keyed) (present : ∀ e ∈ elements, ¬ t.Vanished facets e)
    (usage : Usage) :
    ∃ loaded spent, ensureAll Source.tables elements facets ⟨t, usage⟩ = (.ok loaded, ⟨t, spent⟩) ∧
      List.Forall₂ (t.Supplies facets (request elements facets)) elements loaded := by
  obtain ⟨spent, brought⟩ := ensureAll_stored (stored_of_present present) usage
  refine ⟨_, spent, brought, ?_⟩
  rw [List.forall₂_map_right_iff, List.forall₂_same]
  exact fun e member => Tables.supplies_brought keyed (present e member)

end Retrieval

namespace Tables

variable {t : Tables}

/-- Reading leaves the tables alone and brings what they tell. It fails for vanished elements only,
    and then names one: never is anything wrong with what was brought. -/
structure Dependable (t : Tables) : Prop where
  ensure : ∀ e facets usage, ∃ answer spent,
    Retrieval.ensure Source.tables e facets ⟨t, usage⟩ = (answer, ⟨t, spent⟩) ∧
      (∀ error, answer = .error error ↔
        t.Vanished facets e ∧ error = .fetch e.id (.elementNotFound e.id)) ∧
      ∀ loaded, answer = .ok loaded → t.Supplies facets (e.missing facets) e loaded
  ensureAll : ∀ elements facets usage, ∃ answer spent,
    Retrieval.ensureAll Source.tables elements facets ⟨t, usage⟩ = (answer, ⟨t, spent⟩) ∧
      ((∃ error, answer = .error error) ↔ ∃ e ∈ elements, t.Vanished facets e) ∧
      (∀ error, answer = .error error → ∃ e ∈ elements, t.Vanished facets e ∧
        error = .batch (Retrieval.pending elements facets).length (.elementNotFound e.id)) ∧
      ∀ loaded, answer = .ok loaded →
        List.Forall₂ (t.Supplies facets (Retrieval.request elements facets)) elements loaded
  build : ∀ loaders filter usage, ∃ g spent,
    Snapshot.build Source.tables loaders filter ⟨t, usage⟩ = (.ok g, ⟨t, spent⟩)

/-- Whatever was written to the tables, retrievals from them fail for vanished elements only. -/
theorem dependable_of_reachable (reachable : t.Reachable) : t.Dependable where
  ensure e facets usage := by
    by_cases vanished : t.Vanished facets e
    · obtain ⟨spent, failed⟩ := Retrieval.ensure_of_vanished vanished usage
      refine ⟨_, spent, failed, fun error => ?_, fun loaded done => by cases done⟩
      simp [vanished, eq_comm]
    · obtain ⟨spent, done⟩ := Retrieval.ensure_of_present vanished usage
      refine ⟨_, spent, done, fun error => by simp [vanished], ?_⟩
      rintro _ ⟨rfl⟩
      exact supplies_brought reachable.keyed vanished
  ensureAll elements facets usage := by
    by_cases vanished : ∃ e ∈ elements, t.Vanished facets e
    · obtain ⟨e, member, isVanished, spent, failed⟩ :=
        Retrieval.ensureAll_of_vanished vanished usage
      refine ⟨_, spent, failed, by simpa using vanished, ?_, fun loaded done => by cases done⟩
      rintro _ ⟨rfl⟩
      exact ⟨e, member, isVanished, rfl⟩
    · have present : ∀ e ∈ elements, ¬ t.Vanished facets e := by simpa using vanished
      obtain ⟨loaded, spent, done, supplied⟩ :=
        Retrieval.ensureAll_of_present reachable.keyed present usage
      refine ⟨_, spent, done, by simpa using present, ?_, ?_⟩
      · intro error failed
        cases failed
      · rintro _ ⟨rfl⟩
        exact supplied
  build loaders filter usage := by
    obtain ⟨spent, built⟩ := build_tables reachable.keyed loaders filter usage
    exact ⟨_, spent, built⟩

/-- A control that is under a rack, and a site that was removed. -/
def movedOut : Tables :=
  ((fresh.importDataset {
    elements := [{ id := 1, typeId := "rack", properties := TextMap.ofList [("place", .empty)] },
      { id := 2, typeId := "control", parent := some 1,
        permissions := [⟨"reader", true, false⟩, ⟨"admin", true, true⟩] },
      { id := 3, typeId := "site" }]
    links := [⟨2, 1, "uses", none⟩, ⟨2, 3, "uses", none⟩] }).2.remove 3).2

/-- The site as it was seen before, with no facet loaded. -/
def formerSite : Element :=
  { id := 3, uuid := "element-3", typeId := "site", scope := none, title := "" }

theorem dependable_of_reachable_movedOut :
    movedOut.Reachable ∧ movedOut.Dependable ∧
      ∀ usage, ∃ spent, Retrieval.ensure Source.tables formerSite .links ⟨movedOut, usage⟩ =
        (.error (.fetch 3 (.elementNotFound 3)), ⟨movedOut, spent⟩) := by
  have reachable : movedOut.Reachable := (Reachable.fresh.importDataset _).remove 3
  have dependable := dependable_of_reachable reachable
  refine ⟨reachable, dependable, fun usage => ?_⟩
  have gone : ¬ movedOut.Holds 3 := by
    rw [holds_iff]
    decide +kernel
  obtain ⟨answer, spent, done, fails, -⟩ := dependable.ensure formerSite .links usage
  have vanished : movedOut.Vanished .links formerSite := ⟨⟨.linksDown, rfl, rfl⟩, gone⟩
  rw [(fails _).2 ⟨vanished, rfl⟩] at done
  exact ⟨spent, done⟩

end Tables
end Registry
