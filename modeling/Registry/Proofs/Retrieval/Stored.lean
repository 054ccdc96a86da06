import Registry.Proofs.Rows
import Registry.Retrieval

/-! # Retrieval from tables

Tables bring what they are asked for, so a batch succeeds as soon as every incomplete element of it
is stored: each is then brought up to date with its row.
-/

namespace Registry

namespace Facet

variable {α : Type} (loaded : Facet α → Bool)

theorem loaded_refresh (fresh old : Facet α) :
    loaded (refresh loaded fresh old) = (loaded fresh || loaded old) := by
  unfold refresh
  cases isFresh : loaded fresh <;> cases isOld : loaded old <;> simp [isFresh, isOld]

theorem refresh_of_not_loaded {fresh old : Facet α} (notLoaded : loaded old = false) :
    refresh loaded fresh old = fresh := by
  simp [refresh, notLoaded]

end Facet

namespace Element

theorem has_absorb (e fresh : Element) (kind : FacetKind) :
    (e.absorb fresh).has kind = (fresh.has kind || e.has kind) := by
  cases kind with
  | attributes => exact Facet.loaded_refresh (·.loadedWith Attributes.isLoaded) _ _
  | children | permissions | parent | linksDown | linksUp =>
      exact Facet.loaded_refresh (·.isFetched) _ _

/-- Nothing of an element that has no facet outlasts a fresh copy. -/
theorem absorb_of_bare {e : Element} (bare : ∀ kind, e.has kind = false) (fresh : Element) :
    e.absorb fresh = fresh := by
  unfold absorb
  rw [Facet.refresh_of_not_loaded _ (bare .attributes),
    Facet.refresh_of_not_loaded _ (bare .parent), Facet.refresh_of_not_loaded _ (bare .children),
    Facet.refresh_of_not_loaded _ (bare .permissions),
    Facet.refresh_of_not_loaded _ (bare .linksDown), Facet.refresh_of_not_loaded _ (bare .linksUp)]

theorem missing_isEmpty_iff (e : Element) (facets : FacetSet) :
    (e.missing facets).isEmpty = true ↔
      ∀ kind, facets.contains kind = true → e.has kind = true := by
  simp [FacetSet.isEmpty_iff]

end Element

theorem ElementRow.has_toElement (row : ElementRow) (kind : FacetKind) :
    row.toElement.has kind = false := by
  cases kind <;> rfl

namespace Tables

variable (t : Tables)

theorem isLoaded_attributesOf (id : ElementId) : (t.attributesOf id).isLoaded = true := by
  simp only [attributesOf, Attributes.isLoaded, Facet.loadedWith, TextMap.values, TextMap.tabulate,
    List.all_eq_true, List.mem_map]
  rintro group ⟨entry, ⟨name, -, rfl⟩, rfl⟩
  rfl

theorem has_load (row : ElementRow) (facets : FacetSet) (kind : FacetKind) :
    (t.load row facets).has kind = facets.contains kind := by
  have attributes : (t.attributesOf row.id).isLoaded = true := t.isLoaded_attributesOf row.id
  cases kind <;> simp only [load, Element.has] <;> split <;> rename_i h <;>
    simp_all [Facet.loadedWith, Facet.isFetched, Facet.value?]

theorem row?_id {id : ElementId} {row : ElementRow} (found : t.row? id = some row) :
    row.id = id := by
  simpa using List.find?_some found

/-- The element as it is stored now; one that is not stored stays as it is. -/
def current (facets : FacetSet) (e : Element) : Element :=
  match t.row? e.id with
  | some row => t.load row facets
  | none => e

theorem fetchEach_stored {elements : List Element}
    (stored : ∀ e ∈ elements, (t.row? e.id).isSome = true) (facets : FacetSet) :
    (elements.map (·.id)).mapM (t.fetch · facets) = .ok (elements.map (t.current facets)) := by
  induction elements with
  | nil => rfl
  | cons e rest ih =>
      obtain ⟨row, found⟩ := Option.isSome_iff_exists.1 (stored e List.mem_cons_self)
      rw [List.map_cons, List.mapM_cons,
        ih fun e member => stored e (List.mem_cons_of_mem _ member)]
      simp [fetch, current, found, bind, Except.bind, pure, Except.pure]

theorem current_id {facets : FacetSet} (e : Element) : (t.current facets e).id = e.id := by
  unfold current
  split
  · rename_i row found
    exact t.row?_id found
  · rfl

theorem has_current {e : Element} (stored : (t.row? e.id).isSome = true) (facets : FacetSet)
    (kind : FacetKind) : (t.current facets e).has kind = facets.contains kind := by
  obtain ⟨row, found⟩ := Option.isSome_iff_exists.1 stored
  simp only [current, found]
  exact t.has_load row facets kind

/-- What a batch makes of an element: it stays if it lacks nothing of `facets`, otherwise it takes
    over all of `request` that is stored of it. -/
def brought (facets request : FacetSet) (e : Element) : Element :=
  if (e.missing facets).isEmpty then e else e.absorb (t.current request e)

end Tables

namespace Retrieval

theorem contains_request (elements : List Element) (facets : FacetSet) (kind : FacetKind) :
    (request elements facets).contains kind = true ↔
      ∃ e ∈ elements, (e.missing facets).contains kind = true := by
  suffices general : ∀ set : FacetSet,
      (elements.foldl (fun set e => set.union (e.missing facets)) set).contains kind = true ↔
        set.contains kind = true ∨ ∃ e ∈ elements, (e.missing facets).contains kind = true by
    rw [request, general]
    simp
  induction elements with
  | nil => simp
  | cons e rest ih =>
      intro set
      simp only [List.foldl_cons, ih, FacetSet.contains_union, Bool.or_eq_true, List.mem_cons,
        exists_eq_or_imp, or_assoc]

theorem complete_eq_ok {e : Element} {facets : FacetSet}
    (present : ∀ kind, facets.contains kind = true → e.has kind = true) :
    complete e facets = .ok e := by
  have nothing : (e.missing facets).isEmpty = true := (e.missing_isEmpty_iff facets).2 present
  simp [complete, nothing]

/-- The copies that tables bring fit: each has the id asked for, and all that was missing. -/
theorem mergeAll_stored {t : Tables} {facets asked : FacetSet} (count : Nat)
    {elements : List Element} (stored : ∀ e ∈ pending elements facets, (t.row? e.id).isSome = true)
    (enough : ∀ e ∈ elements, ∀ kind, (e.missing facets).contains kind = true →
      asked.contains kind = true) :
    mergeAll facets count elements ((pending elements facets).map (t.current asked)) =
      .ok (elements.map (t.brought facets asked)) := by
  induction elements with
  | nil => rfl
  | cons e rest ih =>
      have tail := ih
        (fun e' member => stored e' (List.mem_filter.2
          ⟨List.mem_cons_of_mem _ (List.mem_filter.1 member).1, (List.mem_filter.1 member).2⟩))
        (fun e' member => enough e' (List.mem_cons_of_mem _ member))
      by_cases lacking : (e.missing facets).isEmpty = true
      · have skipped : pending (e :: rest) facets = pending rest facets := by
          simp [pending, lacking]
        simp only [mergeAll, lacking, skipped, tail, if_true, Except.map, List.map_cons,
          Tables.brought]
      · have listed : pending (e :: rest) facets = e :: pending rest facets := by
          simp [pending, lacking]
        have isStored : (t.row? e.id).isSome = true :=
          stored e (listed ▸ List.mem_cons_self)
        have filled : complete (e.absorb (t.current asked e)) facets =
            .ok (e.absorb (t.current asked e)) := by
          refine complete_eq_ok fun kind wanted => ?_
          rw [Element.has_absorb, t.has_current isStored, Bool.or_eq_true]
          by_cases present : e.has kind = true
          · exact .inr present
          · exact .inl (enough e List.mem_cons_self kind (by simp [wanted, present]))
        simp only [listed, List.map_cons, mergeAll, lacking, t.current_id, filled, tail, if_true,
          Except.map, Tables.brought, Bool.false_eq_true, if_false]

/-- A batch over tables succeeds if every element that lacks something is stored. -/
theorem ensureAll_stored {t : Tables} {elements : List Element} {facets : FacetSet}
    (stored : ∀ e ∈ pending elements facets, (t.row? e.id).isSome = true) (usage : Usage) :
    ∃ spent, ensureAll Source.tables elements facets ⟨t, usage⟩ =
      (.ok (elements.map (t.brought facets (request elements facets))), ⟨t, spent⟩) := by
  have ids : (pending elements facets).map (·.id) = [] ↔ pending elements facets = [] :=
    List.map_eq_nil_iff
  simp only [ensureAll, List.isEmpty_iff, ids]
  split
  · rename_i none
    have unchanged : elements.map (t.brought facets (request elements facets)) = elements := by
      rw [List.map_congr_left (g := fun e => e), List.map_id']
      intro e member
      have complete := List.filter_eq_nil_iff.1 none e member
      exact if_pos (by simpa using complete)
    rw [unchanged]
    exact ⟨_, rfl⟩
  · have fetched := t.fetchEach_stored stored (request elements facets)
    have merged := mergeAll_stored ((pending elements facets).map (·.id)).length stored
      (fun e member kind lacking => (contains_request elements facets kind).2 ⟨e, member, lacking⟩)
    simp only [Source.tables, fetched, List.length_map, if_true] at merged ⊢
    rw [merged]
    exact ⟨_, rfl⟩

end Retrieval
end Registry
