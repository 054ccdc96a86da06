import Registry.Proofs.Snapshot.Stored
import Registry.Proofs.Tables.Subtree

/-! # Snapshots after a removal

Taking elements out of tables and taking a snapshot can be swapped: the later snapshot is the
earlier one without the nodes that are gone and the edges that touch them. Every step of the
construction keeps the order of what is left, and so the order stays, too.
-/

namespace Registry.Tables

variable {t : Tables} {loaders : List Loader} {filter : RelationFilter}

theorem selection_without (t : Tables) (ids : List ElementId) (loader : Loader) :
    (t.without ids).selection loader = (t.selection loader).filter (· ∉ ids) := by
  unfold selection
  rw [filter_mergeSort, List.filter_map, List.filter_comm]
  congr 3
  simp [without, Function.comp_def]

theorem selections_without (t : Tables) (ids : List ElementId) (loaders : List Loader) :
    (loaders.flatMap (t.without ids).selection).eraseDups =
      (loaders.flatMap t.selection).eraseDups.filter (· ∉ ids) := by
  rw [filter_eraseDups, List.filter_flatMap, ← funext (selection_without t ids)]

theorem row?_without {ids : List ElementId} {id : ElementId} (kept : id ∉ ids) :
    (t.without ids).row? id = t.row? id := by
  unfold row? without
  rw [List.find?_filter]
  congr 1
  funext row
  by_cases same : row.id = id <;> simp [same, kept]

theorem chosen_without (t : Tables) (ids : List ElementId) (loaders : List Loader) :
    (t.without ids).chosen loaders = (t.chosen loaders).filter (·.id ∉ ids) := by
  unfold chosen
  rw [selections_without, List.filterMap_filter, List.filter_filterMap]
  refine List.filterMap_congr fun id _ => ?_
  have keeps : (t.row? id).filter (·.id ∉ ids) = if id ∉ ids then t.row? id else none := by
    cases found : t.row? id with
    | none => simp
    | some row => simp [Option.filter, t.row?_id found]
  rw [keeps]
  by_cases gone : id ∈ ids
  · simp [gone]
  · simp [gone, row?_without gone]

theorem ids_snapshot_without (keyed : t.Keyed) (ids : List ElementId) :
    ((t.without ids).snapshot loaders filter).ids =
      (t.snapshot loaders filter).ids.filter (· ∉ ids) := by
  rw [ids_snapshot (keyed.without ids), ids_snapshot keyed, selections_without]

theorem loadedLinks_node_without (t : Tables) (ids : List ElementId) (row : ElementRow) :
    Snapshot.loadedLinks ((t.without ids).node filter row) =
      (Snapshot.loadedLinks (t.node filter row)).filter
        fun link => link.source ∉ ids ∧ link.target ∉ ids := by
  have links : (t.without ids).links =
      t.links.filter fun link => link.source ∉ ids ∧ link.target ∉ ids := by
    simp [without]
  unfold node
  split
  · rw [loadedLinks_load, loadedLinks_load, List.filter_append]
    unfold linksFrom linksTo
    rw [links]
    congr 1
    · exact List.filter_comm _ _ _
    · exact List.filter_comm _ _ _
  · rfl

/-- All links of a node that is gone touch it. -/
theorem loadedLinks_node_of_gone {ids : List ElementId} {row : ElementRow} (gone : row.id ∈ ids) :
    (Snapshot.loadedLinks (t.node filter row)).filter
      (fun link => link.source ∉ ids ∧ link.target ∉ ids) = [] := by
  refine List.filter_eq_nil_iff.2 fun link loaded => ?_
  unfold node at loaded
  split at loaded
  · rcases (mem_loadedLinks_load.1 loaded).2 with same | same <;> simp [same, gone]
  · cases loaded

theorem candidates_without (t : Tables) (ids : List ElementId) (loaders : List Loader) :
    Snapshot.candidates filter.normalized
        (((t.without ids).chosen loaders).map ((t.without ids).node filter)) =
      (Snapshot.candidates filter.normalized ((t.chosen loaders).map (t.node filter))).filter
        fun edge => edge.source ∉ ids ∧ edge.target ∉ ids := by
  have links : (((t.without ids).chosen loaders).map ((t.without ids).node filter)).flatMap
        Snapshot.loadedLinks =
      (((t.chosen loaders).map (t.node filter)).flatMap Snapshot.loadedLinks).filter
        fun link => link.source ∉ ids ∧ link.target ∉ ids := by
    simp only [List.flatMap_map, loadedLinks_node_without, chosen_without, List.filter_flatMap]
    -- rows that are gone make no difference, for no link of theirs is left
    refine flatMap_filter_of_nil fun row _ gone => loadedLinks_node_of_gone ?_
    simpa using gone
  unfold Snapshot.candidates
  rw [links, List.filter_map, List.filter_comm]
  rfl

theorem edges_snapshot_without (keyed : t.Keyed) (ids : List ElementId) :
    ((t.without ids).snapshot loaders filter).edges =
      (t.snapshot loaders filter).edges.filter
        fun edge => edge.source ∉ ids ∧ edge.target ∉ ids := by
  rw [edges_snapshot (keyed.without ids), edges_snapshot keyed, filter_eraseDups,
    candidates_without, List.filter_filter, List.filter_filter]
  -- the candidates are the same list; both sides keep those between two nodes that are left
  congr 1
  refine List.filter_congr fun edge _ => ?_
  rw [Bool.eq_iff_iff]
  simp only [Bool.and_eq_true, Snapshot.joins_iff, ids_snapshot_without keyed, List.mem_filter,
    decide_eq_true_eq]
  tauto

/-- A snapshot after a removal is the one before, in the same order, without what the removal took
    and what was linked to it. -/
theorem build_remove (keyed : t.Keyed) {top : ElementId} (stored : t.Holds top)
    (loaders : List Loader) (filter : RelationFilter) (usage usage' : Usage) :
    ∃ g spent count left h spent',
      Snapshot.build Source.tables loaders filter ⟨t, usage⟩ = (.ok g, ⟨t, spent⟩) ∧
      t.remove top = (.ok count, left) ∧
      Snapshot.build Source.tables loaders filter ⟨left, usage'⟩ = (.ok h, ⟨left, spent'⟩) ∧
      h.ids = g.ids.filter (fun id => ¬ t.Below top id) ∧
      h.edges = g.edges.filter fun edge =>
        ¬ t.Below top edge.source ∧ ¬ t.Below top edge.target := by
  obtain ⟨spent, built⟩ := build_tables keyed loaders filter usage
  obtain ⟨spent', rebuilt⟩ := build_tables (keyed.without (t.subtree top)) loaders filter usage'
  refine ⟨_, spent, _, _, _, spent', built, remove_of_holds stored, rebuilt, ?_, ?_⟩
  · rw [ids_snapshot_without keyed]
    simp only [mem_subtree_iff]
  · rw [edges_snapshot_without keyed]
    simp only [mem_subtree_iff]

/-- A site with a rack in it, and a scenario that both of them and a server are linked to. -/
def rackInSite : Tables where
  elements := [⟨4, "d", "asset", some 1, none, 0, "Server"⟩,
    ⟨2, "b", "asset", some 1, some 1, 0, "Rack"⟩,
    ⟨3, "c", "incident_scenario", some 1, none, 0, "Fire"⟩,
    ⟨1, "a", "asset", some 1, none, 0, "Site"⟩]
  links := [⟨3, 2, "rel_incscen_asset", none⟩, ⟨3, 4, "rel_incscen_asset", none⟩,
    ⟨3, 1, "rel_incscen_asset", some "all of it"⟩, ⟨4, 4, "rel_incscen_asset", none⟩]

theorem build_remove_rackInSite :
    rackInSite.Keyed ∧ rackInSite.Holds 1 ∧
      ∃ g spent count left h spent',
        Snapshot.build Source.tables [{ types := .ofList [], scope := some 1 }] .all
            ⟨rackInSite, {}⟩ = (.ok g, ⟨rackInSite, spent⟩) ∧
          rackInSite.remove 1 = (.ok count, left) ∧
          Snapshot.build Source.tables [{ types := .ofList [], scope := some 1 }] .all
            ⟨left, {}⟩ = (.ok h, ⟨left, spent'⟩) ∧
          h.ids = g.ids.filter (fun id => ¬ rackInSite.Below 1 id) ∧
          h.edges = g.edges.filter fun edge =>
            ¬ rackInSite.Below 1 edge.source ∧ ¬ rackInSite.Below 1 edge.target :=
  have keyed : rackInSite.Keyed := ⟨by decide, by decide, by decide, by decide⟩
  have stored : rackInSite.Holds 1 := by simp [Holds, rackInSite]
  ⟨keyed, stored, build_remove keyed stored _ _ _ _⟩

end Registry.Tables
