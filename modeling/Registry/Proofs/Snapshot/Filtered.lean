import Registry.Proofs.Snapshot.Neighbours
import Registry.Proofs.Snapshot.Stored

/-! # Filtered snapshots

Links that a filter refuses never become edges. Over tables the graph is then the one with all
relations, less the edges of those that are refused: edges are kept in their order, and whatever is
asked of an accepted relation has the same answer in both.
-/

namespace Registry

namespace Snapshot

variable {g h : Snapshot} {filter : RelationFilter}

theorem candidates_filtered (filter : RelationFilter) (nodes : List Element) :
    candidates filter nodes = (candidates .all nodes).filter (filter.accepts ·.relation) := by
  have every : (nodes.flatMap loadedLinks).filter (RelationFilter.all.accepts ·.relation) =
      nodes.flatMap loadedLinks := List.filter_eq_self.2 fun _ _ => rfl
  rw [candidates, candidates, every, List.filter_map]
  rfl

theorem filtered_of_not_loadsLinks (bare : ¬ filter.loadsLinks = true) (edges : List Edge) :
    edges.filter (filter.accepts ·.relation) = [] :=
  List.filter_eq_nil_iff.2 fun _ _ accepted => bare (RelationFilter.loadsLinks_of_accepts accepted)

theorem joins_eq_of_ids (same : g.ids = h.ids) : g.joins = h.joins := by
  funext edge
  rw [Bool.eq_iff_iff, joins_iff, joins_iff, same]

/-- The graph has the nodes of another one, and those of its edges whose relation is listed. -/
structure Narrows (g h : Snapshot) (relations : TextSet) : Prop where
  ids : g.ids = h.ids
  edges : g.edges = h.edges.filter fun edge => edge.relation ∈ relations.toList
  targets : ∀ relation ∈ relations.toList, ∀ id,
    (g.targets id relation).map (·.id) = (h.targets id relation).map (·.id)
  sources : ∀ relation ∈ relations.toList, ∀ id,
    (g.sources id relation).map (·.id) = (h.sources id relation).map (·.id)
  linked : ∀ relation ∈ relations.toList, ∀ id,
    (g.linked id relation).map (·.id) = (h.linked id relation).map (·.id)

theorem endIds_listed {relations : TextSet} {relation : String}
    (edges : g.edges = h.edges.filter fun edge => edge.relation ∈ relations.toList)
    (listed : relation ∈ relations.toList) (id : ElementId) (direction : Direction) :
    g.endIds id relation direction = h.endIds id relation direction := by
  rw [endIds, endIds, edges, List.filter_filter]
  congr 1
  refine List.filter_congr fun edge _ => ?_
  by_cases isRelation : edge.relation = relation <;> simp [isRelation, listed]

theorem WellFormed.narrows (wf : g.WellFormed) (wf' : h.WellFormed) {relations : TextSet}
    (ids : g.ids = h.ids)
    (edges : g.edges = h.edges.filter fun edge => edge.relation ∈ relations.toList) :
    g.Narrows h relations where
  ids := ids
  edges := edges
  targets relation listed id := by
    rw [wf.ids_targets, wf'.ids_targets]
    exact endIds_listed edges listed id .outgoing
  sources relation listed id := by
    rw [wf.ids_sources, wf'.ids_sources]
    exact endIds_listed edges listed id .incoming
  linked relation listed id := by
    have sameTargets : g.targetIds id relation = h.targetIds id relation :=
      endIds_listed edges listed id .outgoing
    have sameSources : g.sourceIds id relation = h.sourceIds id relation :=
      endIds_listed edges listed id .incoming
    rw [wf.ids_linked, wf'.ids_linked, sameTargets, sameSources]

end Snapshot

namespace Tables

variable {t : Tables} {loaders : List Loader}

/-- Nodes whose links are not loaded have no candidates, and none would be accepted. -/
theorem candidates_node (filter : RelationFilter) (rows : List ElementRow) :
    Snapshot.candidates filter.normalized (rows.map (t.node filter)) =
      (Snapshot.candidates .all (rows.map (t.node .all))).filter
        (filter.accepts ·.relation) := by
  rw [Snapshot.candidates_filtered, RelationFilter.accepts_normalized]
  by_cases loads : filter.normalized.loadsLinks = true
  · have every : RelationFilter.all.normalized.loadsLinks = true := rfl
    rw [node_of_loadsLinks loads, node_of_loadsLinks every]
  · rw [← RelationFilter.accepts_normalized, Snapshot.filtered_of_not_loadsLinks loads,
      Snapshot.filtered_of_not_loadsLinks loads]

theorem edges_snapshot_filtered (keyed : t.Keyed) (filter : RelationFilter) :
    (t.snapshot loaders filter).edges =
      (t.snapshot loaders .all).edges.filter (filter.accepts ·.relation) := by
  have sameJoins : (t.snapshot loaders filter).joins = (t.snapshot loaders .all).joins :=
    Snapshot.joins_eq_of_ids (by rw [ids_snapshot keyed, ids_snapshot keyed])
  have all : RelationFilter.all.normalized = .all := rfl
  rw [edges_snapshot keyed, edges_snapshot keyed, candidates_node, sameJoins, all,
    filter_eraseDups, List.filter_filter, List.filter_filter]
  simp only [Bool.and_comm]

/-- Building with a list of relations is building with all of them and keeping the edges of those
    that are listed. -/
theorem build_only (keyed : t.Keyed) (loaders : List Loader) (relations : TextSet)
    (usage usage' : Usage) :
    ∃ g spent h spent',
      Snapshot.build Source.tables loaders (.only relations) ⟨t, usage⟩ = (.ok g, ⟨t, spent⟩) ∧
      Snapshot.build Source.tables loaders .all ⟨t, usage'⟩ = (.ok h, ⟨t, spent'⟩) ∧
      g.Narrows h relations := by
  obtain ⟨spent, built⟩ := build_tables keyed loaders (.only relations) usage
  obtain ⟨spent', built'⟩ := build_tables keyed loaders .all usage'
  refine ⟨_, spent, _, spent', built, built', ?_⟩
  refine (wellFormed_snapshot t loaders _).narrows (wellFormed_snapshot t loaders _) ?_ ?_
  · rw [ids_snapshot keyed, ids_snapshot keyed]
  · rw [edges_snapshot_filtered keyed]
    refine List.filter_congr fun edge _ => ?_
    rw [Bool.eq_iff_iff, decide_eq_true_iff]
    exact RelationFilter.contains_iff relations edge.relation

/-- Elements that are linked to one another and to themselves, by more than one relation. -/
def crossLinked : Tables where
  elements := [⟨2, "b", "control", none, none, 0, "Backup"⟩,
    ⟨1, "a", "asset", none, none, 0, "Server"⟩, ⟨5, "e", "asset", some 2, none, 0, "Office"⟩]
  links := [⟨1, 2, "needs", none⟩, ⟨2, 1, "covers", none⟩, ⟨2, 2, "covers", none⟩,
    ⟨1, 2, "covers", some "partly"⟩, ⟨1, 5, "needs", none⟩, ⟨5, 2, "holds", none⟩]

theorem build_only_crossLinked :
    ∃ g spent h spent',
      Snapshot.build Source.tables [{ types := .ofList ["control"] }, {}]
        (.only (.ofList ["needs", "covers"])) ⟨crossLinked, {}⟩ = (.ok g, ⟨crossLinked, spent⟩) ∧
      Snapshot.build Source.tables [{ types := .ofList ["control"] }, {}]
        .all ⟨crossLinked, {}⟩ = (.ok h, ⟨crossLinked, spent'⟩) ∧
      g.Narrows h (.ofList ["needs", "covers"]) :=
  build_only ⟨by decide, by decide, by decide, by decide⟩ _ _ _ _

end Tables
end Registry
