import Registry.Proofs.Snapshot.Shape
import Mathlib.Algebra.BigOperators.Group.List.Lemmas
import Mathlib.Algebra.GroupWithZero.Nat

/-! # Coherent snapshots

A snapshot can be read in several ways: as a list of nodes, by type, by id, edge by edge, and in
numbers. Whatever a source answers, a graph that was built from it says the same in all of them.
-/

namespace Registry

namespace Snapshot

theorem get?_tally_eq_some_iff {texts : List String} {text : String} {n : Nat} :
    (tally texts).get? text = some n ↔ 0 < n ∧ n = texts.count text := by
  rw [tally, TextMap.get?_tabulate_eq_some_iff, TextSet.mem_ofList, ← List.count_pos_iff]
  constructor
  · rintro ⟨positive, rfl⟩
    exact ⟨positive, rfl⟩
  · rintro ⟨positive, rfl⟩
    exact ⟨positive, rfl⟩

/-- Each text is counted under one entry only. -/
theorem sum_values_tally (texts : List String) : (tally texts).values.sum = texts.length := by
  have sameKeys : (TextSet.ofList texts).toList.Perm texts.dedup := by
    refine (List.perm_ext_iff_of_nodup (TextSet.nodup_toList _) texts.nodup_dedup).2 fun text => ?_
    rw [TextSet.mem_ofList, List.mem_dedup]
  have counts : (tally texts).values = (TextSet.ofList texts).toList.map (texts.count ·) := by
    simp [tally, TextMap.values, TextMap.tabulate, Function.comp_def]
  rw [counts, (sameKeys.map _).sum_eq, List.sum_map_count_dedup_eq_length]

variable {g : Snapshot}

/-- Some types that differ divide the nodes that have one of them. -/
theorem flatMap_ofType_perm {types : List String} (once : types.Nodup) :
    (types.flatMap g.ofType).Perm (g.nodes.filter fun e => types.contains e.typeId) := by
  induction types with
  | nil => simp
  | cons type rest ih =>
      obtain ⟨new, once⟩ := List.nodup_cons.1 once
      have here : g.ofType type =
          (g.nodes.filter fun e => (type :: rest).contains e.typeId).filter (·.typeId == type) := by
        rw [List.filter_filter]
        refine List.filter_congr fun e _ => ?_
        cases isType : e.typeId == type <;> simp_all
      have others : (g.nodes.filter fun e => rest.contains e.typeId) =
          (g.nodes.filter fun e => (type :: rest).contains e.typeId).filter
            (!·.typeId == type) := by
        rw [List.filter_filter]
        refine List.filter_congr fun e _ => ?_
        cases isType : e.typeId == type
        · simp_all
        · have absent : e.typeId ∉ rest := eq_of_beq isType ▸ new
          simpa using absent
      rw [List.flatMap_cons]
      refine ((ih once).append_left _).trans ?_
      rw [here, others]
      exact List.filter_append_perm _ _

theorem count_types (g : Snapshot) (type : String) :
    (g.nodes.map (·.typeId)).count type = (g.ofType type).length := by
  rw [List.count_eq_countP, List.countP_map, List.countP_eq_length_filter]
  rfl

theorem count_relations (g : Snapshot) (relation : String) :
    (g.edges.map (·.relation)).count relation = (g.edges.filter (·.relation == relation)).length := by
  rw [List.count_eq_countP, List.countP_map, List.countP_eq_length_filter]
  rfl

/-- Links that the filter does not accept never become edges. -/
theorem accepted_ofNodes (filter : RelationFilter) (nodes : List Element) :
    (ofNodes filter nodes).filter = filter ∧
      ∀ edge ∈ (ofNodes filter nodes).edges, filter.accepts edge.relation = true := by
  have start : (nodes.foldl insertNode { filter }).filter = filter ∧
      (nodes.foldl insertNode { filter }).edges = [] := by
    refine List.foldlRecOn (motive := fun g : Snapshot => g.filter = filter ∧ g.edges = [])
      nodes _ ⟨rfl, rfl⟩ ?_
    intro g bare e _
    simp only [insertNode]
    split
    · exact bare
    · exact bare
  simp only [ofNodes]
  refine List.foldlRecOn (motive := fun g : Snapshot => g.filter = filter ∧
    ∀ edge ∈ g.edges, filter.accepts edge.relation = true) _ _ ⟨start.1, by simp [start.2]⟩ ?_
  rintro g ⟨sameFilter, accepted⟩ link isCandidate
  refine ⟨?_, fun edge member => ?_⟩
  · simp only [insertEdge]
    split
    · exact sameFilter
    · exact sameFilter
  · rw [edges_insertEdge] at member
    split at member
    · rcases List.mem_append.1 member with old | new
      · exact accepted edge old
      · rw [List.mem_singleton.1 new]
        exact (List.mem_filter.1 isCandidate).2
    · exact accepted edge member

/-- The numbers of a graph count its nodes and edges, in all and of each sort. -/
structure Stats.Counts (stats : Stats) (g : Snapshot) : Prop where
  nodes : stats.nodeCount = g.nodes.length
  edges : stats.edgeCount = g.edges.length
  nodesOfType : ∀ type n, stats.nodesByType.get? type = some n ↔ 0 < n ∧ n = (g.ofType type).length
  edgesOfRelation : ∀ relation n, stats.edgesByRelation.get? relation = some n ↔
    0 < n ∧ n = (g.edges.filter (·.relation == relation)).length
  nodesInAll : stats.nodesByType.values.sum = stats.nodeCount
  edgesInAll : stats.edgesByRelation.values.sum = stats.edgeCount

theorem counts_stats (g : Snapshot) : g.stats.Counts g where
  nodes := rfl
  edges := rfl
  nodesOfType type n := by
    rw [stats, get?_tally_eq_some_iff, count_types]
  edgesOfRelation relation n := by
    rw [stats, get?_tally_eq_some_iff, count_relations]
  nodesInAll := by
    rw [stats, sum_values_tally, List.length_map]
  edgesInAll := by
    rw [stats, sum_values_tally, List.length_map]

/-- Nodes and edges that occur once, edges between nodes and of accepted relations only, and
    readings by type, by id and in numbers that agree with them. -/
structure Coherent (g : Snapshot) : Prop where
  wellFormed : g.WellFormed
  nodesOnce : g.nodes.Nodup
  accepted : ∀ edge ∈ g.edges, g.filter.accepts edge.relation = true
  ofTypeInOrder : ∀ type, (g.ofType type).Sublist g.nodes
  ofType : ∀ type e, e ∈ g.ofType type ↔ e ∈ g.nodes ∧ e.typeId = type
  /-- Types that differ, and among them those of all nodes, divide the nodes. -/
  partition : ∀ types : List String, types.Nodup → (∀ e ∈ g.nodes, e.typeId ∈ types) →
    (types.flatMap g.ofType).Perm g.nodes
  element : ∀ id e, g.element? id = some e ↔ e ∈ g.nodes ∧ e.id = id
  contains : ∀ id, g.contains id = true ↔ ∃ e, g.element? id = some e
  stats : g.stats.Counts g

theorem WellFormed.coherent (wf : g.WellFormed)
    (accepted : ∀ edge ∈ g.edges, g.filter.accepts edge.relation = true) : g.Coherent where
  wellFormed := wf
  nodesOnce := .of_map _ wf.idsOnce
  accepted := accepted
  ofTypeInOrder _ := List.filter_sublist
  ofType type e := by
    simp [Snapshot.ofType]
  partition types once all := by
    have whole : (g.nodes.filter fun e => types.contains e.typeId) = g.nodes :=
      List.filter_eq_self.2 fun e isNode => by simpa using all e isNode
    have divided := g.flatMap_ofType_perm once
    rwa [whole] at divided
  element _ _ := wf.element?_eq_some_iff
  contains id := by
    rw [contains_iff, ids, ← isSome_find?_key, Option.isSome_iff_exists]
    rfl
  stats := counts_stats g

end Snapshot
end Registry
