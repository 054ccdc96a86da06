import Registry.Proofs.Snapshot.Shape

/-! # Neighbours

The neighbours of a node are listed in the order of the edges that lead to them. In a graph of the
right shape the lists are the ends of these edges, with nothing left out and nothing said twice.
-/

namespace Registry

/-- Which edges at a node are followed: those that leave it or those that arrive. -/
inductive Direction where
  | outgoing
  | incoming
  deriving DecidableEq, Repr

namespace Direction

/-- The end at which an edge begins when it is followed. -/
def nearId : Direction → Edge → ElementId
  | .outgoing, edge => edge.source
  | .incoming, edge => edge.target

def farId : Direction → Edge → ElementId
  | .outgoing, edge => edge.target
  | .incoming, edge => edge.source

theorem eq_of_same_ends (direction : Direction) {a b : Edge}
    (near : direction.nearId a = direction.nearId b) (far : direction.farId a = direction.farId b)
    (relation : a.relation = b.relation) : a = b := by
  cases a
  cases b
  cases direction <;> simp_all [nearId, farId]

end Direction

namespace Snapshot

variable {g : Snapshot} {id other : ElementId} {relation : String}

/-- Ids that edges of the relation lead to from `id` in this direction. These are the targets of
    the edges that leave, and the sources of those that arrive. -/
def endIds (g : Snapshot) (id : ElementId) (relation : String) (direction : Direction) :
    List ElementId :=
  (g.edges.filter fun edge => direction.nearId edge == id && edge.relation == relation).map
    direction.farId

namespace WellFormed

theorem nodup_endIds (wf : g.WellFormed) (id : ElementId) (relation : String)
    (direction : Direction) : (g.endIds id relation direction).Nodup := by
  refine List.Nodup.map_on ?_ (wf.edgesOnce.filter _)
  intro a aKept b bKept sameFar
  have aFits := (List.mem_filter.1 aKept).2
  have bFits := (List.mem_filter.1 bKept).2
  simp only [Bool.and_eq_true, beq_iff_eq] at aFits bFits
  exact direction.eq_of_same_ends (aFits.1.trans bFits.1.symm) sameFar
    (aFits.2.trans bFits.2.symm)

theorem nodes_of_mem_endIds (wf : g.WellFormed) (direction : Direction)
    (member : other ∈ g.endIds id relation direction) : id ∈ g.ids ∧ other ∈ g.ids := by
  obtain ⟨edge, kept, rfl⟩ := List.mem_map.1 member
  obtain ⟨isEdge, fits⟩ := List.mem_filter.1 kept
  simp only [Bool.and_eq_true, beq_iff_eq] at fits
  obtain ⟨rfl, -⟩ := fits
  have ends := wf.ends edge isEdge
  cases direction with
  | outgoing => exact ends
  | incoming => exact ends.symm

theorem endIds_of_unknown (wf : g.WellFormed) (unknown : id ∉ g.ids) (relation : String)
    (direction : Direction) : g.endIds id relation direction = [] :=
  List.eq_nil_iff_forall_not_mem.2 fun _ member =>
    unknown (wf.nodes_of_mem_endIds direction member).1

theorem neighbours_eq (wf : g.WellFormed) (id : ElementId) (relation : String)
    (direction : Direction) :
    (if g.contains id then g.select (g.endIds id relation direction) else []) =
      (g.endIds id relation direction).filterMap g.element? := by
  split
  · rw [select, eraseDups_of_nodup (wf.nodup_endIds id relation direction)]
  · rename_i unknown
    rw [contains_iff] at unknown
    rw [wf.endIds_of_unknown unknown relation direction, List.filterMap_nil]

theorem targets_eq (wf : g.WellFormed) (id : ElementId) (relation : String) :
    g.targets id relation = (g.targetIds id relation).filterMap g.element? :=
  wf.neighbours_eq id relation .outgoing

theorem sources_eq (wf : g.WellFormed) (id : ElementId) (relation : String) :
    g.sources id relation = (g.sourceIds id relation).filterMap g.element? :=
  wf.neighbours_eq id relation .incoming

theorem nodup_targetIds (wf : g.WellFormed) (id : ElementId) (relation : String) :
    (g.targetIds id relation).Nodup :=
  wf.nodup_endIds id relation .outgoing

theorem nodup_sourceIds (wf : g.WellFormed) (id : ElementId) (relation : String) :
    (g.sourceIds id relation).Nodup :=
  wf.nodup_endIds id relation .incoming

theorem nodes_of_targetIds (wf : g.WellFormed) : ∀ other ∈ g.targetIds id relation, other ∈ g.ids :=
  fun _ member => (wf.nodes_of_mem_endIds .outgoing member).2

theorem nodes_of_sourceIds (wf : g.WellFormed) : ∀ other ∈ g.sourceIds id relation, other ∈ g.ids :=
  fun _ member => (wf.nodes_of_mem_endIds .incoming member).2

/-- Sources come after all targets, unless they are targets themselves. -/
theorem linked_eq (wf : g.WellFormed) (id : ElementId) (relation : String) :
    g.linked id relation = (g.targetIds id relation ++
      (g.sourceIds id relation).filter (· ∉ g.targetIds id relation)).filterMap g.element? := by
  unfold linked
  split
  · rw [select, eraseDups_append_of_nodup (wf.nodup_targetIds id relation)
      (wf.nodup_sourceIds id relation)]
  · rename_i unknown
    rw [contains_iff] at unknown
    have noTargets : g.targetIds id relation = [] :=
      wf.endIds_of_unknown unknown relation .outgoing
    have noSources : g.sourceIds id relation = [] :=
      wf.endIds_of_unknown unknown relation .incoming
    rw [noTargets, noSources]
    rfl

end WellFormed

theorem exists_element?_of_mem_ids (known : id ∈ g.ids) :
    ∃ e, g.element? id = some e ∧ e.id = id := by
  obtain ⟨e, found⟩ := Option.isSome_iff_exists.1 ((isSome_find?_key g.nodes id).2 known)
  exact ⟨e, found, by simpa using List.find?_some found⟩

theorem map_some_filterMap_element? {ids : List ElementId} (nodes : ∀ id ∈ ids, id ∈ g.ids) :
    (ids.filterMap g.element?).map some = ids.map g.element? := by
  induction ids with
  | nil => rfl
  | cons id rest ih =>
      obtain ⟨known, others⟩ := List.forall_mem_cons.1 nodes
      obtain ⟨e, found, -⟩ := exists_element?_of_mem_ids known
      rw [List.filterMap_cons_some found, List.map_cons, List.map_cons, ih others, found]

/-- Ids of nodes come back from the nodes that they name. -/
theorem map_id_filterMap_element? {ids : List ElementId} (nodes : ∀ id ∈ ids, id ∈ g.ids) :
    (ids.filterMap g.element?).map (·.id) = ids := by
  have found : ∀ id ∈ ids, (g.element? id).map (·.id) = some id := by
    intro id member
    obtain ⟨e, isNode, sameId⟩ := exists_element?_of_mem_ids (nodes id member)
    rw [isNode, Option.map_some, sameId]
  rw [List.map_filterMap, List.filterMap_congr found, List.filterMap_some]

namespace WellFormed

theorem ids_targets (wf : g.WellFormed) (id : ElementId) (relation : String) :
    (g.targets id relation).map (·.id) = g.targetIds id relation := by
  rw [wf.targets_eq, map_id_filterMap_element? wf.nodes_of_targetIds]

theorem ids_sources (wf : g.WellFormed) (id : ElementId) (relation : String) :
    (g.sources id relation).map (·.id) = g.sourceIds id relation := by
  rw [wf.sources_eq, map_id_filterMap_element? wf.nodes_of_sourceIds]

theorem ids_linked (wf : g.WellFormed) (id : ElementId) (relation : String) :
    (g.linked id relation).map (·.id) = g.targetIds id relation ++
      (g.sourceIds id relation).filter (· ∉ g.targetIds id relation) := by
  rw [wf.linked_eq]
  refine map_id_filterMap_element? fun other member => ?_
  rcases List.mem_append.1 member with target | source
  · exact wf.nodes_of_targetIds other target
  · exact wf.nodes_of_sourceIds other (List.mem_of_mem_filter source)

theorem nodup_ids_linked (wf : g.WellFormed) (id : ElementId) (relation : String) :
    ((g.linked id relation).map (·.id)).Nodup := by
  rw [wf.ids_linked, List.nodup_append]
  refine ⟨wf.nodup_targetIds id relation, (wf.nodup_sourceIds id relation).filter _, ?_⟩
  rintro target isTarget _ isSource rfl
  have notTarget := (List.mem_filter.1 isSource).2
  simp [isTarget] at notTarget

/-- The linked nodes are the targets, and then the sources that are not among them. -/
theorem linked_eq_append (wf : g.WellFormed) (id : ElementId) (relation : String) :
    g.linked id relation =
      g.targets id relation ++ (g.sources id relation).filter (· ∉ g.targets id relation) := by
  rw [wf.linked_eq, List.filterMap_append, wf.sources_eq, List.filterMap_filter,
    List.filter_filterMap, ← wf.targets_eq]
  congr 1
  refine List.filterMap_congr fun source _ => ?_
  cases found : g.element? source with
  | none => simp
  | some e =>
      obtain ⟨isNode, rfl⟩ := wf.element?_eq_some_iff.1 found
      have same : e ∈ g.targets id relation ↔ e.id ∈ g.targetIds id relation := by
        rw [wf.mem_targets_iff, mem_targetIds_iff, and_iff_right isNode]
      simp [Option.filter, same]

end WellFormed

end Snapshot
end Registry
