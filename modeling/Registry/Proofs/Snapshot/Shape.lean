import Registry.Proofs.Rows
import Registry.Snapshot.Build

/-! # Shape of a snapshot

What putting in nodes and edges keeps: every id and every edge occurs once, and edges run between
nodes. In a graph of this shape the neighbours of a node are read off its edges.
-/

namespace Registry

namespace RelationFilter

theorem contains_iff (set : TextSet) (s : String) : set.contains s = true ↔ s ∈ set.toList := by
  simp [TextSet.contains]

theorem accepts_normalized (filter : RelationFilter) :
    filter.normalized.accepts = filter.accepts := by
  funext relation
  cases filter with
  | nodesOnly | all => rfl
  | only relations =>
      simp only [normalized]
      split
      · rename_i empty
        have none : relations.toList = [] := by simpa [TextSet.isEmpty] using empty
        simp [accepts, TextSet.contains, none]
      · rfl

theorem accepts_ofRelations_iff {relations : List String} {relation : String} :
    (ofRelations relations).accepts relation = true ↔ relation ∈ relations := by
  rw [ofRelations, accepts_normalized, accepts, contains_iff, TextSet.mem_ofList]

theorem loadsLinks_of_accepts {filter : RelationFilter} {relation : String}
    (accepted : filter.accepts relation = true) : filter.loadsLinks = true := by
  cases filter with
  | nodesOnly => simp [accepts] at accepted
  | all => rfl
  | only relations =>
      rw [accepts, contains_iff] at accepted
      simpa [loadsLinks, TextSet.isEmpty] using List.ne_nil_of_mem accepted

end RelationFilter

namespace Snapshot

variable {g : Snapshot}

/-- Nodes are told apart by their ids, edges by their ends and relation, and every end is a node. -/
structure WellFormed (g : Snapshot) : Prop where
  idsOnce : g.ids.Nodup
  edgesOnce : g.edges.Nodup
  ends : ∀ edge ∈ g.edges, edge.source ∈ g.ids ∧ edge.target ∈ g.ids

theorem contains_iff (g : Snapshot) (id : ElementId) : g.contains id = true ↔ id ∈ g.ids :=
  any_key_iff g.nodes id

/-- Both ends of the edge are nodes. -/
def joins (g : Snapshot) (edge : Edge) : Bool :=
  g.contains edge.source && g.contains edge.target

theorem joins_iff (g : Snapshot) (edge : Edge) :
    g.joins edge = true ↔ edge.source ∈ g.ids ∧ edge.target ∈ g.ids := by
  simp only [joins, Bool.and_eq_true, contains_iff]

theorem insertNode_of_new {e : Element} (new : e.id ∉ g.ids) :
    g.insertNode e = { g with nodes := g.nodes ++ [e] } := by
  rw [← contains_iff] at new
  simp [insertNode, new]

theorem insertNode_of_old {e : Element} (old : e.id ∈ g.ids) : g.insertNode e = g :=
  if_pos ((contains_iff g e.id).2 old)

theorem foldl_insertNode (elements : List Element) :
    ∀ g : Snapshot, (g.ids ++ elements.map (·.id)).Nodup →
      elements.foldl insertNode g = { g with nodes := g.nodes ++ elements } := by
  induction elements with
  | nil => intro g _; simp
  | cons e rest ih =>
      intro g once
      have new : e.id ∉ g.ids := fun old =>
        (List.nodup_append.1 once).2.2 e.id old e.id (by simp) rfl
      rw [List.foldl_cons, insertNode_of_new new, ih]
      · simp
      · simpa [ids, List.append_assoc] using once

@[simp] theorem nodes_insertEdge (g : Snapshot) (edge : Edge) :
    (g.insertEdge edge).nodes = g.nodes := by
  simp only [insertEdge]
  split <;> rfl

@[simp] theorem joins_insertEdge (g : Snapshot) (edge : Edge) :
    (g.insertEdge edge).joins = g.joins := by
  funext other
  simp [joins, contains]

theorem edges_insertEdge (g : Snapshot) (edge : Edge) :
    (g.insertEdge edge).edges =
      if g.joins edge = true ∧ edge ∉ g.edges then g.edges ++ [edge] else g.edges := by
  have asked : g.insertEdge edge =
      if g.joins edge && !g.edges.contains edge then { g with edges := g.edges ++ [edge] } else g :=
    rfl
  rw [asked]
  by_cases joined : g.joins edge = true <;> by_cases old : edge ∈ g.edges <;> simp [joined, old]

namespace WellFormed

theorem insertNode (wf : g.WellFormed) (e : Element) : (g.insertNode e).WellFormed := by
  by_cases old : e.id ∈ g.ids
  · rwa [insertNode_of_old old]
  · rw [insertNode_of_new old]
    exact {
      idsOnce := nodup_map_concat wf.idsOnce old
      edgesOnce := wf.edgesOnce
      ends := fun edge member => by
        obtain ⟨source, target⟩ := wf.ends edge member
        simp only [ids, List.map_append]
        exact ⟨List.mem_append_left _ source, List.mem_append_left _ target⟩ }

theorem insertEdge (wf : g.WellFormed) (edge : Edge) : (g.insertEdge edge).WellFormed where
  idsOnce := by
    rw [ids, nodes_insertEdge]
    exact wf.idsOnce
  edgesOnce := by
    rw [edges_insertEdge]
    split
    · rename_i fits
      exact nodup_concat wf.edgesOnce fits.2
    · exact wf.edgesOnce
  ends other member := by
    rw [ids, nodes_insertEdge]
    rw [edges_insertEdge] at member
    split at member
    · rename_i fits
      rcases List.mem_append.1 member with old | new
      · exact wf.ends other old
      · rw [List.mem_singleton.1 new]
        exact (joins_iff g edge).1 fits.1
    · exact wf.ends other member

end WellFormed

/-- Graphs that nodes and edges were put into one by one. -/
inductive Assembled : Snapshot → Prop
  | empty (filter : RelationFilter) : Assembled { filter }
  | insertNode {g : Snapshot} (before : Assembled g) (e : Element) : Assembled (g.insertNode e)
  | insertEdge {g : Snapshot} (before : Assembled g) (edge : Edge) : Assembled (g.insertEdge edge)

theorem Assembled.wellFormed (assembled : Assembled g) : g.WellFormed := by
  induction assembled with
  | empty filter => exact ⟨List.nodup_nil, List.nodup_nil, by simp⟩
  | insertNode _ e ih => exact ih.insertNode e
  | insertEdge _ edge ih => exact ih.insertEdge edge

@[simp] theorem nodes_foldl_insertEdge (edges : List Edge) :
    ∀ g : Snapshot, (edges.foldl insertEdge g).nodes = g.nodes := by
  induction edges with
  | nil => intro g; rfl
  | cons edge rest ih => intro g; rw [List.foldl_cons, ih, nodes_insertEdge]

/-- Edges stand where they were first put in; those without both ends are left out. -/
theorem edges_foldl_insertEdge (edges : List Edge) :
    ∀ (g : Snapshot) (before : List Edge), g.edges = before.eraseDups →
      (edges.foldl insertEdge g).edges = (before ++ edges.filter g.joins).eraseDups := by
  induction edges with
  | nil =>
      intro g before same
      simpa using same
  | cons edge rest ih =>
      intro g before same
      rw [List.foldl_cons]
      by_cases joined : g.joins edge = true
      · have after : (g.insertEdge edge).edges = (before ++ [edge]).eraseDups := by
          rw [edges_insertEdge, eraseDups_concat, same]
          by_cases old : edge ∈ before <;> simp [joined, old]
        rw [ih _ _ after, joins_insertEdge, List.filter_cons_of_pos joined, List.append_assoc,
          List.singleton_append]
      · have after : (g.insertEdge edge).edges = before.eraseDups := by
          rw [edges_insertEdge, same]
          simp [joined]
        rw [ih _ _ after, joins_insertEdge, List.filter_cons_of_neg joined]

section OfNodes

variable {filter : RelationFilter} {nodes : List Element}

/-- Edges that the loaded links of some nodes may become, repetitions included. -/
def candidates (filter : RelationFilter) (nodes : List Element) : List Edge :=
  ((nodes.flatMap loadedLinks).filter (filter.accepts ·.relation)).map Edge.ofLink

theorem mem_candidates_iff {edge : Edge} :
    edge ∈ candidates filter nodes ↔
      filter.accepts edge.relation = true ∧
        ∃ e ∈ nodes, ∃ link ∈ loadedLinks e, Edge.ofLink link = edge := by
  simp only [candidates, List.mem_map, List.mem_filter, List.mem_flatMap]
  constructor
  · rintro ⟨link, ⟨⟨e, node, member⟩, accepted⟩, rfl⟩
    exact ⟨accepted, e, node, link, member, rfl⟩
  · rintro ⟨accepted, e, node, link, member, rfl⟩
    exact ⟨link, ⟨⟨e, node, member⟩, accepted⟩, rfl⟩

theorem ofNodes_eq (once : (nodes.map (·.id)).Nodup) :
    ofNodes filter nodes = (candidates filter nodes).foldl insertEdge { nodes, filter } := by
  have start : nodes.foldl insertNode { filter } = { nodes, filter } :=
    foldl_insertNode nodes { filter } once
  simp only [ofNodes, start, candidates, List.foldl_map]

theorem nodes_ofNodes (once : (nodes.map (·.id)).Nodup) : (ofNodes filter nodes).nodes = nodes := by
  rw [ofNodes_eq once, nodes_foldl_insertEdge]

theorem ids_ofNodes (once : (nodes.map (·.id)).Nodup) :
    (ofNodes filter nodes).ids = nodes.map (·.id) := by
  rw [ids, nodes_ofNodes once]

theorem edges_ofNodes (once : (nodes.map (·.id)).Nodup) :
    (ofNodes filter nodes).edges =
      ((candidates filter nodes).filter (ofNodes filter nodes).joins).eraseDups := by
  have sameJoins : (ofNodes filter nodes).joins = joins { nodes, filter } := by
    funext edge
    simp [joins, contains, nodes_ofNodes once]
  have collected := edges_foldl_insertEdge (candidates filter nodes) { nodes, filter } [] rfl
  rw [sameJoins, ofNodes_eq once, collected, List.nil_append]

theorem mem_edges_ofNodes (once : (nodes.map (·.id)).Nodup) {edge : Edge} :
    edge ∈ (ofNodes filter nodes).edges ↔
      edge ∈ candidates filter nodes ∧
        edge.source ∈ nodes.map (·.id) ∧ edge.target ∈ nodes.map (·.id) := by
  rw [edges_ofNodes once, List.mem_eraseDups, List.mem_filter, joins_iff, ids_ofNodes once]

theorem assembled_ofNodes (filter : RelationFilter) (nodes : List Element) :
    (ofNodes filter nodes).Assembled := by
  simp only [ofNodes]
  refine List.foldlRecOn _ _ (List.foldlRecOn _ _ (.empty filter) ?_) ?_
  · intro g assembled e _
    exact assembled.insertNode e
  · intro g assembled link _
    exact assembled.insertEdge _

end OfNodes

theorem mem_targetIds_iff {source target : ElementId} {relation : String} :
    target ∈ g.targetIds source relation ↔ ⟨source, target, relation⟩ ∈ g.edges := by
  simp only [targetIds, List.mem_map, List.mem_filter, Bool.and_eq_true, beq_iff_eq]
  constructor
  · rintro ⟨edge, ⟨member, rfl, rfl⟩, rfl⟩
    exact member
  · intro member
    exact ⟨_, ⟨member, rfl, rfl⟩, rfl⟩

theorem mem_sourceIds_iff {source target : ElementId} {relation : String} :
    source ∈ g.sourceIds target relation ↔ ⟨source, target, relation⟩ ∈ g.edges := by
  simp only [sourceIds, List.mem_map, List.mem_filter, Bool.and_eq_true, beq_iff_eq]
  constructor
  · rintro ⟨edge, ⟨member, rfl, rfl⟩, rfl⟩
    exact member
  · intro member
    exact ⟨_, ⟨member, rfl, rfl⟩, rfl⟩

namespace WellFormed

theorem eq_of_same_id (wf : g.WellFormed) {a b : Element} (aNode : a ∈ g.nodes)
    (bNode : b ∈ g.nodes) (same : a.id = b.id) : a = b :=
  List.inj_on_of_nodup_map wf.idsOnce aNode bNode same

theorem element?_eq_some_iff (wf : g.WellFormed) {id : ElementId} {e : Element} :
    g.element? id = some e ↔ e ∈ g.nodes ∧ e.id = id :=
  find?_key_eq_some_iff wf.idsOnce

theorem mem_select_iff (wf : g.WellFormed) {ids : List ElementId} {e : Element} :
    e ∈ g.select ids ↔ e ∈ g.nodes ∧ e.id ∈ ids := by
  simp only [select, List.mem_filterMap, List.mem_eraseDups, wf.element?_eq_some_iff]
  constructor
  · rintro ⟨id, member, node, rfl⟩
    exact ⟨node, member⟩
  · rintro ⟨node, member⟩
    exact ⟨e.id, member, node, rfl⟩

/-- A node is found among neighbours as far as their edges make `id` a node itself. -/
theorem mem_neighbours_iff (wf : g.WellFormed) {id : ElementId} {ids : List ElementId} {e : Element}
    (known : e.id ∈ ids → id ∈ g.ids) :
    e ∈ (if g.contains id then g.select ids else []) ↔ e ∈ g.nodes ∧ e.id ∈ ids := by
  split
  · exact wf.mem_select_iff
  · rename_i unknown
    rw [contains_iff] at unknown
    constructor
    · intro member
      cases member
    · rintro ⟨-, member⟩
      exact absurd (known member) unknown

theorem mem_targets_iff (wf : g.WellFormed) {id : ElementId} {relation : String} {e : Element} :
    e ∈ g.targets id relation ↔ e ∈ g.nodes ∧ ⟨id, e.id, relation⟩ ∈ g.edges := by
  rw [← mem_targetIds_iff]
  exact wf.mem_neighbours_iff fun member => (wf.ends _ (mem_targetIds_iff.1 member)).1

theorem mem_sources_iff (wf : g.WellFormed) {id : ElementId} {relation : String} {e : Element} :
    e ∈ g.sources id relation ↔ e ∈ g.nodes ∧ ⟨e.id, id, relation⟩ ∈ g.edges := by
  rw [← mem_sourceIds_iff]
  exact wf.mem_neighbours_iff fun member => (wf.ends _ (mem_sourceIds_iff.1 member)).2

end WellFormed

end Snapshot
end Registry
