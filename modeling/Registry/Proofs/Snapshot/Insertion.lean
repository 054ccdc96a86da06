import Registry.Proofs.Snapshot.Indexed
import Registry.Proofs.Snapshot.Neighbours

/-! # Graphs from insertions

Nodes and edges are put into a graph one by one, in any order. What neighbours it then lists can be
said of the insertions alone: an edge is accepted if both of its ends were nodes when it came and it
had not been accepted before, and neighbours are the ends of accepted edges in their order. A walk
along the arcs of the graph with indices lists the same.
-/

namespace Registry

namespace Direction

/-- The number at which an arc begins when it is followed. -/
def near : Direction → Nat × Nat × String → Nat
  | .outgoing, arc => arc.1
  | .incoming, arc => arc.2.1

def far : Direction → Nat × Nat × String → Nat
  | .outgoing, arc => arc.2.1
  | .incoming, arc => arc.1

end Direction

namespace IndexedSnapshot

/-- The arcs at a node, the newest first. -/
def arcsAt (ix : IndexedSnapshot) (n : Nat) (direction : Direction) :
    List (Nat × Nat × String) :=
  (ix.arcs.filter (direction.near · == n)).reverse

/-- Go to a node, and list it unless it was seen before. -/
def visit (ix : IndexedSnapshot) (walk : List Nat × List Element) (n : Nat) :
    List Nat × List Element :=
  if walk.1.contains n then walk else (n :: walk.1, walk.2 ++ (ix.node? n).toList)

/-- Visit what arcs of the relation lead to, the oldest arc first. -/
def follow (ix : IndexedSnapshot) (n : Nat) (relation : String) (walk : List Nat × List Element)
    (direction : Direction) : List Nat × List Element :=
  (((ix.arcsAt n direction).filter (·.2.2 == relation)).reverse.map direction.far).foldl
    ix.visit walk

/-- The nodes that are met when arcs at a node are followed, one direction after the other. -/
def neighbours (ix : IndexedSnapshot) (id : ElementId) (relation : String)
    (directions : List Direction) : List Element :=
  match ix.number? id with
  | none => []
  | some n => (directions.foldl (ix.follow n relation) ([], [])).2

/-- Numbers that arcs of the relation lead to, in the order of the arcs. -/
def ends (ix : IndexedSnapshot) (n : Nat) (relation : String) (direction : Direction) : List Nat :=
  (ix.arcs.filter fun arc => direction.near arc == n && arc.2.2 == relation).map direction.far

/-- The walk has been at these numbers, and lists each node where it first met it. -/
structure Visited (ix : IndexedSnapshot) (walk : List Nat × List Element) (numbers : List Nat) :
    Prop where
  seen : ∀ n, n ∈ walk.1 ↔ n ∈ numbers
  listed : walk.2 = numbers.eraseDups.filterMap ix.node?

variable {ix : IndexedSnapshot} {g : Snapshot} {walk : List Nat × List Element}
  {before numbers : List Nat} {id : ElementId} {relation : String}

namespace Visited

theorem nil (ix : IndexedSnapshot) : ix.Visited ([], []) [] := by
  constructor <;> simp

theorem visit (visited : ix.Visited walk before) (n : Nat) :
    ix.Visited (ix.visit walk n) (before ++ [n]) := by
  have known : walk.1.contains n = true ↔ n ∈ before := by
    rw [List.contains_iff_mem, visited.seen]
  by_cases old : n ∈ before
  · rw [IndexedSnapshot.visit, if_pos (known.2 old)]
    constructor
    · intro m
      rw [visited.seen]
      simp only [List.mem_append, List.mem_singleton]
      constructor
      · exact .inl
      · rintro (earlier | rfl)
        · exact earlier
        · exact old
    · rw [eraseDups_concat, if_pos old, visited.listed]
  · rw [IndexedSnapshot.visit, if_neg (known.not.2 old)]
    constructor
    · intro m
      rw [List.mem_cons, visited.seen, List.mem_append, List.mem_singleton]
      exact or_comm
    · rw [eraseDups_concat, if_neg old, visited.listed, List.filterMap_append,
        List.filterMap_cons, List.filterMap_nil]
      cases ix.node? n <;> rfl

theorem foldl (visited : ix.Visited walk before) (numbers : List Nat) :
    ix.Visited (numbers.foldl ix.visit walk) (before ++ numbers) := by
  induction numbers generalizing walk before with
  | nil => simpa using visited
  | cons n rest ih =>
      rw [List.foldl_cons, List.append_cons]
      exact ih (visited.visit n)

theorem follow (visited : ix.Visited walk before) (n : Nat) (relation : String)
    (direction : Direction) :
    ix.Visited (ix.follow n relation walk direction) (before ++ ix.ends n relation direction) := by
  have ordered : ((ix.arcsAt n direction).filter (·.2.2 == relation)).reverse =
      ix.arcs.filter fun arc => direction.near arc == n && arc.2.2 == relation := by
    rw [arcsAt, List.filter_reverse, List.reverse_reverse, List.filter_filter]
    simp only [Bool.and_comm]
  rw [IndexedSnapshot.follow, ordered]
  exact visited.foldl _

theorem directions (visited : ix.Visited walk before) (n : Nat) (relation : String)
    (directions : List Direction) :
    ix.Visited (directions.foldl (ix.follow n relation) walk)
      (before ++ directions.flatMap (ix.ends n relation)) := by
  induction directions generalizing walk before with
  | nil => simpa using visited
  | cons direction rest ih =>
      rw [List.foldl_cons, List.flatMap_cons, ← List.append_assoc]
      exact ih (visited.follow n relation direction)

end Visited

theorem eq_of_same_number (step : ix.InStep g) {a b : ElementId} {n : Nat}
    (first : ix.number? a = some n) (second : ix.number? b = some n) : a = b := by
  rw [step.numbers] at first second
  exact Option.some.inj (first.symm.trans second)

/-- Each arc stands for the edge at its place. -/
theorem related_inStep (step : ix.InStep g) :
    List.Forall₂ (fun arc edge => ix.edge? arc = some edge) ix.arcs g.edges := by
  have same : List.Forall₂ (· = ·) (ix.arcs.map ix.edge?) (g.edges.map some) := by
    rw [List.forall₂_eq_eq_eq]
    exact step.arcs
  rwa [List.forall₂_map_left_iff, List.forall₂_map_right_iff] at same

theorem numbers_ends (step : ix.InStep g) {n : Nat} (isNumber : ix.number? id = some n)
    (relation : String) (direction : Direction) :
    (g.endIds id relation direction).map ix.number? =
      (ix.ends n relation direction).map some := by
  have related := related_inStep step
  simp only [Snapshot.endIds, ends]
  generalize ix.arcs = arcs, g.edges = edges at related
  induction related with
  | nil => rfl
  | @cons arc edge arcs edges isEdge _ ih =>
      obtain ⟨source, target, sameRelation⟩ := (edge?_eq_some_iff step).1 isEdge
      have near : ix.number? (direction.nearId edge) = some (direction.near arc) := by
        cases direction with
        | outgoing => exact source
        | incoming => exact target
      have far : ix.number? (direction.farId edge) = some (direction.far arc) := by
        cases direction with
        | outgoing => exact target
        | incoming => exact source
      have begins : direction.nearId edge = id ↔ direction.near arc = n := by
        constructor
        · rintro rfl
          exact Option.some.inj (near.symm.trans isNumber)
        · rintro rfl
          exact eq_of_same_number step near isNumber
      by_cases kept : direction.near arc = n ∧ arc.2.2 = relation
      · rw [List.filter_cons_of_pos (by simp [begins, sameRelation, kept]),
          List.filter_cons_of_pos (by simp [kept]), List.map_cons, List.map_cons, List.map_cons,
          List.map_cons, far, ih]
      · rw [List.filter_cons_of_neg (by simpa [begins, sameRelation] using kept),
          List.filter_cons_of_neg (by simpa using kept), ih]

/-- Nodes are the same by number as by id, and come first at the same places. -/
theorem select_inStep (step : ix.InStep g) (once : g.ids.Nodup) {ids : List ElementId}
    (same : ids.map ix.number? = numbers.map some) :
    numbers.eraseDups.filterMap ix.node? = g.select ids := by
  have apart : ∀ a ∈ ids, ∀ b ∈ ids, ix.number? a = ix.number? b → a = b := by
    intro a isFirst b _ sameNumber
    have listed : ix.number? a ∈ numbers.map some := same ▸ List.mem_map_of_mem isFirst
    obtain ⟨n, -, isNumber⟩ := List.mem_map.1 listed
    exact eq_of_same_number step isNumber.symm (sameNumber.symm.trans isNumber.symm)
  have places : ids.eraseDups.map ix.number? = numbers.eraseDups.map some := by
    rw [← eraseDups_map apart, same, eraseDups_map fun _ _ _ _ => Option.some.inj]
  have byNumber : g.element? = fun id => (ix.number? id).bind ix.node? :=
    funext fun id => (element?_inStep step once id).symm
  calc numbers.eraseDups.filterMap ix.node?
      = (numbers.eraseDups.map some).filterMap (·.bind ix.node?) := by
        rw [List.filterMap_map]
        rfl
    _ = (ids.eraseDups.map ix.number?).filterMap (·.bind ix.node?) := by rw [places]
    _ = g.select ids := by
        rw [List.filterMap_map, Snapshot.select, byNumber]
        rfl

theorem neighbours_inStep (step : ix.InStep g) (once : g.ids.Nodup) (id : ElementId)
    (relation : String) (directions : List Direction) :
    ix.neighbours id relation directions =
      if g.contains id then g.select (directions.flatMap (g.endIds id relation)) else [] := by
  have known : g.contains id = (ix.number? id).isSome := (contains_inStep step id).symm
  rw [neighbours, known]
  rcases isNumber : ix.number? id with _ | n
  · rfl
  · have visited := (Visited.nil ix).directions n relation directions
    dsimp only
    rw [visited.listed, List.nil_append, Option.isSome_some, if_pos rfl]
    refine select_inStep step once ?_
    rw [List.map_flatMap, List.map_flatMap]
    simp only [numbers_ends step isNumber]

end IndexedSnapshot

/-! ## Insertions -/

/-- What is put into a graph. -/
inductive Insertion where
  | node (e : Element)
  | edge (e : Edge)
  deriving DecidableEq, Repr

namespace Insertion

def element? : Insertion → Option Element
  | .node e => some e
  | .edge _ => none

/-- The node that an id names: the first element with it, as later ones are ignored. -/
def first? (insertions : List Insertion) (id : ElementId) : Option Element :=
  (insertions.filterMap element?).find? (·.id == id)

/-- Edges that come when their ends are known, repetitions included. -/
def grounded (known : List ElementId) : List Insertion → List Edge
  | [] => []
  | .node e :: rest => grounded (e.id :: known) rest
  | .edge e :: rest =>
      if e.source ∈ known ∧ e.target ∈ known then e :: grounded known rest
      else grounded known rest

/-- Edges that are accepted, in the order in which they come. -/
def accepted (insertions : List Insertion) : List Edge :=
  (grounded [] insertions).eraseDups

theorem first?_node_cons (e : Element) (rest : List Insertion) (id : ElementId) :
    first? (.node e :: rest) id = if e.id = id then some e else first? rest id := by
  have elements : (Insertion.node e :: rest).filterMap element? =
      e :: rest.filterMap element? := rfl
  rw [first?, elements]
  by_cases same : e.id = id
  · rw [List.find?_cons_of_pos (by simpa using same), if_pos same]
  · rw [List.find?_cons_of_neg (by simpa using same), if_neg same, first?]

theorem first?_edge_cons (e : Edge) (rest : List Insertion) (id : ElementId) :
    first? (.edge e :: rest) id = first? rest id :=
  rfl

end Insertion

namespace Snapshot

open Insertion (first? grounded accepted)

variable {g : Snapshot} {id : ElementId}

def insert (g : Snapshot) : Insertion → Snapshot
  | .node e => g.insertNode e
  | .edge edge => g.insertEdge edge

/-- The graph after insertions into an empty one. -/
def ofInsertions (filter : RelationFilter) (insertions : List Insertion) : Snapshot :=
  insertions.foldl insert { filter }

theorem assembled_ofInsertions (filter : RelationFilter) (insertions : List Insertion) :
    (ofInsertions filter insertions).Assembled := by
  refine List.foldlRecOn _ _ (.empty filter) ?_
  intro g assembled insertion _
  cases insertion with
  | node e => exact assembled.insertNode e
  | edge edge => exact assembled.insertEdge edge

@[simp] theorem edges_insertNode (g : Snapshot) (e : Element) :
    (g.insertNode e).edges = g.edges := by
  simp only [insertNode]
  split <;> rfl

theorem element?_insertNode (g : Snapshot) (e : Element) (id : ElementId) :
    (g.insertNode e).element? id =
      (g.element? id).or (if e.id = id then some e else none) := by
  by_cases old : e.id ∈ g.ids
  · rw [insertNode_of_old old]
    split
    · rename_i isId
      subst isId
      obtain ⟨first, found, -⟩ := exists_element?_of_mem_ids old
      rw [found, Option.some_or]
    · rw [Option.or_none]
  · rw [insertNode_of_new old, element?, List.find?_append, List.find?_singleton, element?]
    simp only [beq_iff_eq]

theorem mem_ids_insertNode (g : Snapshot) (e : Element) :
    id ∈ (g.insertNode e).ids ↔ id ∈ e.id :: g.ids := by
  by_cases old : e.id ∈ g.ids
  · rw [insertNode_of_old old, List.mem_cons]
    constructor
    · exact .inr
    · rintro (rfl | known)
      · exact old
      · exact known
  · rw [insertNode_of_new old, ids, List.map_append, List.mem_append, List.mem_cons, or_comm]
    simp [ids]

theorem element?_foldl_insert (insertions : List Insertion) (id : ElementId) :
    ∀ g : Snapshot, (insertions.foldl insert g).element? id =
      (g.element? id).or (first? insertions id) := by
  induction insertions with
  | nil => exact fun g => (Option.or_none).symm
  | cons insertion rest ih =>
      intro g
      rw [List.foldl_cons, ih]
      cases insertion with
      | node e =>
          rw [insert, element?_insertNode, Insertion.first?_node_cons, Option.or_assoc]
          split <;> rfl
      | edge edge => rw [insert, element?, nodes_insertEdge, Insertion.first?_edge_cons, element?]

/-- Nodes and edges come mixed, so that the known ids grow while edges are put in. -/
theorem edges_foldl_insert (insertions : List Insertion) :
    ∀ (g : Snapshot) (known : List ElementId) (before : List Edge),
      (∀ id, id ∈ g.ids ↔ id ∈ known) → g.edges = before.eraseDups →
        (insertions.foldl insert g).edges = (before ++ grounded known insertions).eraseDups := by
  induction insertions with
  | nil =>
      intro g known before _ same
      simpa [grounded] using same
  | cons insertion rest ih =>
      intro g known before nodes same
      rw [List.foldl_cons]
      cases insertion with
      | node e =>
          refine ih _ (e.id :: known) before (fun id => ?_) ?_
          · rw [insert, mem_ids_insertNode, List.mem_cons, List.mem_cons, nodes]
          · rw [insert, edges_insertNode, same]
      | edge edge =>
          have joined : g.joins edge = true ↔ edge.source ∈ known ∧ edge.target ∈ known := by
            rw [joins_iff, nodes, nodes]
          have sameNodes : ∀ id, id ∈ (g.insertEdge edge).ids ↔ id ∈ known := by
            intro id
            rw [ids, nodes_insertEdge]
            exact nodes id
          rw [insert, grounded]
          split
          · rename_i fits
            rw [List.append_cons]
            refine ih _ known (before ++ [edge]) sameNodes ?_
            rw [edges_insertEdge, eraseDups_concat, same]
            by_cases old : edge ∈ before <;> simp [joined.2 fits, old]
          · rename_i misfit
            refine ih _ known before sameNodes ?_
            rw [edges_insertEdge, same]
            simp [joined, misfit]

theorem edges_ofInsertions (filter : RelationFilter) (insertions : List Insertion) :
    (ofInsertions filter insertions).edges = accepted insertions :=
  edges_foldl_insert insertions { filter } [] [] (by simp [ids]) rfl

theorem element?_ofInsertions (filter : RelationFilter) (insertions : List Insertion)
    (id : ElementId) : (ofInsertions filter insertions).element? id = first? insertions id :=
  element?_foldl_insert insertions id { filter }

/-- The neighbours that a graph lists are the ends of certain edges, and certain elements. -/
structure ReadsOff (g : Snapshot) (rows : List Edge) (first? : ElementId → Option Element) :
    Prop where
  edges : g.edges = rows
  element? : ∀ id, g.element? id = first? id
  /-- One target for each edge that leaves the node, in the order of the edges. -/
  targets : ∀ id relation, (g.targets id relation).map some =
    (rows.filter fun edge => edge.source == id && edge.relation == relation).map
      fun edge => first? edge.target
  sources : ∀ id relation, (g.sources id relation).map some =
    (rows.filter fun edge => edge.target == id && edge.relation == relation).map
      fun edge => first? edge.source
  targetsOnce : ∀ id relation, ((g.targets id relation).map (·.id)).Nodup
  sourcesOnce : ∀ id relation, ((g.sources id relation).map (·.id)).Nodup
  dual : ∀ source target relation, target ∈ (g.targets source relation).map (·.id) ↔
    source ∈ (g.sources target relation).map (·.id)
  /-- Targets, and then the sources that are not among them. -/
  linked : ∀ id relation, g.linked id relation =
    g.targets id relation ++ (g.sources id relation).filter (· ∉ g.targets id relation)
  linkedOnce : ∀ id relation, ((g.linked id relation).map (·.id)).Nodup
  itself : ∀ id relation, ⟨id, id, relation⟩ ∈ rows →
    ((g.linked id relation).map (·.id)).count id = 1
  unknown : ∀ id relation, first? id = none →
    g.targets id relation = [] ∧ g.sources id relation = [] ∧ g.linked id relation = []

theorem WellFormed.readsOff (wf : g.WellFormed) : g.ReadsOff g.edges g.element? where
  edges := rfl
  element? _ := rfl
  targets id relation := by
    rw [wf.targets_eq, map_some_filterMap_element? wf.nodes_of_targetIds, targetIds, List.map_map]
    rfl
  sources id relation := by
    rw [wf.sources_eq, map_some_filterMap_element? wf.nodes_of_sourceIds, sourceIds, List.map_map]
    rfl
  targetsOnce id relation := by
    rw [wf.ids_targets]
    exact wf.nodup_targetIds id relation
  sourcesOnce id relation := by
    rw [wf.ids_sources]
    exact wf.nodup_sourceIds id relation
  dual source target relation := by
    rw [wf.ids_targets, wf.ids_sources, mem_targetIds_iff, mem_sourceIds_iff]
  linked := wf.linked_eq_append
  linkedOnce := wf.nodup_ids_linked
  itself id relation member := by
    refine List.count_eq_one_of_mem (wf.nodup_ids_linked id relation) ?_
    rw [wf.ids_linked]
    exact List.mem_append_left _ (mem_targetIds_iff.2 member)
  unknown id relation none := by
    have noNode : ¬ g.contains id = true := by
      intro known
      obtain ⟨e, found, -⟩ := exists_element?_of_mem_ids ((contains_iff g id).1 known)
      rw [none] at found
      cases found
    exact ⟨if_neg noNode, if_neg noNode, if_neg noNode⟩

end Snapshot

namespace IndexedSnapshot

def insert (ix : IndexedSnapshot) : Insertion → IndexedSnapshot
  | .node e => ix.insertNode e
  | .edge edge => ix.insertEdge edge

def ofInsertions (filter : RelationFilter) (insertions : List Insertion) : IndexedSnapshot :=
  insertions.foldl insert { filter }

theorem inStep_ofInsertions (filter : RelationFilter) (insertions : List Insertion) :
    (ofInsertions filter insertions).InStep (Snapshot.ofInsertions filter insertions) := by
  refine List.foldl_rel (r := InStep) (inStep_empty filter) ?_
  intro insertion _ _ _ step
  cases insertion with
  | node e => exact inStep_insertNode step e
  | edge edge => exact inStep_insertEdge step edge

end IndexedSnapshot

/-- Whatever is put in, and in whatever order, neighbours are read off the accepted edges. A walk
    along the arcs of the graph with indices finds the same neighbours in the same order. -/
theorem Snapshot.neighbours_ofInsertions (filter : RelationFilter) (insertions : List Insertion) :
    let g := Snapshot.ofInsertions filter insertions
    let ix := IndexedSnapshot.ofInsertions filter insertions
    g.ReadsOff (Insertion.accepted insertions) (Insertion.first? insertions) ∧
      ∀ id relation,
        ix.neighbours id relation [.outgoing] = g.targets id relation ∧
        ix.neighbours id relation [.incoming] = g.sources id relation ∧
        ix.neighbours id relation [.outgoing, .incoming] = g.linked id relation := by
  intro g ix
  have wf : g.WellFormed := (assembled_ofInsertions filter insertions).wellFormed
  constructor
  · have reads := wf.readsOff
    rwa [edges_ofInsertions, funext (element?_ofInsertions filter insertions)] at reads
  · intro id relation
    have walked := IndexedSnapshot.neighbours_inStep
      (IndexedSnapshot.inStep_ofInsertions filter insertions) wf.idsOnce id relation
    refine ⟨?_, ?_, ?_⟩
    · rw [walked, List.flatMap_singleton]
      rfl
    · rw [walked, List.flatMap_singleton]
      rfl
    · rw [walked, List.flatMap_cons, List.flatMap_singleton]
      rfl

/-- The first edge comes before its ends, and the last one a second time. -/
example :
    let e : Element := { id := 1, uuid := "a", typeId := "asset", scope := none, title := "A" }
    Insertion.accepted [.edge ⟨1, 1, "uses"⟩, .node e, .edge ⟨1, 2, "uses"⟩,
      .node { e with id := 2 }, .edge ⟨2, 1, "uses"⟩, .edge ⟨1, 1, "uses"⟩,
      .edge ⟨2, 1, "uses"⟩] = [⟨2, 1, "uses"⟩, ⟨1, 1, "uses"⟩] := by
  decide

end Registry
