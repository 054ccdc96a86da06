import Registry.Proofs.Snapshot.Coherent
import Mathlib.Data.List.Induction

/-! # Snapshots with indices

A graph is kept in an arena, where a node is known by its number, with an index of the ids and one
of the types. Putting in nodes and edges keeps the indices in step with the arena, so every reading
that goes through them is that of the plain snapshot.
-/

namespace Registry

/-- Maps with the same values are the same. -/
theorem TextMap.ext_get? {α : Type} {m m' : TextMap α}
    (same : ∀ key a, m.get? key = some a ↔ m'.get? key = some a) : m = m' := by
  refine ext_entries (eq_of_ascending Prod.fst m.ascending m'.ascending fun entry => ?_)
  rw [← get?_eq_some_iff, ← get?_eq_some_iff, same]

/-- A graph whose nodes have numbers, which are listed by id and by type. -/
structure IndexedSnapshot where
  arena : List Element := []
  /-- Numbers of the source and of the target, and the relation. -/
  arcs : List (Nat × Nat × String) := []
  numbers : List (ElementId × Nat) := []
  byType : TextMap (List Nat) := .empty
  /-- Numbers in the order in which the nodes were put in. -/
  order : List Nat := []
  filter : RelationFilter
  deriving DecidableEq, Repr

namespace IndexedSnapshot

def number? (ix : IndexedSnapshot) (id : ElementId) : Option Nat :=
  ix.numbers.lookup id

def node? (ix : IndexedSnapshot) (n : Nat) : Option Element :=
  ix.arena[n]?

/-- Add a node under the next number, unless there is one with its id. -/
def insertNode (ix : IndexedSnapshot) (e : Element) : IndexedSnapshot :=
  if (ix.number? e.id).isSome then ix
  else
    let n := ix.arena.length
    { ix with
      arena := ix.arena ++ [e]
      numbers := (e.id, n) :: ix.numbers
      byType := ix.byType.insert e.typeId ((ix.byType.get? e.typeId).getD [] ++ [n])
      order := ix.order ++ [n] }

/-- Add an edge between two nodes, unless it is there. -/
def insertEdge (ix : IndexedSnapshot) (edge : Edge) : IndexedSnapshot :=
  match ix.number? edge.source, ix.number? edge.target with
  | some source, some target =>
      if ix.arcs.contains (source, target, edge.relation) then ix
      else { ix with arcs := ix.arcs ++ [(source, target, edge.relation)] }
  | _, _ => ix

/-- The graph of some nodes and of those of their links that the filter accepts. -/
def ofNodes (filter : RelationFilter) (nodes : List Element) : IndexedSnapshot :=
  let ix := nodes.foldl insertNode { filter }
  let links := (nodes.flatMap Snapshot.loadedLinks).filter (filter.accepts ·.relation)
  links.foldl (fun ix link => ix.insertEdge (Edge.ofLink link)) ix

/-- The snapshot of what the loaders select, as `Snapshot.build` takes it. -/
def build {σ : Type} (source : Source σ) (loaders : List Loader) (filter : RelationFilter)
    (r : Retrieval σ) : Except RetrievalError IndexedSnapshot × Retrieval σ :=
  let filter := filter.normalized
  match Snapshot.selectNodes source [] loaders r with
  | (.error e, r) => (.error e, r)
  | (.ok nodes, r) =>
      if filter.loadsLinks then
        match Retrieval.ensureAll source nodes .links r with
        | (.error e, r) => (.error e, r)
        | (.ok nodes, r) => (.ok (ofNodes filter nodes), r)
      else (.ok (ofNodes filter nodes), r)

def contains (ix : IndexedSnapshot) (id : ElementId) : Bool :=
  (ix.number? id).isSome

def element? (ix : IndexedSnapshot) (id : ElementId) : Option Element :=
  (ix.number? id).bind ix.node?

def elements (ix : IndexedSnapshot) : List Element :=
  ix.order.filterMap ix.node?

def ofType (ix : IndexedSnapshot) (typeId : String) : List Element :=
  ((ix.byType.get? typeId).getD []).filterMap ix.node?

def edge? (ix : IndexedSnapshot) (arc : Nat × Nat × String) : Option Edge :=
  match ix.node? arc.1, ix.node? arc.2.1 with
  | some source, some target => some ⟨source.id, target.id, arc.2.2⟩
  | _, _ => none

def edges (ix : IndexedSnapshot) : List Edge :=
  ix.arcs.filterMap ix.edge?

def stats (ix : IndexedSnapshot) : Snapshot.Stats where
  nodeCount := ix.arena.length
  edgeCount := ix.arcs.length
  nodesByType := ix.byType.map List.length
  edgesByRelation := Snapshot.tally (ix.edges.map (·.relation))
  relationFilter := ix.filter.display

/-- Numbers of the nodes of a list that have the type. -/
def placesOf (nodes : List Element) (typeId : String) : List Nat :=
  (List.range nodes.length).filter fun n => nodes[n]?.any (·.typeId == typeId)

/-- The arena and its indices hold the nodes and edges of the plain snapshot. -/
structure InStep (ix : IndexedSnapshot) (g : Snapshot) : Prop where
  arena : ix.arena = g.nodes
  filter : ix.filter = g.filter
  order : ix.order = List.range g.nodes.length
  numbers : ∀ id n, ix.number? id = some n ↔ g.ids[n]? = some id
  byType : ∀ typeId places, ix.byType.get? typeId = some places ↔
    places ≠ [] ∧ places = placesOf g.nodes typeId
  arcs : ix.arcs.map ix.edge? = g.edges.map some

variable {ix : IndexedSnapshot} {g : Snapshot}

theorem placesOf_concat (nodes : List Element) (e : Element) (typeId : String) :
    placesOf (nodes ++ [e]) typeId =
      if e.typeId = typeId then placesOf nodes typeId ++ [nodes.length]
      else placesOf nodes typeId := by
  have before : (List.range nodes.length).filter
      (fun n => (nodes ++ [e])[n]?.any (·.typeId == typeId)) = placesOf nodes typeId := by
    refine List.filter_congr fun n member => ?_
    rw [List.getElem?_append_left (List.mem_range.1 member)]
  rw [placesOf, List.length_append, List.length_singleton, List.range_succ, List.filter_append,
    before]
  by_cases isType : e.typeId = typeId <;> simp [isType]

theorem filterMap_placesOf (nodes : List Element) (typeId : String) :
    (placesOf nodes typeId).filterMap (nodes[·]?) = nodes.filter (·.typeId == typeId) := by
  induction nodes using List.reverseRecOn with
  | nil => rfl
  | append_singleton nodes e ih =>
      have before : (placesOf nodes typeId).filterMap ((nodes ++ [e])[·]?) =
          nodes.filter (·.typeId == typeId) := by
        rw [← ih]
        refine List.filterMap_congr fun n member => ?_
        exact List.getElem?_append_left (List.mem_range.1 (List.mem_of_mem_filter member))
      rw [placesOf_concat, List.filter_append, ← before]
      by_cases isType : e.typeId = typeId <;> simp [isType]

theorem filterMap_range (nodes : List Element) :
    (List.range nodes.length).filterMap (nodes[·]?) = nodes := by
  induction nodes using List.reverseRecOn with
  | nil => rfl
  | append_singleton nodes e ih =>
      have before : (List.range nodes.length).filterMap ((nodes ++ [e])[·]?) = nodes := by
        conv_rhs => rw [← ih]
        exact List.filterMap_congr fun n member =>
          List.getElem?_append_left (List.mem_range.1 member)
      rw [List.length_append, List.length_singleton, List.range_succ, List.filterMap_append, before]
      simp

theorem getElem?_concat_eq_some_iff {α : Type} {l : List α} {a b : α} {n : Nat} :
    (l ++ [a])[n]? = some b ↔ l[n]? = some b ∨ n = l.length ∧ a = b := by
  rw [List.getElem?_append]
  split
  · rename_i within
    simp [Nat.ne_of_lt within]
  · rename_i beyond
    have none : l[n]? = none := List.getElem?_eq_none (Nat.not_lt.1 beyond)
    simp only [none, reduceCtorEq, false_or, List.getElem?_singleton]
    split
    · rename_i same
      have isLast : n = l.length := by omega
      simp [isLast]
    · rename_i other
      have notLast : n ≠ l.length := by omega
      simp [notLast]

theorem contains_inStep (step : ix.InStep g) (id : ElementId) : ix.contains id = g.contains id := by
  rw [Bool.eq_iff_iff, g.contains_iff, contains, Option.isSome_iff_exists, List.mem_iff_getElem?]
  simp only [step.numbers]

/-- Numbers that are taken stay with their nodes when a node is added. -/
theorem edge?_grown {grown : IndexedSnapshot} {e : Element} (arena : grown.arena = ix.arena ++ [e])
    {arc : Nat × Nat × String} {edge : Edge} (isEdge : ix.edge? arc = some edge) :
    grown.edge? arc = some edge := by
  have kept : ∀ n e, ix.node? n = some e → grown.node? n = some e := by
    intro n e found
    rw [node?, arena, getElem?_concat_eq_some_iff]
    exact .inl found
  unfold edge? at isEdge ⊢
  split at isEdge
  · rename_i source target isSource isTarget
    rw [kept _ _ isSource, kept _ _ isTarget]
    exact isEdge
  · cases isEdge

theorem places_getD (step : ix.InStep g) (typeId : String) :
    (ix.byType.get? typeId).getD [] = placesOf g.nodes typeId := by
  rcases found : ix.byType.get? typeId with _ | places
  · by_contra some
    have listed := (step.byType typeId _).2 ⟨fun none => some none.symm, rfl⟩
    rw [found] at listed
    cases listed
  · exact ((step.byType typeId places).1 found).2

/-- The index of ids with a new node under the next number. -/
theorem numbers_concat (step : ix.InStep g) {e : Element} (new : e.id ∉ g.ids) (id : ElementId)
    (n : Nat) :
    ((e.id, ix.arena.length) :: ix.numbers).lookup id = some n ↔
      (g.ids ++ [e.id])[n]? = some id := by
  have count : g.ids.length = ix.arena.length := by simp [Snapshot.ids, step.arena]
  rw [getElem?_concat_eq_some_iff, TextMap.lookup_cons, count]
  by_cases same : id = e.id
  · subst same
    rw [List.mem_iff_getElem?, not_exists] at new
    simp [new, eq_comm]
  · simp only [same, Ne.symm same, if_false, and_false, or_false]
    exact step.numbers id n

/-- The index of types with a node under the next number. -/
theorem byType_concat (step : ix.InStep g) (e : Element) (typeId : String) (places : List Nat) :
    (ix.byType.insert e.typeId
      ((ix.byType.get? e.typeId).getD [] ++ [ix.arena.length])).get? typeId = some places ↔
        places ≠ [] ∧ places = placesOf (g.nodes ++ [e]) typeId := by
  rw [TextMap.get?_insert, placesOf_concat, places_getD step, step.arena]
  by_cases isType : typeId = e.typeId
  · subst isType
    rw [if_pos rfl, if_pos rfl, Option.some.injEq]
    constructor
    · rintro rfl
      exact ⟨by simp, rfl⟩
    · rintro ⟨-, rfl⟩
      rfl
  · rw [if_neg isType, if_neg (Ne.symm isType)]
    exact step.byType typeId places

theorem inStep_insertNode (step : ix.InStep g) (e : Element) :
    (ix.insertNode e).InStep (g.insertNode e) := by
  have asked : (ix.number? e.id).isSome = g.contains e.id := contains_inStep step e.id
  by_cases old : g.contains e.id = true
  · rw [insertNode, asked, if_pos old, Snapshot.insertNode, if_pos old]
    exact step
  · rw [insertNode, asked, if_neg old, Snapshot.insertNode, if_neg old]
    have new : e.id ∉ g.ids := fun member => old ((g.contains_iff _).2 member)
    have ids : ({ g with nodes := g.nodes ++ [e] } : Snapshot).ids = g.ids ++ [e.id] := by
      simp [Snapshot.ids]
    refine {
      arena := by simp only [step.arena]
      filter := step.filter
      order := by simp [step.order, step.arena, List.range_succ]
      numbers := fun id n => by rw [ids]; exact numbers_concat step new id n
      byType := byType_concat step e
      arcs := ?_ }
    -- the numbers in arcs are taken, so that they lead to the same nodes as before
    rw [← step.arcs]
    refine List.map_congr_left fun arc member => ?_
    have listed : ix.edge? arc ∈ g.edges.map some := step.arcs ▸ List.mem_map_of_mem member
    obtain ⟨edge, -, isEdge⟩ := List.mem_map.1 listed
    rw [← isEdge]
    exact edge?_grown rfl isEdge.symm

theorem edge?_eq_some_iff (step : ix.InStep g) {arc : Nat × Nat × String} {edge : Edge} :
    ix.edge? arc = some edge ↔ ix.number? edge.source = some arc.1 ∧
      ix.number? edge.target = some arc.2.1 ∧ edge.relation = arc.2.2 := by
  obtain ⟨source, target, relation⟩ := edge
  rw [step.numbers, step.numbers, Snapshot.ids, List.getElem?_map, List.getElem?_map, edge?, node?,
    node?, step.arena]
  rcases g.nodes[arc.1]? with _ | first <;> rcases g.nodes[arc.2.1]? with _ | second <;>
    simp [eq_comm]

theorem mem_arcs_iff (step : ix.InStep g) {arc : Nat × Nat × String} {edge : Edge}
    (isEdge : ix.edge? arc = some edge) : arc ∈ ix.arcs ↔ edge ∈ g.edges := by
  have listed : some edge ∈ ix.arcs.map ix.edge? ↔ edge ∈ g.edges := by
    rw [step.arcs]
    simp
  rw [← listed, List.mem_map]
  constructor
  · exact fun member => ⟨arc, member, isEdge⟩
  · rintro ⟨other, member, same⟩
    obtain ⟨source, target, relation⟩ := (edge?_eq_some_iff step).1 isEdge
    obtain ⟨source', target', relation'⟩ := (edge?_eq_some_iff step).1 same
    have isArc : other = arc := Prod.ext (Option.some.inj (source'.symm.trans source))
      (Prod.ext (Option.some.inj (target'.symm.trans target)) (relation'.symm.trans relation))
    rwa [← isArc]

theorem inStep_insertEdge (step : ix.InStep g) (edge : Edge) :
    (ix.insertEdge edge).InStep (g.insertEdge edge) := by
  rw [insertEdge, Snapshot.insertEdge, ← contains_inStep step, ← contains_inStep step, contains,
    contains]
  rcases fromNumber : ix.number? edge.source with _ | source
  · simpa using step
  · rcases toNumber : ix.number? edge.target with _ | target
    · simpa using step
    · have isEdge : ix.edge? (source, target, edge.relation) = some edge :=
        (edge?_eq_some_iff step).2 ⟨fromNumber, toNumber, rfl⟩
      have same := mem_arcs_iff step isEdge
      by_cases old : edge ∈ g.edges
      · simpa [same, old] using step
      · simp only [Option.isSome_some, Bool.and_self, List.contains_eq_mem, same, old,
          decide_false, Bool.not_false, Bool.false_eq_true, if_false, if_true]
        refine { step with arcs := ?_ }
        rw [List.map_append, List.map_append, ← step.arcs, List.map_singleton, List.map_singleton,
          ← isEdge]
        rfl

/-- Every reading of the graph with indices is that of the plain one. -/
structure Reads (ix : IndexedSnapshot) (g : Snapshot) : Prop where
  elements : ix.elements = g.nodes
  contains : ∀ id, ix.contains id = g.contains id
  element? : ∀ id, ix.element? id = g.element? id
  ofType : ∀ typeId, ix.ofType typeId = g.ofType typeId
  edges : ix.edges = g.edges
  stats : ix.stats = g.stats

theorem node?_eq (step : ix.InStep g) : ix.node? = (g.nodes[·]?) := by
  funext n
  rw [node?, step.arena]

theorem edges_inStep (step : ix.InStep g) : ix.edges = g.edges := by
  have listed : ix.edges = (ix.arcs.map ix.edge?).filterMap id := by
    rw [List.filterMap_map]
    rfl
  rw [listed, step.arcs, List.filterMap_map]
  simp

theorem element?_inStep (step : ix.InStep g) (once : g.ids.Nodup) (id : ElementId) :
    ix.element? id = g.element? id := by
  refine Option.ext fun e => ?_
  rw [element?, node?_eq step, Option.bind_eq_some_iff, Snapshot.element?,
    find?_key_eq_some_iff once, List.mem_iff_getElem?]
  simp only [step.numbers, Snapshot.ids, List.getElem?_map]
  constructor
  · rintro ⟨n, isId, found⟩
    rw [found] at isId
    exact ⟨⟨n, found⟩, Option.some.inj isId⟩
  · rintro ⟨⟨n, found⟩, rfl⟩
    exact ⟨n, by rw [found]; rfl, found⟩

theorem ofType_inStep (step : ix.InStep g) (typeId : String) :
    ix.ofType typeId = g.ofType typeId := by
  rw [ofType, places_getD step, node?_eq step]
  exact filterMap_placesOf g.nodes typeId

theorem length_placesOf (nodes : List Element) (typeId : String) :
    (placesOf nodes typeId).length = (nodes.map (·.typeId)).count typeId := by
  induction nodes using List.reverseRecOn with
  | nil => rfl
  | append_singleton nodes e ih =>
      rw [placesOf_concat, List.map_append, List.count_append, ← ih]
      by_cases isType : e.typeId = typeId <;> simp [isType]

theorem stats_inStep (step : ix.InStep g) : ix.stats = g.stats := by
  have arcCount : ix.arcs.length = g.edges.length := by
    simpa using congrArg List.length step.arcs
  have types : ix.byType.map List.length = Snapshot.tally (g.nodes.map (·.typeId)) := by
    refine TextMap.ext_get? fun typeId n => ?_
    rw [TextMap.get?_map, Option.map_eq_some_iff, Snapshot.get?_tally_eq_some_iff,
      ← length_placesOf]
    simp only [step.byType]
    constructor
    · rintro ⟨places, ⟨some, rfl⟩, rfl⟩
      exact ⟨List.length_pos_iff.2 some, rfl⟩
    · rintro ⟨some, rfl⟩
      exact ⟨_, ⟨List.length_pos_iff.1 some, rfl⟩, rfl⟩
  rw [stats, Snapshot.stats, edges_inStep step, arcCount, types, step.arena, step.filter]

theorem InStep.reads (step : ix.InStep g) (once : g.ids.Nodup) : ix.Reads g where
  elements := by
    rw [elements, step.order, node?_eq step]
    exact filterMap_range g.nodes
  contains := contains_inStep step
  element? := element?_inStep step once
  ofType := ofType_inStep step
  edges := edges_inStep step
  stats := stats_inStep step

theorem inStep_empty (filter : RelationFilter) : InStep { filter } { filter } := by
  constructor <;> simp [number?, Snapshot.ids, placesOf, TextMap.get?, TextMap.empty]

theorem inStep_ofNodes (filter : RelationFilter) (nodes : List Element) :
    (ofNodes filter nodes).InStep (Snapshot.ofNodes filter nodes) := by
  rw [ofNodes, Snapshot.ofNodes]
  refine List.foldl_rel (r := InStep) ?_ ?_
  · refine List.foldl_rel (r := InStep) (inStep_empty filter) ?_
    exact fun e _ _ _ step => inStep_insertNode step e
  · exact fun link _ _ _ step => inStep_insertEdge step _

end IndexedSnapshot

namespace Snapshot

variable {σ : Type} {g : Snapshot}

theorem ofNodes_of_build {source : Source σ} {loaders : List Loader} {filter : RelationFilter}
    {r after : Retrieval σ} (built : build source loaders filter r = (.ok g, after)) :
    ∃ nodes, g = ofNodes filter.normalized nodes ∧
      IndexedSnapshot.build source loaders filter r =
        (.ok (IndexedSnapshot.ofNodes filter.normalized nodes), after) := by
  simp only [build] at built
  split at built
  · cases built
  · rename_i selected
    split at built
    · rename_i wanted
      split at built
      · cases built
      · rename_i loaded
        cases built
        exact ⟨_, rfl, by simp only [IndexedSnapshot.build, selected, wanted, loaded, if_true]⟩
    · rename_i unwanted
      cases built
      exact ⟨_, rfl, by simp only [IndexedSnapshot.build, selected, if_neg unwanted]⟩

/-- A graph is coherent whatever a source answers, and has no edge if no relation is asked for. Kept
    with indices it reads the same. -/
theorem build_coherent {source : Source σ} {loaders : List Loader} {filter : RelationFilter}
    {r after : Retrieval σ} (built : build source loaders filter r = (.ok g, after)) :
    g.Coherent ∧ g.filter = filter.normalized ∧
      ((filter = .nodesOnly ∨ filter = .only .empty) → g.edges = []) ∧
      ∃ ix, IndexedSnapshot.build source loaders filter r = (.ok ix, after) ∧ ix.Reads g := by
  obtain ⟨nodes, rfl, indexed⟩ := ofNodes_of_build built
  obtain ⟨sameFilter, accepted⟩ := accepted_ofNodes filter.normalized nodes
  have wf : (ofNodes filter.normalized nodes).WellFormed := (assembled_ofNodes _ _).wellFormed
  refine ⟨wf.coherent (by rwa [sameFilter]), sameFilter, ?_, _, indexed, ?_⟩
  · intro noRelation
    have bare : filter.normalized = .nodesOnly := by
      rcases noRelation with rfl | rfl <;> rfl
    refine List.eq_nil_iff_forall_not_mem.2 fun edge member => ?_
    have refused := accepted edge member
    rw [bare] at refused
    cases refused
  · exact (IndexedSnapshot.inStep_ofNodes _ _).reads wf.idsOnce

/-- A source that brings one id twice, and elements that are linked to what it never shows. -/
def careless : Source Nat where
  query types _ s :=
    (.ok [{ id := 1, uuid := "a", typeId := types.headD "asset", scope := none, title := "A" },
      { id := 2, uuid := "b", typeId := "control", scope := none, title := "B" },
      { id := 1, uuid := "c", typeId := "asset", scope := none, title := "C" }], s + 1)
  fetch id _ s := (.error (.elementNotFound id), s)
  fetchMany ids _ s :=
    (.ok (ids.map fun id => {
      id, uuid := "d", typeId := "rack", scope := some 7, title := "D"
      linksDown := .fetched [⟨id, 2, "uses", none⟩, ⟨9, 2, "uses", none⟩, ⟨1, 2, "uses", some "x"⟩]
      linksUp := .fetched [⟨2, 1, "serves", none⟩, ⟨id, 8, "uses", none⟩] }), s)

theorem build_coherent_careless :
    ∃ g after, build careless [{}, { types := .ofList ["site"] }] (.only (.ofList ["uses"]))
        { state := 0 } = (.ok g, after) ∧
      g.ids = [1, 2] ∧ g.edges = [⟨1, 2, "uses"⟩, ⟨2, 2, "uses"⟩] ∧
      g.Coherent ∧ g.filter = RelationFilter.normalized (.only (.ofList ["uses"])) ∧
        ((RelationFilter.only (.ofList ["uses"]) = .nodesOnly ∨
          RelationFilter.only (.ofList ["uses"]) = .only .empty) → g.edges = []) ∧
      ∃ ix, IndexedSnapshot.build careless [{}, { types := .ofList ["site"] }]
        (.only (.ofList ["uses"])) { state := 0 } = (.ok ix, after) ∧ ix.Reads g := by
  have built : build careless [{}, { types := .ofList ["site"] }] (.only (.ofList ["uses"]))
      { state := 0 } = _ := rfl
  exact ⟨_, _, built, rfl, rfl, build_coherent built⟩

end Snapshot
end Registry
