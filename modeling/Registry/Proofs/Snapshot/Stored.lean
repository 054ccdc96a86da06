import Registry.Proofs.Retrieval.Stored
import Registry.Proofs.Snapshot.Shape
import Registry.Proofs.Tables.Keys

/-! # Snapshots of tables

Over tables a snapshot never fails, and it can be said without the steps of its construction: the
rows that loaders select, each where its id comes first, and the stored links between them.
-/

namespace Registry

/-- The loader asks for a row of this type and scope. -/
def Loader.Selects (loader : Loader) (row : ElementRow) : Prop :=
  (loader.types.toList = [] ∨ row.typeId ∈ loader.types.toList) ∧
    (loader.scope = none ∨ row.scope = loader.scope)

instance (loader : Loader) (row : ElementRow) : Decidable (loader.Selects row) :=
  inferInstanceAs (Decidable (_ ∧ _))

namespace Tables

/-- Ids of the elements that a loader selects, in ascending order. -/
def selection (t : Tables) (loader : Loader) : List ElementId :=
  ((t.elements.filter fun row => loader.Selects row).map (·.id)).mergeSort

theorem mem_selection_iff {t : Tables} {loader : Loader} {id : ElementId} :
    id ∈ t.selection loader ↔ ∃ row ∈ t.elements, loader.Selects row ∧ row.id = id := by
  simp [selection, and_assoc]

theorem fits_iff (loader : Loader) (row : ElementRow) :
    row.fits loader.types.toList loader.scope = true ↔ loader.Selects row := by
  cases inScope : loader.scope <;> simp [ElementRow.fits, Loader.Selects, inScope]

theorem query_ids (t : Tables) (loader : Loader) :
    (t.query loader.types.toList loader.scope).map (·.id) = t.selection loader := by
  have kept : t.elements.filter (ElementRow.fits loader.types.toList loader.scope) =
      t.elements.filter fun row => loader.Selects row :=
    List.filter_congr fun row _ => by
      rw [Bool.eq_iff_iff, fits_iff, decide_eq_true_iff]
  rw [query, List.map_map, kept]
  exact map_orderBy_key (fun row : ElementRow => row.id) _

theorem exists_row_of_mem_query {t : Tables} {types : List String} {scope : Option ScopeId}
    {e : Element} (found : e ∈ t.query types scope) : ∃ row ∈ t.elements, row.toElement = e := by
  obtain ⟨row, member, rfl⟩ := List.mem_map.1 found
  exact ⟨row, List.mem_of_mem_filter (mem_orderBy.1 member), rfl⟩

/-- The rows that loaders select, in the order in which their ids come first. -/
def chosen (t : Tables) (loaders : List Loader) : List ElementRow :=
  (loaders.flatMap t.selection).eraseDups.filterMap t.row?

/-- A row as a node: with its links, if some may become edges. -/
def node (t : Tables) (filter : RelationFilter) (row : ElementRow) : Element :=
  if filter.normalized.loadsLinks then t.load row .links else row.toElement

/-- The snapshot of what loaders select, with the links that are stored of it. -/
def snapshot (t : Tables) (loaders : List Loader) (filter : RelationFilter) : Snapshot :=
  .ofNodes filter.normalized ((t.chosen loaders).map (t.node filter))

end Tables

namespace Snapshot

theorem ids_addNew (found : List Element) :
    ∀ (nodes : List Element) (before : List ElementId), nodes.map (·.id) = before.eraseDups →
      (addNew nodes found).map (·.id) = (before ++ found.map (·.id)).eraseDups := by
  induction found with
  | nil => intro nodes before same; simpa [addNew] using same
  | cons e rest ih =>
      intro nodes before same
      rw [List.map_cons, List.append_cons]
      simp only [addNew, List.foldl_cons]
      refine ih _ _ ?_
      rw [eraseDups_concat]
      have known : nodes.any (·.id == e.id) = true ↔ e.id ∈ before := by
        rw [any_key_iff, same, List.mem_eraseDups]
      by_cases old : e.id ∈ before
      · rw [if_pos (known.2 old), if_pos old, same]
      · rw [if_neg (fun yes => old (known.1 yes)), if_neg old, List.map_append, same]
        rfl

theorem mem_addNew (found : List Element) :
    ∀ {nodes : List Element} {e : Element}, e ∈ addNew nodes found → e ∈ nodes ∨ e ∈ found := by
  induction found with
  | nil => intro nodes e member; exact .inl member
  | cons first rest ih =>
      intro nodes e member
      rcases ih member with old | later
      · dsimp only at old
        split at old
        · exact .inl old
        · rcases List.mem_append.1 old with old | isFirst
          · exact .inl old
          · exact .inr (by simp_all)
      · exact .inr (List.mem_cons_of_mem _ later)

theorem selectNodes_tables (t : Tables) (loaders : List Loader) (usage : Usage) :
    ∀ (nodes : List Element) (before : List ElementId), nodes.map (·.id) = before.eraseDups →
      (∀ e ∈ nodes, ∃ row ∈ t.elements, row.toElement = e) →
      ∃ all, selectNodes Source.tables nodes loaders ⟨t, usage⟩ = (.ok all, ⟨t, usage⟩) ∧
        all.map (·.id) = (before ++ loaders.flatMap t.selection).eraseDups ∧
        ∀ e ∈ all, ∃ row ∈ t.elements, row.toElement = e := by
  induction loaders with
  | nil =>
      intro nodes before same stored
      exact ⟨nodes, rfl, by simpa using same, stored⟩
  | cons loader rest ih =>
      intro nodes before same stored
      have sameNext := ids_addNew (t.query loader.types.toList loader.scope) nodes before same
      rw [t.query_ids] at sameNext
      obtain ⟨all, selected, ids, rows⟩ := ih _ _ sameNext fun e member =>
        (mem_addNew _ member).elim (stored e) Tables.exists_row_of_mem_query
      refine ⟨all, selected, ?_, rows⟩
      rw [ids, List.flatMap_cons, List.append_assoc]

end Snapshot

namespace Tables

variable {t : Tables} {loaders : List Loader} {filter : RelationFilter}

theorem ids_chosen (keyed : t.Keyed) :
    (t.chosen loaders).map (·.id) = (loaders.flatMap t.selection).eraseDups := by
  have found : ∀ id ∈ (loaders.flatMap t.selection).eraseDups,
      (t.row? id).map (·.id) = some id := by
    intro id member
    obtain ⟨loader, -, selected⟩ := List.mem_flatMap.1 (List.mem_eraseDups.1 member)
    obtain ⟨row, stored, -, sameId⟩ := mem_selection_iff.1 selected
    rw [keyed.row?_eq_some_iff.2 ⟨stored, sameId⟩, Option.map_some, sameId]
  rw [chosen, List.map_filterMap, List.filterMap_congr found, List.filterMap_some]

theorem mem_chosen_iff (keyed : t.Keyed) {row : ElementRow} :
    row ∈ t.chosen loaders ↔ row ∈ t.elements ∧ ∃ loader ∈ loaders, loader.Selects row := by
  simp only [chosen, List.mem_filterMap, List.mem_eraseDups, List.mem_flatMap, mem_selection_iff,
    keyed.row?_eq_some_iff]
  constructor
  · rintro ⟨id, ⟨loader, asked, other, stored, selected, sameId⟩, member, rfl⟩
    rw [List.inj_on_of_nodup_map keyed.ids stored member sameId] at selected
    exact ⟨member, loader, asked, selected⟩
  · rintro ⟨member, loader, asked, selected⟩
    exact ⟨row.id, ⟨loader, asked, row, member, selected, rfl⟩, member, rfl⟩

/-- Elements without facets are told by their ids which rows they come from. -/
theorem map_toElement_rows (keyed : t.Keyed) {elements : List Element}
    (rows : ∀ e ∈ elements, ∃ row ∈ t.elements, row.toElement = e) :
    ((elements.map (·.id)).filterMap t.row?).map ElementRow.toElement = elements := by
  have found : ∀ e ∈ elements, (t.row? e.id).map ElementRow.toElement = some e := by
    intro e member
    obtain ⟨row, stored, rfl⟩ := rows e member
    rw [show t.row? row.toElement.id = some row from keyed.row?_eq_some_iff.2 ⟨stored, rfl⟩,
      Option.map_some]
  rw [List.filterMap_map, List.map_filterMap]
  exact (List.filterMap_congr found).trans List.filterMap_some

/-- Elements without facets all lack the same, so that one batch brings it to all of them. -/
theorem brought_links (keyed : t.Keyed) (rows : List ElementRow)
    (stored : ∀ row ∈ rows, row ∈ t.elements) :
    (rows.map ElementRow.toElement).map
        (t.brought .links (Retrieval.request (rows.map ElementRow.toElement) .links)) =
      rows.map fun row => t.load row .links := by
  rw [List.map_map]
  refine List.map_congr_left fun row member => ?_
  have bare : ∀ kind, row.toElement.has kind = false := row.has_toElement
  have asked : Retrieval.request (rows.map ElementRow.toElement) .links = .links := by
    refine FacetSet.ext_contains fun kind => ?_
    rw [Bool.eq_iff_iff, Retrieval.contains_request]
    constructor
    · rintro ⟨e, -, lacking⟩
      rw [Element.contains_missing, Bool.and_eq_true] at lacking
      exact lacking.1
    · intro wanted
      exact ⟨row.toElement, List.mem_map_of_mem member, by simp [wanted, bare]⟩
  have lacking : (row.toElement.missing .links).isEmpty ≠ true := by
    rw [ne_eq, Element.missing_isEmpty_iff]
    intro present
    exact absurd (present .linksDown rfl) (by simp [bare])
  have found : t.row? row.toElement.id = some row :=
    keyed.row?_eq_some_iff.2 ⟨stored row member, rfl⟩
  simp only [Function.comp_apply, brought, asked, if_neg lacking, Element.absorb_of_bare bare,
    current, found]

theorem node_of_loadsLinks (loads : filter.normalized.loadsLinks = true) :
    t.node filter = fun row => t.load row .links := by
  funext row
  rw [node, if_pos loads]

theorem node_of_not_loadsLinks (bare : ¬ filter.normalized.loadsLinks = true) :
    t.node filter = ElementRow.toElement := by
  funext row
  rw [node, if_neg bare]

/-- Over tables a snapshot is built without fail, and the tables stay as they are. -/
theorem build_tables (keyed : t.Keyed) (loaders : List Loader) (filter : RelationFilter)
    (usage : Usage) :
    ∃ spent, Snapshot.build Source.tables loaders filter ⟨t, usage⟩ =
      (.ok (t.snapshot loaders filter), ⟨t, spent⟩) := by
  obtain ⟨nodes, selected, ids, rows⟩ := Snapshot.selectNodes_tables t loaders usage
    [] [] rfl (by simp)
  have sameNodes : (t.chosen loaders).map ElementRow.toElement = nodes := by
    rw [List.nil_append] at ids
    rw [chosen, ← ids, map_toElement_rows keyed rows]
  subst sameNodes
  simp only [Snapshot.build, selected, snapshot]
  split
  · rename_i loads
    have stored : ∀ row ∈ t.chosen loaders, row ∈ t.elements :=
      fun row member => ((mem_chosen_iff keyed).1 member).1
    have present : ∀ e ∈ Retrieval.pending ((t.chosen loaders).map ElementRow.toElement) .links,
        (t.row? e.id).isSome = true := by
      intro e member
      obtain ⟨row, isChosen, rfl⟩ := List.mem_map.1 (List.mem_of_mem_filter member)
      exact isSome_row?_iff.2 ⟨row, stored row isChosen, rfl⟩
    obtain ⟨spent, brought⟩ := Retrieval.ensureAll_stored present usage
    rw [brought, brought_links keyed _ stored, node_of_loadsLinks loads]
    exact ⟨spent, rfl⟩
  · rename_i bare
    rw [node_of_not_loadsLinks bare]
    exact ⟨usage, rfl⟩

@[simp] theorem node_id (row : ElementRow) : (t.node filter row).id = row.id := by
  unfold node
  split <;> rfl

@[simp] theorem node_typeId (row : ElementRow) : (t.node filter row).typeId = row.typeId := by
  unfold node
  split <;> rfl

theorem map_node_id (rows : List ElementRow) :
    (rows.map (t.node filter)).map (·.id) = rows.map (·.id) := by
  simp [Function.comp_def]

theorem nodup_chosen (keyed : t.Keyed) (loaders : List Loader) (filter : RelationFilter) :
    (((t.chosen loaders).map (t.node filter)).map (·.id)).Nodup := by
  rw [map_node_id, ids_chosen keyed]
  exact nodup_eraseDups _

theorem wellFormed_snapshot (t : Tables) (loaders : List Loader) (filter : RelationFilter) :
    (t.snapshot loaders filter).WellFormed :=
  (Snapshot.assembled_ofNodes _ _).wellFormed

theorem nodes_snapshot (keyed : t.Keyed) :
    (t.snapshot loaders filter).nodes = (t.chosen loaders).map (t.node filter) :=
  Snapshot.nodes_ofNodes (nodup_chosen keyed loaders filter)

theorem ids_snapshot (keyed : t.Keyed) :
    (t.snapshot loaders filter).ids = (loaders.flatMap t.selection).eraseDups := by
  rw [Snapshot.ids, nodes_snapshot keyed, map_node_id, ids_chosen keyed]

theorem edges_snapshot (keyed : t.Keyed) :
    (t.snapshot loaders filter).edges =
      ((Snapshot.candidates filter.normalized ((t.chosen loaders).map (t.node filter))).filter
        (t.snapshot loaders filter).joins).eraseDups :=
  Snapshot.edges_ofNodes (nodup_chosen keyed loaders filter)

theorem mem_ids_snapshot_iff (keyed : t.Keyed) {id : ElementId} :
    id ∈ (t.snapshot loaders filter).ids ↔
      ∃ row ∈ t.elements, row.id = id ∧ ∃ loader ∈ loaders, loader.Selects row := by
  rw [Snapshot.ids, nodes_snapshot keyed, map_node_id, List.mem_map]
  simp only [mem_chosen_iff keyed]
  constructor
  · rintro ⟨row, ⟨stored, selected⟩, rfl⟩
    exact ⟨row, stored, rfl, selected⟩
  · rintro ⟨row, stored, rfl, selected⟩
    exact ⟨row, ⟨stored, selected⟩, rfl⟩

theorem loadedLinks_load (row : ElementRow) :
    Snapshot.loadedLinks (t.load row .links) = t.linksFrom row.id ++ t.linksTo row.id :=
  rfl

theorem mem_loadedLinks_load {row : ElementRow} {link : Link} :
    link ∈ Snapshot.loadedLinks (t.load row .links) ↔
      link ∈ t.links ∧ (link.source = row.id ∨ link.target = row.id) := by
  simp only [loadedLinks_load, linksFrom, linksTo, List.mem_append, List.mem_filter, beq_iff_eq,
    and_or_left]

/-- Every accepted link between two nodes is seen from its source, so that it becomes an edge. -/
theorem mem_edges_snapshot (keyed : t.Keyed) {edge : Edge} :
    edge ∈ (t.snapshot loaders filter).edges ↔
      (∃ link ∈ t.links, Edge.ofLink link = edge) ∧
        filter.normalized.accepts edge.relation = true ∧
        edge.source ∈ (t.snapshot loaders filter).ids ∧
        edge.target ∈ (t.snapshot loaders filter).ids := by
  have once := nodup_chosen keyed loaders filter
  have sameIds : (t.snapshot loaders filter).ids =
      ((t.chosen loaders).map (t.node filter)).map (·.id) := Snapshot.ids_ofNodes once
  rw [sameIds, snapshot, Snapshot.mem_edges_ofNodes once, Snapshot.mem_candidates_iff]
  constructor
  · rintro ⟨⟨accepted, e, isNode, link, loaded, sameEdge⟩, ends⟩
    obtain ⟨row, -, rfl⟩ := List.mem_map.1 isNode
    rw [node_of_loadsLinks (RelationFilter.loadsLinks_of_accepts accepted),
      mem_loadedLinks_load] at loaded
    exact ⟨⟨link, loaded.1, sameEdge⟩, accepted, ends⟩
  · rintro ⟨⟨link, stored, rfl⟩, accepted, source, target⟩
    rw [map_node_id] at source
    obtain ⟨row, isChosen, isSource⟩ := List.mem_map.1 source
    refine ⟨⟨accepted, _, List.mem_map_of_mem isChosen, link, ?_, rfl⟩, ?_, target⟩
    · rw [node_of_loadsLinks (RelationFilter.loadsLinks_of_accepts accepted), mem_loadedLinks_load]
      exact ⟨stored, .inl isSource.symm⟩
    · rwa [map_node_id]

end Tables
end Registry
