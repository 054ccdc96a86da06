import Registry.Proofs.Snapshot.Stored

/-! # Exact snapshots

A snapshot of tables has a node for each row that some loader selects, and an edge for each stored
link between two of them that its filter accepts. It has nothing else, and nothing twice.
-/

namespace Registry

/-- The element without its facets. -/
def Element.base (e : Element) : Element where
  id := e.id
  uuid := e.uuid
  typeId := e.typeId
  scope := e.scope
  title := e.title

namespace Snapshot

/-- What a graph has to do with the tables it is a snapshot of. -/
structure Exact (g : Snapshot) (t : Tables) (loaders : List Loader) (filter : RelationFilter) :
    Prop where
  /-- Loader by loader, ids ascend; an id that was seen before is passed over. -/
  ids : g.ids = (loaders.flatMap t.selection).eraseDups
  idsOnce : g.ids.Nodup
  stored : ∀ e ∈ g.nodes, ∃ row ∈ t.elements, e.base = row.toElement
  selected : ∀ row ∈ t.elements,
    (∃ e ∈ g.nodes, e.base = row.toElement) ↔ ∃ loader ∈ loaders, loader.Selects row
  edges : ∀ edge, edge ∈ g.edges ↔
    (∃ link ∈ t.links, Edge.ofLink link = edge) ∧
      filter.normalized.accepts edge.relation = true ∧ edge.source ∈ g.ids ∧ edge.target ∈ g.ids
  edgesOnce : g.edges.Nodup

end Snapshot

namespace Tables

variable {t : Tables}

theorem node_base (filter : RelationFilter) (row : ElementRow) :
    (t.node filter row).base = row.toElement := by
  unfold node
  split <;> rfl

theorem exact_snapshot (keyed : t.Keyed) (loaders : List Loader) (filter : RelationFilter) :
    (t.snapshot loaders filter).Exact t loaders filter where
  ids := ids_snapshot keyed
  idsOnce := (wellFormed_snapshot t loaders filter).idsOnce
  stored := by
    intro e isNode
    rw [nodes_snapshot keyed] at isNode
    obtain ⟨row, isChosen, rfl⟩ := List.mem_map.1 isNode
    exact ⟨row, ((mem_chosen_iff keyed).1 isChosen).1, node_base filter row⟩
  selected := by
    intro row stored
    rw [nodes_snapshot keyed]
    constructor
    · rintro ⟨e, isNode, same⟩
      obtain ⟨other, isChosen, rfl⟩ := List.mem_map.1 isNode
      obtain ⟨otherStored, selected⟩ := (mem_chosen_iff keyed).1 isChosen
      have sameId : other.id = row.id := by
        rw [node_base] at same
        exact congrArg Element.id same
      rwa [List.inj_on_of_nodup_map keyed.ids otherStored stored sameId] at selected
    · intro selected
      exact ⟨_, List.mem_map_of_mem ((mem_chosen_iff keyed).2 ⟨stored, selected⟩),
        node_base filter row⟩
  edges _ := mem_edges_snapshot keyed
  edgesOnce := (wellFormed_snapshot t loaders filter).edgesOnce

/-- Building a snapshot of tables succeeds, leaves them as they are, and is exact. -/
theorem build_exact (keyed : t.Keyed) (loaders : List Loader) (filter : RelationFilter)
    (usage : Usage) :
    ∃ g spent, Snapshot.build Source.tables loaders filter ⟨t, usage⟩ = (.ok g, ⟨t, spent⟩) ∧
      g.Exact t loaders filter := by
  obtain ⟨spent, built⟩ := build_tables keyed loaders filter usage
  exact ⟨_, spent, built, exact_snapshot keyed loaders filter⟩

/-- Two elements in one scope and one in another, with a link across and a link of one to itself. -/
def twoScopes : Tables where
  elements := [⟨3, "c", "asset", some 1, none, 0, "Server"⟩,
    ⟨1, "a", "incident_scenario", some 1, none, 0, "Outage"⟩,
    ⟨2, "b", "asset", some 2, none, 0, "Office"⟩]
  links := [⟨1, 3, "rel_incscen_asset", none⟩, ⟨1, 2, "rel_incscen_asset", some "abroad"⟩,
    ⟨3, 3, "rel_incscen_asset", none⟩]

theorem build_exact_twoScopes :
    ∃ g spent, Snapshot.build Source.tables
        [{ types := .ofList ["asset"] }, { types := .ofList [], scope := some 1 }]
        (.only (.ofList ["rel_incscen_asset"])) ⟨twoScopes, {}⟩ = (.ok g, ⟨twoScopes, spent⟩) ∧
      g.Exact twoScopes [{ types := .ofList ["asset"] }, { types := .ofList [], scope := some 1 }]
        (.only (.ofList ["rel_incscen_asset"])) :=
  build_exact ⟨by decide, by decide, by decide, by decide⟩ _ _ _

end Tables
end Registry
