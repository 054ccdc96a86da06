import Registry.Proofs.Rows
import Registry.Tables.Import
import Registry.Tables.Removal

/-! # Keys

The constraints of the tables: an element has an id and a uuid of its own, a link is told from the
others by its ends and its relation, a permission by its element and its role. Every write keeps
them.
-/

namespace Registry

/-- What two links must not have in common. -/
def Link.key (link : Link) : ElementId × ElementId × String :=
  (link.source, link.target, link.relation)

/-- What two permissions must not have in common. -/
def PermissionRow.key (row : PermissionRow) : ElementId × String :=
  (row.element, row.permission.role)

namespace Tables

/-- No two rows of a table share a key. -/
structure Keyed (t : Tables) : Prop where
  ids : (t.elements.map (·.id)).Nodup
  uuids : (t.elements.map (·.uuid)).Nodup
  links : (t.links.map Link.key).Nodup
  permissions : (t.permissions.map PermissionRow.key).Nodup

/-- Some row has the id. -/
def Holds (t : Tables) (id : ElementId) : Prop :=
  ∃ row ∈ t.elements, row.id = id

theorem holds_iff {t : Tables} {id : ElementId} : t.Holds id ↔ id ∈ t.elements.map (·.id) := by
  simp [Holds]

theorem isSome_row?_iff {t : Tables} {id : ElementId} : (t.row? id).isSome = true ↔ t.Holds id := by
  simp [row?, Holds]

theorem sameLink_iff (a b : Link) : sameLink a b = true ↔ a.key = b.key := by
  simp [sameLink, Link.key, and_assoc]

/-- The row of a new element, under the id that it gets. -/
def rowOf (e : NewElement) (id : ElementId) : ElementRow where
  id := id
  uuid := e.uuid
  typeId := e.typeId
  scope := e.scope
  parent := e.parent
  position := e.position
  title := e.title

/-- An element is stored if its id and its uuid are new, and is refused otherwise. -/
theorem insertElement_cases (t : Tables) (e : NewElement) :
    (∃ error, t.insertElement e = (.error error, t)) ∨
      e.id.getD t.nextId ∉ t.elements.map (·.id) ∧ e.uuid ∉ t.elements.map (·.uuid) ∧
        t.insertElement e = (.ok (e.id.getD t.nextId),
          { t with elements := t.elements ++ [rowOf e (e.id.getD t.nextId)] }) := by
  simp only [insertElement, any_key_iff]
  by_cases oldId : e.id.getD t.nextId ∈ t.elements.map (·.id)
  · exact .inl ⟨_, if_pos oldId⟩
  · rw [if_neg oldId]
    by_cases oldUuid : e.uuid ∈ t.elements.map (·.uuid)
    · exact .inl ⟨_, if_pos oldUuid⟩
    · exact .inr ⟨oldId, oldUuid, if_neg oldUuid⟩

theorem insertElement_eq_ok_iff {t after : Tables} {e : NewElement} {id : ElementId} :
    t.insertElement e = (.ok id, after) ↔
      id = e.id.getD t.nextId ∧ id ∉ t.elements.map (·.id) ∧ e.uuid ∉ t.elements.map (·.uuid) ∧
        after = { t with elements := t.elements ++ [rowOf e id] } := by
  simp only [Tables.insertElement, any_key_iff]
  by_cases oldId : e.id.getD t.nextId ∈ t.elements.map (·.id)
  · rw [if_pos oldId]
    constructor
    · intro refused
      cases refused
    · rintro ⟨rfl, newId, -⟩
      exact absurd oldId newId
  · rw [if_neg oldId]
    by_cases oldUuid : e.uuid ∈ t.elements.map (·.uuid)
    · rw [if_pos oldUuid]
      constructor
      · intro refused
        cases refused
      · rintro ⟨-, -, newUuid, -⟩
        exact absurd oldUuid newUuid
    · rw [if_neg oldUuid]
      constructor
      · intro done
        cases done
        exact ⟨rfl, oldId, oldUuid, rfl⟩
      · rintro ⟨rfl, -, -, rfl⟩
        rfl

theorem any_sameLink_iff {t : Tables} {link : Link} :
    t.links.any (sameLink link) = true ↔ link.key ∈ t.links.map Link.key := by
  simp only [List.any_eq_true, sameLink_iff, List.mem_map, @eq_comm _ link.key]

/-- A link is added if its key is new, and is passed over otherwise. -/
theorem insertLink_cases (t : Tables) (link : Link) :
    link.key ∈ t.links.map Link.key ∧ t.insertLink link = (false, t) ∨
      link.key ∉ t.links.map Link.key ∧
        t.insertLink link = (true, { t with links := t.links ++ [link] }) := by
  by_cases old : t.links.any (sameLink link) = true
  · exact .inl ⟨any_sameLink_iff.1 old, if_pos old⟩
  · exact .inr ⟨any_sameLink_iff.not.1 old, if_neg old⟩

namespace Keyed

variable {t : Tables}

theorem row?_eq_some_iff (keyed : t.Keyed) {id : ElementId} {row : ElementRow} :
    t.row? id = some row ↔ row ∈ t.elements ∧ row.id = id :=
  find?_key_eq_some_iff keyed.ids

theorem insertElement (keyed : t.Keyed) (e : NewElement) : (t.insertElement e).2.Keyed := by
  rcases t.insertElement_cases e with ⟨error, refused⟩ | ⟨newId, newUuid, stored⟩
  · rwa [refused]
  · rw [stored]
    exact { keyed with
      ids := nodup_map_concat keyed.ids newId
      uuids := nodup_map_concat keyed.uuids newUuid }

theorem insertLink (keyed : t.Keyed) (link : Link) : (t.insertLink link).2.Keyed := by
  rcases t.insertLink_cases link with ⟨-, same⟩ | ⟨newKey, added⟩
  · rwa [same]
  · rw [added]
    exact { keyed with links := nodup_map_concat keyed.links newKey }

theorem grant (keyed : t.Keyed) (id : ElementId) (permission : Permission) :
    (t.grant id permission).Keyed := by
  simp only [Tables.grant]
  refine { keyed with permissions := nodup_map_concat ?_ fun old => ?_ }
  · exact keyed.permissions.sublist (List.filter_sublist.map _)
  · obtain ⟨stored, member, same⟩ := List.mem_map.1 old
    have other := (List.mem_filter.1 member).2
    simp_all [PermissionRow.key]

theorem without (keyed : t.Keyed) (ids : List ElementId) : (t.without ids).Keyed where
  ids := keyed.ids.sublist (List.filter_sublist.map _)
  uuids := keyed.uuids.sublist (List.filter_sublist.map _)
  links := keyed.links.sublist (List.filter_sublist.map _)
  permissions := keyed.permissions.sublist (List.filter_sublist.map _)

theorem remove (keyed : t.Keyed) (id : ElementId) : (t.remove id).2.Keyed := by
  simp only [Tables.remove]
  split
  · exact keyed.without _
  · exact keyed

end Keyed

/-- What no write of an import of the dataset breaks. -/
structure StableUnder (dataset : Dataset) (P : Tables → Prop) : Prop where
  insertElement : ∀ t earlier, ∀ e ∈ dataset.elements, P t →
    P (t.insertElement (newElement earlier e)).2
  addProperty : ∀ t, ∀ e ∈ dataset.elements, ∀ group key value, P t →
    P (t.addProperty e.id group key value)
  grant : ∀ t, ∀ e ∈ dataset.elements, ∀ permission, P t → P (t.grant e.id permission)
  insertLink : ∀ t, ∀ link ∈ dataset.links, P t → P (t.insertLink link).2

namespace StableUnder

variable {dataset : Dataset} {P : Tables → Prop}

theorem addProperties (stable : StableUnder dataset P) {t : Tables} (holds : P t)
    {e : DatasetElement} (member : e ∈ dataset.elements) (properties : TextMap (TextMap String)) :
    P (t.addProperties e.id properties) := by
  simp only [Tables.addProperties]
  refine List.foldlRecOn _ _ holds fun t holds group _ => ?_
  exact List.foldlRecOn _ _ holds fun t holds entry _ => stable.addProperty t e member _ _ _ holds

theorem importElements (stable : StableUnder dataset P) {elements : List DatasetElement}
    (own : elements ⊆ dataset.elements) :
    ∀ {t : Tables} (earlier : List DatasetElement), P t →
      P (Tables.importElements earlier elements t).2 := by
  induction elements with
  | nil => intro t earlier holds; exact holds
  | cons e rest ih =>
      intro t earlier holds
      obtain ⟨member, own⟩ := List.cons_subset.1 own
      have inserted := stable.insertElement t earlier e member holds
      simp only [Tables.importElements]
      split
      · rename_i refused
        rwa [refused] at inserted
      · rename_i id t done
        rw [done] at inserted
        obtain ⟨rfl, -⟩ := insertElement_eq_ok_iff.1 done
        refine ih own _ (List.foldlRecOn _ _ (stable.addProperties inserted member _) ?_)
        intro t holds permission _
        exact stable.grant t e member permission holds

theorem importDataset (stable : StableUnder dataset P) {t : Tables} (holds : P t) :
    P (t.importDataset dataset).2 := by
  simp only [Tables.importDataset, transaction]
  split
  · exact holds
  · split
    · rename_i changed done
      split at done
      · simp at done
      · rename_i imported
        have elements := stable.importElements (List.Subset.refl _) [] holds
        rw [imported] at elements
        cases done
        exact List.foldlRecOn _ _ elements fun t holds link member =>
          stable.insertLink t link member holds
    · exact holds

end StableUnder

theorem stableUnder_keyed (dataset : Dataset) : StableUnder dataset Keyed where
  insertElement _ _ _ _ keyed := keyed.insertElement _
  addProperty _ _ _ _ _ _ keyed := { keyed with }
  grant _ _ _ permission keyed := keyed.grant _ permission
  insertLink _ link _ keyed := keyed.insertLink link

/-- Tables that the write operations lead to, failing ones included. -/
inductive Reachable : Tables → Prop
  | fresh : Reachable fresh
  | insertElement {t : Tables} (before : Reachable t) (e : NewElement) :
      Reachable (t.insertElement e).2
  | addProperty {t : Tables} (before : Reachable t) (id : ElementId) (group key value : String) :
      Reachable (t.addProperty id group key value)
  | insertLink {t : Tables} (before : Reachable t) (link : Link) : Reachable (t.insertLink link).2
  | grant {t : Tables} (before : Reachable t) (id : ElementId) (permission : Permission) :
      Reachable (t.grant id permission)
  | setMetadata {t : Tables} (before : Reachable t) (key value : String) :
      Reachable (t.setMetadata key value)
  | remove {t : Tables} (before : Reachable t) (id : ElementId) : Reachable (t.remove id).2
  | importDataset {t : Tables} (before : Reachable t) (dataset : Dataset) :
      Reachable (t.importDataset dataset).2

/-- Whatever was written, the constraints hold. -/
theorem Reachable.keyed {t : Tables} (reachable : Reachable t) : t.Keyed := by
  induction reachable with
  | fresh => exact ⟨List.nodup_nil, List.nodup_nil, List.nodup_nil, List.nodup_nil⟩
  | insertElement _ e ih => exact ih.insertElement e
  | addProperty _ _ _ _ _ ih => exact { ih with }
  | insertLink _ link ih => exact ih.insertLink link
  | grant _ id permission ih => exact ih.grant id permission
  | setMetadata _ _ _ ih => exact { ih with }
  | remove _ id ih => exact ih.remove id
  | importDataset _ dataset ih => exact (stableUnder_keyed dataset).importDataset ih

end Tables
end Registry
