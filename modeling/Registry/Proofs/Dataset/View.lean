import Registry.Proofs.Tables.Import

/-! # Elements as a dataset describes them

What a dataset says of one of its elements, put together as an element with all its facets: the
groups that hold something, the last word on each role, the first of links that say the same.
-/

namespace Registry

theorem TextSet.toList_ofList {l l' : List String} (ascending : l'.Pairwise (· < ·))
    (same : ∀ s, s ∈ l ↔ s ∈ l') : (TextSet.ofList l).toList = l' :=
  eq_of_ascending id (TextSet.ofList l).ascending ascending fun s => by
    rw [TextSet.mem_ofList, same]

namespace DatasetElement

/-- The groups that are not empty, each with its values in order of their keys. -/
def attributes (e : DatasetElement) : Attributes where
  groups := .fetched ((e.properties.filter (!·.isEmpty)).map fun values =>
    { properties := .fetched (values.entries.map fun entry => ⟨entry.1, entry.2⟩) })

/-- What each role was given last, in order of the roles. -/
def rights (e : DatasetElement) : List Permission :=
  (TextSet.ofList (e.permissions.map (·.role))).toList.filterMap fun role =>
    e.permissions.findRev? (·.role == role)

theorem element_of_mem_propertyRows (e : DatasetElement) :
    ∀ row ∈ e.propertyRows, row.element = e.id := by
  intro row member
  obtain ⟨group, -, inGroup⟩ := List.mem_flatMap.1 member
  obtain ⟨entry, -, rfl⟩ := List.mem_map.1 inGroup
  rfl

theorem propertyRows_of_group (e : DatasetElement) {group : String × TextMap String}
    (member : group ∈ e.properties.entries) :
    (e.propertyRows.filter (·.group == group.1)).map (·.property) =
      group.2.entries.map fun entry => ⟨entry.1, entry.2⟩ := by
  unfold propertyRows
  rw [filter_flatMap_key Prod.fst, filter_key e.properties.nodup_keys member]
  · simp [Function.comp_def]
  · intro other _ row isRow
    obtain ⟨entry, -, rfl⟩ := List.mem_map.1 isRow
    rfl

/-- A group leaves a trace in the rows iff it is not empty. -/
theorem groups_propertyRows (e : DatasetElement) :
    (TextSet.ofList (e.propertyRows.map (·.group))).toList =
      (e.properties.filter (!·.isEmpty)).entries.map (·.1) := by
  refine TextSet.toList_ofList (List.pairwise_map.2 (TextMap.ascending _)) fun s => ?_
  simp only [propertyRows, TextMap.filter, TextMap.isEmpty, List.mem_map, List.mem_flatMap,
    List.mem_filter, Bool.not_eq_true', List.isEmpty_eq_false_iff_exists_mem]
  constructor
  · rintro ⟨_, ⟨group, member, entry, isEntry, rfl⟩, rfl⟩
    exact ⟨group, ⟨member, entry, isEntry⟩, rfl⟩
  · rintro ⟨group, ⟨member, entry, isEntry⟩, rfl⟩
    exact ⟨_, ⟨group, member, entry, isEntry, rfl⟩, rfl⟩

theorem of_findRev?_role {permissions : List Permission} {role : String} {permission : Permission}
    (found : permissions.findRev? (·.role == role) = some permission) :
    permission ∈ permissions ∧ permission.role = role := by
  rw [List.findRev?_eq_find?_reverse] at found
  have isRole : (permission.role == role) = true :=
    List.find?_some (p := fun permission : Permission => permission.role == role) found
  exact ⟨List.mem_reverse.1 (List.mem_of_find?_eq_some found), eq_of_beq isRole⟩

theorem rights_ascending (e : DatasetElement) : e.rights.Pairwise (·.role < ·.role) := by
  refine List.pairwise_filterMap.2 ((TextSet.ascending _).imp ?_)
  intro role role' below permission found permission' found'
  rwa [(of_findRev?_role found).2, (of_findRev?_role found').2]

theorem mem_rights_iff {e : DatasetElement} {permission : Permission} :
    permission ∈ e.rights ↔
      e.permissions.findRev? (·.role == permission.role) = some permission := by
  simp only [rights, List.mem_filterMap, TextSet.mem_ofList, List.mem_map]
  constructor
  · rintro ⟨role, -, found⟩
    rwa [(of_findRev?_role found).2]
  · intro found
    exact ⟨permission.role, ⟨permission, (of_findRev?_role found).1, rfl⟩, found⟩

end DatasetElement

namespace Dataset

/-- The elements whose parent is `id`, in order of the dataset. -/
def childrenOf (dataset : Dataset) (id : ElementId) : List ElementId :=
  (dataset.elements.filter (·.parent == some id)).map (·.id)

/-- An element with all that the dataset says of it. -/
def view (dataset : Dataset) (e : DatasetElement) : Element where
  id := e.id
  uuid := e.effectiveUuid
  typeId := e.typeId
  scope := e.scope
  title := e.title
  attributes := .fetched e.attributes
  parent := .fetched e.parent
  children := .fetched (dataset.childrenOf e.id)
  permissions := .fetched e.rights
  linksDown := .fetched ((Link.distinct dataset.links).filter (·.source == e.id))
  linksUp := .fetched ((Link.distinct dataset.links).filter (·.target == e.id))

end Dataset
end Registry
