import Registry.Proofs.Retrieval.Stored
import Registry.Proofs.Tables.Keys

/-! # What the tables tell of an element

Each facet of an element is said by the rows of one table. An element that is loaded from the tables
has in each facet that was asked for what these rows say, no more and no less.
-/

namespace Registry.Tables

variable {t : Tables} {id : ElementId}

/-- The facet of this kind is loaded on `e`, with what the rows of the tables say of the element
    `id`. -/
def Tells (t : Tables) (id : ElementId) (e : Element) : FacetKind → Prop
  | .attributes => ∃ groups, e.attributes = .fetched ⟨.fetched groups⟩ ∧
      ∀ name group, groups.get? name = some group ↔
        ∃ properties, properties ≠ [] ∧ group = ⟨.fetched properties⟩ ∧ properties =
          (t.properties.filter fun row => row.element = id ∧ row.group = name).map (·.property)
  | .children => ∃ rows : List ElementRow, e.children = .fetched (rows.map (·.id)) ∧
      rows.Perm (t.elements.filter (·.parent = some id)) ∧
      rows.Pairwise fun a b => a.position < b.position ∨ a.position = b.position ∧ a.id ≤ b.id
  | .permissions => ∃ permissions, e.permissions = .fetched permissions ∧
      (∀ permission, permission ∈ permissions ↔ ⟨id, permission⟩ ∈ t.permissions) ∧
      permissions.Pairwise (·.role < ·.role)
  | .parent => ∃ row ∈ t.elements, row.id = id ∧ e.parent = .fetched row.parent
  | .linksDown => e.linksDown = .fetched (t.links.filter (·.source = id))
  | .linksUp => e.linksUp = .fetched (t.links.filter (·.target = id))

theorem attributesOf_tells (t : Tables) (id : ElementId) :
    ∃ groups, t.attributesOf id = ⟨.fetched groups⟩ ∧
      ∀ name group, groups.get? name = some group ↔
        ∃ properties, properties ≠ [] ∧ group = ⟨.fetched properties⟩ ∧ properties =
          (t.properties.filter fun row => row.element = id ∧ row.group = name).map (·.property) := by
  refine ⟨_, rfl, fun name group => ?_⟩
  have rows : (t.properties.filter (·.element == id)).filter (·.group == name) =
      t.properties.filter fun row => row.element = id ∧ row.group = name := by
    rw [List.filter_filter]
    refine List.filter_congr fun row _ => ?_
    rw [Bool.eq_iff_iff]
    simp [and_comm]
  -- a group is listed iff some row belongs to it
  have listed : name ∈ (t.properties.filter (·.element == id)).map (·.group) ↔
      t.properties.filter (fun row => row.element = id ∧ row.group = name) ≠ [] := by
    rw [← rows, ne_eq, List.filter_eq_nil_iff]
    simp [and_assoc]
  rw [TextMap.get?_tabulate_eq_some_iff, TextSet.mem_ofList, listed, rows]
  constructor
  · rintro ⟨some, rfl⟩
    exact ⟨_, List.map_eq_nil_iff.not.2 some, rfl, rfl⟩
  · rintro ⟨properties, some, rfl, rfl⟩
    exact ⟨List.map_eq_nil_iff.not.1 some, rfl⟩

theorem childrenOf_tells (t : Tables) (id : ElementId) :
    ∃ rows : List ElementRow, t.childrenOf id = rows.map (·.id) ∧
      rows.Perm (t.elements.filter (·.parent = some id)) ∧
      rows.Pairwise fun a b => a.position < b.position ∨ a.position = b.position ∧ a.id ≤ b.id := by
  have sameRows : t.elements.filter (·.parent == some id) =
      t.elements.filter (·.parent = some id) :=
    List.filter_congr fun row _ => by rw [Bool.eq_iff_iff]; simp
  refine ⟨_, rfl, ?_, ?_⟩
  · rw [← sameRows]
    exact orderBy_perm _ _
  · refine (orderBy_ascending (fun a b => ?_) (fun a b c => ?_) _).imp (by simp)
    all_goals
      simp only [Bool.or_eq_true, Bool.and_eq_true, decide_eq_true_eq, beq_iff_eq,
        Int64.lt_iff_toInt_lt, Int64.le_iff_toInt_le, ← Int64.toInt_inj]
      omega

theorem permissionsOf_tells (keyed : t.Keyed) (id : ElementId) :
    (∀ permission, permission ∈ t.permissionsOf id ↔ ⟨id, permission⟩ ∈ t.permissions) ∧
      (t.permissionsOf id).Pairwise (·.role < ·.role) := by
  have once : (((t.permissions.filter (·.element == id)).map (·.permission)).map
      (·.role)).Nodup := by
    rw [List.map_map]
    have keys := keyed.permissions.sublist
      ((List.filter_sublist (p := fun row : PermissionRow => row.element == id)).map _)
    refine List.Nodup.of_map (id, ·) ?_
    rw [List.map_map]
    refine (List.map_congr_left fun row member => ?_) ▸ keys
    have own : row.element = id := by simpa using (List.mem_filter.1 member).2
    simp [PermissionRow.key, own]
  refine ⟨fun permission => ?_, orderBy_strict Permission.role once⟩
  simp only [permissionsOf, mem_orderBy, List.mem_map, List.mem_filter, beq_iff_eq]
  constructor
  · rintro ⟨⟨element, granted⟩, ⟨member, rfl⟩, rfl⟩
    exact member
  · intro member
    exact ⟨_, ⟨member, rfl⟩, rfl⟩

/-- A row that is loaded tells of itself, in each facet that was asked for. -/
theorem load_tells (keyed : t.Keyed) {row : ElementRow} (stored : row ∈ t.elements)
    {facets : FacetSet} {kind : FacetKind} (asked : facets.contains kind = true) :
    t.Tells row.id (t.load row facets) kind := by
  have linksOf (side : Link → ElementId) : t.links.filter (side · == row.id) =
      t.links.filter (side · = row.id) :=
    List.filter_congr fun link _ => by rw [Bool.eq_iff_iff]; simp
  cases kind with
  | attributes =>
      obtain ⟨groups, same, tells⟩ := t.attributesOf_tells row.id
      refine ⟨groups, ?_, tells⟩
      simp only [load, asked, if_true, same]
  | children =>
      obtain ⟨rows, same, tells⟩ := t.childrenOf_tells row.id
      refine ⟨rows, ?_, tells⟩
      simp only [load, asked, if_true, same]
  | permissions =>
      refine ⟨t.permissionsOf row.id, ?_, permissionsOf_tells keyed row.id⟩
      simp only [load, asked, if_true]
  | parent =>
      refine ⟨row, stored, rfl, ?_⟩
      simp only [load, asked, if_true]
  | linksDown =>
      simp only [Tells, load, asked, if_true, linksFrom, linksOf]
  | linksUp =>
      simp only [Tells, load, asked, if_true, linksTo, linksOf]

/-- An element takes over what a fresh copy of it was loaded with. -/
theorem tells_absorb {e fresh : Element} {kind : FacetKind} (loaded : fresh.has kind = true)
    (tells : t.Tells id fresh kind) : t.Tells id (e.absorb fresh) kind := by
  cases kind <;>
    · simp only [Element.has] at loaded
      simpa only [Tells, Element.absorb, Facet.refresh, loaded, Bool.not_true, Bool.false_and,
        Bool.false_eq_true, if_false] using tells

end Registry.Tables
