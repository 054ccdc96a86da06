import Registry.Proofs.Dataset.View
import Registry.Proofs.Tables.References
import Mathlib.Algebra.Group.Nat.Defs

/-! # Fetching what was imported

After an import into tables without dangling references every element of the dataset is fetched as
the dataset describes it. Nothing that was there before has to do with the new ids, so that each
facet is read from rows of the dataset alone.
-/

namespace Registry.Tables

variable {t left : Tables}

/-- No row is about the element, or leads to it. -/
structure Unmentioned (t : Tables) (id : ElementId) : Prop where
  row : t.row? id = none
  children : t.elements.filter (·.parent == some id) = []
  properties : t.properties.filter (·.element == id) = []
  permissions : t.permissions.filter (·.element == id) = []
  linksDown : t.links.filter (·.source == id) = []
  linksUp : t.links.filter (·.target == id) = []

theorem Resolved.unmentioned (resolved : t.Resolved) {id : ElementId} (absent : ¬ t.Holds id) :
    t.Unmentioned id := by
  constructor
  · simpa using isSome_row?_iff.not.2 absent
  · refine List.filter_eq_nil_iff.2 fun row member inside => absent ?_
    exact resolved.parents row member id (eq_of_beq inside)
  · exact filter_key_of_none fun row member own => absent (own ▸ resolved.properties row member)
  · exact filter_key_of_none fun row member own => absent (own ▸ resolved.permissions row member)
  · exact filter_key_of_none fun link member own => absent (own ▸ (resolved.links link member).1)
  · exact filter_key_of_none fun link member own => absent (own ▸ (resolved.links link member).2)

/-- Nothing that is there stands in the way of a dataset that is not refused. -/
theorem importDataset_eq {dataset : Dataset} {counts : Counts} (resolved : t.Resolved)
    (imported : t.importDataset dataset = (.ok counts, left)) :
    left = { t with
      elements := t.elements ++ elementRows [] dataset.elements
      properties := t.properties ++ dataset.elements.flatMap DatasetElement.propertyRows
      permissions := dataset.elements.foldl
        (fun rows e => e.permissions.foldl (grantRow e.id) rows) t.permissions
      links := t.links ++ Link.distinct dataset.links } := by
  obtain ⟨faultless, stored, done, rfl⟩ := importDataset_eq_ok imported
  have new := (newIds_of_importElements done).2
  have allNew :
      dataset.links.filter (fun link => !t.links.any (sameLink link)) = dataset.links := by
    refine List.filter_eq_self.2 fun link member => ?_
    -- its source is new, and no stored link starts at an element that is not there
    have ends := Dataset.linkFault?_eq_none_iff.1
      ((Dataset.fault?_eq_none_iff.1 faultless).2.2 link member)
    obtain ⟨e, isElement, isSource⟩ := List.mem_map.1 ends.1
    rw [Bool.not_eq_true', ← Bool.not_eq_true, any_sameLink_iff]
    intro taken
    obtain ⟨old, isStored, same⟩ := List.mem_map.1 taken
    have sameSource : old.source = link.source := congrArg Prod.fst same
    exact new e isElement (isSource.trans sameSource.symm ▸ (resolved.links old isStored).1)
  rw [importElements_eq done, importLinks_eq]
  simp only [allNew]

theorem attributesOf_eq {e : DatasetElement}
    (rows : t.properties.filter (·.element == e.id) = e.propertyRows) :
    t.attributesOf e.id = e.attributes := by
  simp only [attributesOf, DatasetElement.attributes, rows, Attributes.mk.injEq,
    Facet.fetched.injEq]
  refine TextMap.ext_entries ?_
  simp only [TextMap.tabulate, e.groups_propertyRows, TextMap.map, List.map_map]
  refine List.map_congr_left fun group member => ?_
  have isGroup : group ∈ e.properties.entries := List.mem_of_mem_filter member
  simp only [Function.comp_apply, e.propertyRows_of_group isGroup]

/-- Permissions after one more, which takes the place of what its role had. -/
def giveRole (permissions : List Permission) (permission : Permission) : List Permission :=
  permissions.filter (·.role != permission.role) ++ [permission]

/-- Permissions on one element, in the order of their rows. -/
def rightsIn (rows : List PermissionRow) (id : ElementId) : List Permission :=
  (rows.filter (·.element == id)).map (·.permission)

theorem rightsIn_grantRow (rows : List PermissionRow) (id other : ElementId)
    (permission : Permission) :
    rightsIn (grantRow id rows permission) other =
      if id = other then giveRole (rightsIn rows id) permission else rightsIn rows other := by
  unfold rightsIn grantRow giveRole
  rw [List.filter_append, List.map_append, List.filter_filter]
  split
  · rename_i same
    subst same
    rw [List.filter_map, List.filter_filter]
    congr 1
    · congr 1
      refine List.filter_congr fun row _ => ?_
      cases row.element == id <;> simp [bne]
    · simp
  · rename_i different
    have apart : List.filter (·.element == other) [(⟨id, permission⟩ : PermissionRow)] = [] := by
      simp [different]
    rw [apart, List.map_nil, List.append_nil]
    congr 1
    refine List.filter_congr fun row _ => ?_
    by_cases isRow : row.element = other
    · simp [isRow, Ne.symm different]
    · simp [isRow]

theorem rightsIn_foldl_grantRow (id other : ElementId) (permissions : List Permission) :
    ∀ rows, rightsIn (permissions.foldl (grantRow id) rows) other =
      if id = other then permissions.foldl giveRole (rightsIn rows id) else rightsIn rows other := by
  induction permissions with
  | nil =>
      intro rows
      split
      · rename_i same
        rw [same]
        rfl
      · rfl
  | cons permission rest ih =>
      intro rows
      rw [List.foldl_cons, ih, rightsIn_grantRow, rightsIn_grantRow]
      split <;> simp

/-- Only what elements with the id grant counts. -/
theorem rightsIn_foldl (id : ElementId) (elements : List DatasetElement) :
    ∀ rows,
      rightsIn (elements.foldl (fun rows e => e.permissions.foldl (grantRow e.id) rows) rows) id =
        (elements.filter (·.id == id)).foldl (fun rights e => e.permissions.foldl giveRole rights)
          (rightsIn rows id) := by
  induction elements with
  | nil => intro rows; rfl
  | cons e rest ih =>
      intro rows
      rw [List.foldl_cons, ih, rightsIn_foldl_grantRow]
      by_cases same : e.id = id
      · rw [if_pos same, List.filter_cons_of_pos (by simpa using same), List.foldl_cons, same]
      · rw [if_neg same, List.filter_cons_of_neg (by simpa using same)]

theorem mem_foldl_giveRole_iff {permissions : List Permission} {permission : Permission} :
    permission ∈ permissions.foldl giveRole [] ↔
      permissions.findRev? (·.role == permission.role) = some permission := by
  induction permissions using List.reverseRecOn with
  | nil => simp
  | append_singleton permissions last ih =>
      simp only [List.findRev?_eq_find?_reverse] at ih
      simp only [List.foldl_append, List.foldl_cons, List.foldl_nil, giveRole, List.mem_append,
        List.mem_filter, ih, List.mem_singleton, List.findRev?_eq_find?_reverse,
        List.reverse_append, List.reverse_cons, List.reverse_nil, List.nil_append,
        List.cons_append, List.find?_cons]
      -- the last grant decides if it is for this role, else those before it do
      by_cases same : last.role = permission.role
      · simp [same, eq_comm]
      · have differs : permission ≠ last := fun equal => same (equal ▸ rfl)
        have passed : (last.role == permission.role) = false := by simpa using same
        simp [passed, differs, Ne.symm same]

theorem nodup_roles_foldl_giveRole (permissions : List Permission) :
    ((permissions.foldl giveRole []).map (·.role)).Nodup := by
  induction permissions using List.reverseRecOn with
  | nil => simp
  | append_singleton permissions last ih =>
      rw [List.foldl_append, List.foldl_cons, List.foldl_nil, giveRole]
      refine nodup_map_concat (ih.sublist (List.filter_sublist.map _)) fun old => ?_
      obtain ⟨permission, kept, same⟩ := List.mem_map.1 old
      simp [same] at kept

theorem permissionsOf_eq {e : DatasetElement}
    (rows : rightsIn t.permissions e.id = e.permissions.foldl giveRole []) :
    t.permissionsOf e.id = e.rights := by
  have once : ((rightsIn t.permissions e.id).map (·.role)).Nodup := by
    rw [rows]
    exact nodup_roles_foldl_giveRole e.permissions
  have ordered : (t.permissionsOf e.id).Pairwise (·.role < ·.role) :=
    orderBy_strict Permission.role once
  refine eq_of_ascending Permission.role ordered e.rights_ascending fun permission => ?_
  rw [permissionsOf, mem_orderBy, DatasetElement.mem_rights_iff, ← mem_foldl_giveRole_iff, ← rows,
    rightsIn]

theorem ids_elementRows (parent : Option ElementId) (elements : List DatasetElement) :
    ((elementRows [] elements).filter (·.parent == parent)).map (·.id) =
      (elements.filter (·.parent == parent)).map (·.id) := by
  have pairs : (elementRows [] elements).map (fun row => (row.id, row.parent)) =
      elements.map fun e => (e.id, e.parent) := map_elementRows (fun _ _ => rfl) elements []
  have kept := congrArg (fun pairs => (pairs.filter (·.2 == parent)).map Prod.fst) pairs
  simpa [List.filter_map, Function.comp_def] using kept

/-- The children of one parent are numbered in order of the dataset. -/
theorem positions_elementRows {parent : Option ElementId} {elements : List DatasetElement} :
    ∀ earlier, ((elementRows earlier elements).filter (·.parent == parent)).map (·.position) =
      (List.range' (earlier.countP (·.parent == parent)) (elements.countP (·.parent == parent))).map
        Int64.ofNat := by
  induction elements with
  | nil => intro earlier; rfl
  | cons e rest ih =>
      intro earlier
      have sameParent : (rowOf (newElement earlier e) e.id).parent = e.parent := rfl
      rw [elementRows, List.filter_cons, sameParent]
      split
      · rename_i inside
        have counted : (earlier ++ [e]).countP (·.parent == parent) =
            earlier.countP (·.parent == parent) + 1 := by simp [inside]
        have whole : (e :: rest).countP (·.parent == parent) =
            rest.countP (·.parent == parent) + 1 := by simp [inside]
        rw [List.map_cons, ih, counted, whole, List.range'_succ, List.map_cons]
        simp [rowOf, newElement, eq_of_beq inside]
      · rename_i outside
        rw [ih]
        simp [outside]

theorem ofNat_lt_ofNat {a b : Nat} (below : a < b) (small : b < 2 ^ 63) :
    Int64.ofNat a < Int64.ofNat b := by
  rw [Int64.lt_iff_toInt_lt, Int64.toInt_ofNat_of_lt (by omega), Int64.toInt_ofNat_of_lt small]
  omega

theorem childrenOf_eq {dataset : Dataset} {id : ElementId}
    (rows : t.elements.filter (·.parent == some id) =
      (elementRows [] dataset.elements).filter (·.parent == some id))
    (few : (dataset.childrenOf id).length ≤ 2 ^ 63) : t.childrenOf id = dataset.childrenOf id := by
  have size : dataset.elements.countP (·.parent == some id) ≤ 2 ^ 63 := by
    simpa [Dataset.childrenOf, List.countP_eq_length_filter] using few
  have ordered : ((elementRows [] dataset.elements).filter (·.parent == some id)).Pairwise
      (·.position < ·.position) := by
    rw [← List.pairwise_map, positions_elementRows, List.pairwise_map]
    refine (List.pairwise_lt_range' 1).imp_of_mem ?_
    intro a b _ inRange below
    simp only [List.countP_nil, List.mem_range'_1, Nat.zero_add] at inRange
    exact ofNat_lt_ofNat below (by omega)
  rw [Tables.childrenOf, rows, orderBy_of_ascending, ids_elementRows, Dataset.childrenOf]
  refine ordered.imp ?_
  intro a b below
  simp [below]

theorem find?_elementRows {elements : List DatasetElement} {e : DatasetElement}
    (once : (elements.map (·.id)).Nodup) (member : e ∈ elements) :
    ∀ earlier, ∃ before, (elementRows earlier elements).find? (·.id == e.id) =
      some (rowOf (newElement before e) e.id) := by
  induction elements with
  | nil => cases member
  | cons first rest ih =>
      intro earlier
      obtain ⟨new, once⟩ := List.nodup_cons.1 once
      cases member with
      | head => exact ⟨earlier, by simp [elementRows, rowOf]⟩
      | tail _ later =>
          obtain ⟨before, found⟩ := ih once later (earlier ++ [first])
          have different : first.id ≠ e.id := fun same =>
            new (List.mem_map.2 ⟨e, later, same.symm⟩)
          refine ⟨before, ?_⟩
          rw [elementRows, List.find?_cons_of_neg (by simpa [rowOf] using different), found]

/-- An import into tables without dangling references is read back as it was given: each element
    with its properties, parent, children, permissions and links. Children are numbered with 64
    bits, which keeps the order of more of them than any list in memory has. -/
theorem fetch_imported {dataset : Dataset} {counts : Counts} (resolved : t.Resolved)
    (imported : t.importDataset dataset = (.ok counts, left)) {e : DatasetElement}
    (member : e ∈ dataset.elements) (few : (dataset.childrenOf e.id).length ≤ 2 ^ 63) :
    left.fetch e.id .all = .ok (dataset.view e) := by
  obtain ⟨-, stored, done, -⟩ := importDataset_eq_ok imported
  obtain ⟨once, new⟩ := newIds_of_importElements done
  have before := resolved.unmentioned (new e member)
  have own : dataset.elements.filter (·.id == e.id) = [e] := filter_key once member
  -- each facet is read from the old rows, which say nothing of `e`, followed by its own
  obtain ⟨earlier, found⟩ := find?_elementRows once member []
  have all := importDataset_eq resolved imported
  have row : left.row? e.id = some (rowOf (newElement earlier e) e.id) := by
    rw [row?, all, List.find?_append, ← row?, before.row, Option.none_or, found]
  have attributes : left.attributesOf e.id = e.attributes := by
    refine attributesOf_eq ?_
    rw [all, List.filter_append, before.properties, List.nil_append,
      filter_flatMap_key DatasetElement.id fun e _ => e.element_of_mem_propertyRows, own,
      List.flatMap_singleton]
  have children : left.childrenOf e.id = dataset.childrenOf e.id := by
    refine childrenOf_eq ?_ few
    rw [all, List.filter_append, before.children, List.nil_append]
  have permissions : left.permissionsOf e.id = e.rights := by
    refine permissionsOf_eq ?_
    have none : rightsIn t.permissions e.id = [] := by rw [rightsIn, before.permissions]; rfl
    rw [all, rightsIn_foldl, own, none]
    rfl
  have linksDown : left.linksFrom e.id =
      (Link.distinct dataset.links).filter (·.source == e.id) := by
    rw [linksFrom, all, List.filter_append, before.linksDown, List.nil_append]
  have linksUp : left.linksTo e.id = (Link.distinct dataset.links).filter (·.target == e.id) := by
    rw [linksTo, all, List.filter_append, before.linksUp, List.nil_append]
  have loaded : left.load (rowOf (newElement earlier e) e.id) .all = dataset.view e := by
    simp only [load, FacetSet.contains_all, if_true, Dataset.view]
    rw [show (rowOf (newElement earlier e) e.id).id = e.id from rfl, attributes, children,
      permissions, linksDown, linksUp]
    rfl
  rw [fetch, row, ← loaded]

/-- An organization inside itself with two assets, an empty group, a role that is given rights
    twice and a link that is given twice. -/
def organization : DatasetElement where
  id := 5
  typeId := "organization"
  parent := some 5
  title := "Org"
  properties := TextMap.ofList [("site", TextMap.ofList [("town", "B"), ("street", "A")]),
    ("legal", .empty)]
  permissions := [⟨"reader", true, true⟩, ⟨"admin", true, true⟩, ⟨"reader", true, false⟩]

def organizationDataset : Dataset where
  elements := [organization, { id := 4, typeId := "asset", parent := some 5 },
    { id := 3, typeId := "asset", parent := some 5 }]
  links := [⟨5, 4, "uses", some "first"⟩, ⟨3, 5, "serves", none⟩, ⟨5, 4, "uses", some "again"⟩]

/-- Tables with an element that is linked to itself. -/
def occupied : Tables :=
  (fresh.importDataset {
    elements := [{ id := 1, typeId := "asset" }], links := [⟨1, 1, "uses", none⟩] }).2

theorem fetch_imported_organization :
    occupied.Resolved ∧ organization ∈ organizationDataset.elements ∧
      (organizationDataset.childrenOf 5).length ≤ 2 ^ 63 ∧
      ∃ counts left, occupied.importDataset organizationDataset = (.ok counts, left) ∧
        left.fetch 5 .all = .ok {
          id := 5, uuid := "element-5", typeId := "organization", scope := none, title := "Org"
          attributes := .fetched ⟨.fetched (TextMap.ofList
            [("site", ⟨.fetched [⟨"street", "A"⟩, ⟨"town", "B"⟩]⟩)])⟩
          parent := .fetched (some 5)
          children := .fetched [5, 4, 3]
          permissions := .fetched [⟨"admin", true, true⟩, ⟨"reader", true, false⟩]
          linksDown := .fetched [⟨5, 4, "uses", some "first"⟩]
          linksUp := .fetched [⟨3, 5, "serves", none⟩] } := by
  have resolved : occupied.Resolved := resolved_fresh.importDataset _
  have member : organization ∈ organizationDataset.elements := List.mem_cons_self
  have few : (organizationDataset.childrenOf 5).length ≤ 2 ^ 63 := by decide
  have imported : occupied.importDataset organizationDataset =
      (.ok ⟨4, 2, 3, 2⟩, (occupied.importDataset organizationDataset).2) :=
    Prod.ext (by decide +kernel) rfl
  refine ⟨resolved, member, few, _, _, imported, ?_⟩
  refine (fetch_imported resolved imported member few).trans (congrArg Except.ok ?_)
  decide +kernel

end Registry.Tables
