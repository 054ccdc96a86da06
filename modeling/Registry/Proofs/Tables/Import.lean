import Registry.Proofs.Tables.Keys

/-! # What an import stores

A dataset that is not refused is stored row by row, after the rows that were there. What comes of it
is said here for each table as a whole.
-/

namespace Registry

/-- The properties of the element as rows, in order of groups and keys. -/
def DatasetElement.propertyRows (e : DatasetElement) : List PropertyRow :=
  e.properties.entries.flatMap fun group =>
    group.2.entries.map fun entry => ⟨e.id, group.1, ⟨entry.1, entry.2⟩⟩

/-- Links that differ in their keys, each where its key comes first. -/
def Link.distinct (links : List Link) : List Link :=
  links.eraseDupsBy fun a b => a.key == b.key

namespace Tables

variable {t left : Tables}

/-- The rows of some elements, `earlier` being those before them. -/
def elementRows (earlier : List DatasetElement) : List DatasetElement → List ElementRow
  | [] => []
  | e :: rest => rowOf (newElement earlier e) e.id :: elementRows (earlier ++ [e]) rest

theorem map_elementRows {α : Type} {f : ElementRow → α} {g : DatasetElement → α}
    (same : ∀ earlier e, f (rowOf (newElement earlier e) e.id) = g e)
    (elements : List DatasetElement) :
    ∀ earlier, (elementRows earlier elements).map f = elements.map g := by
  induction elements with
  | nil => intro earlier; rfl
  | cons e rest ih => intro earlier; rw [elementRows, List.map_cons, same, ih, List.map_cons]

/-- Permission rows after a grant. -/
def grantRow (id : ElementId) (rows : List PermissionRow) (permission : Permission) :
    List PermissionRow :=
  rows.filter (fun row => !(row.element == id && row.permission.role == permission.role)) ++
    [⟨id, permission⟩]

theorem foldl_grant (id : ElementId) (permissions : List Permission) :
    ∀ t : Tables, permissions.foldl (fun t p => t.grant id p) t =
      { t with permissions := permissions.foldl (grantRow id) t.permissions } := by
  induction permissions with
  | nil => intro t; rfl
  | cons permission rest ih =>
      intro t
      rw [List.foldl_cons, ih]
      rfl

theorem foldl_addProperty (id : ElementId) (group : String) (entries : List (String × String)) :
    ∀ t : Tables, entries.foldl (fun t e => t.addProperty id group e.1 e.2) t =
      { t with
        properties := t.properties ++ entries.map fun e => ⟨id, group, ⟨e.1, e.2⟩⟩ } := by
  induction entries with
  | nil => intro t; simp
  | cons entry rest ih =>
      intro t
      rw [List.foldl_cons, ih]
      simp [addProperty]

theorem addProperties_eq (t : Tables) (e : DatasetElement) :
    t.addProperties e.id e.properties = { t with properties := t.properties ++ e.propertyRows } := by
  unfold addProperties DatasetElement.propertyRows
  generalize e.properties.entries = groups
  induction groups generalizing t with
  | nil => simp
  | cons group rest ih =>
      rw [List.foldl_cons, foldl_addProperty, ih]
      simp

/-- The tables once an element of a dataset is stored, with its properties and permissions. -/
def withElement (t : Tables) (earlier : List DatasetElement) (e : DatasetElement) : Tables :=
  { t with
    elements := t.elements ++ [rowOf (newElement earlier e) e.id]
    properties := t.properties ++ e.propertyRows
    permissions := e.permissions.foldl (grantRow e.id) t.permissions }

theorem importElements_cons_eq_ok_iff {earlier : List DatasetElement} {e : DatasetElement}
    {rest : List DatasetElement} :
    importElements earlier (e :: rest) t = (.ok (), left) ↔
      ¬ t.Holds e.id ∧ e.effectiveUuid ∉ t.elements.map (·.uuid) ∧
        importElements (earlier ++ [e]) rest (t.withElement earlier e) = (.ok (), left) := by
  have stored : ∀ inserted, { t with elements := inserted }.addProperties e.id e.properties =
      { t with elements := inserted, properties := t.properties ++ e.propertyRows } :=
    fun inserted => addProperties_eq _ e
  rw [importElements, holds_iff]
  split
  · rename_i error after refused
    constructor
    · intro done
      cases done
    · rintro ⟨newId, newUuid, -⟩
      have accepted := (insertElement_eq_ok_iff (t := t) (e := newElement earlier e)).2
        ⟨rfl, newId, newUuid, rfl⟩
      rw [refused] at accepted
      cases accepted
  · rename_i id after inserted
    obtain ⟨rfl, newId, newUuid, rfl⟩ := insertElement_eq_ok_iff.1 inserted
    rw [show (newElement earlier e).id.getD t.nextId = e.id from rfl] at newId ⊢
    simp only [stored, foldl_grant]
    exact ⟨fun done => ⟨newId, newUuid, done⟩, fun done => done.2.2⟩

/-- Elements that are not refused are stored with their properties and permissions, after what was
    there. -/
theorem importElements_eq {elements : List DatasetElement} :
    ∀ {t : Tables} {earlier : List DatasetElement},
      importElements earlier elements t = (.ok (), left) →
      left = { t with
        elements := t.elements ++ elementRows earlier elements
        properties := t.properties ++ elements.flatMap DatasetElement.propertyRows
        permissions := elements.foldl (fun rows e => e.permissions.foldl (grantRow e.id) rows)
          t.permissions } := by
  induction elements with
  | nil =>
      intro t earlier done
      cases done
      simp [elementRows]
  | cons e rest ih =>
      intro t earlier done
      rw [ih (importElements_cons_eq_ok_iff.1 done).2.2]
      simp [elementRows, withElement]

/-- Elements are stored if neither their ids nor their uuids clash, with those that are there or
    among themselves. -/
theorem importElements_accepts_iff {elements : List DatasetElement} :
    ∀ {t : Tables} {earlier : List DatasetElement},
      (∃ left, importElements earlier elements t = (.ok (), left)) ↔
        NewKeys (t.elements.map (·.id)) (elements.map (·.id)) ∧
          NewKeys (t.elements.map (·.uuid)) (elements.map (·.effectiveUuid)) := by
  induction elements with
  | nil => simp [importElements, newKeys_nil]
  | cons e rest ih =>
      intro t earlier
      have inserted : (t.withElement earlier e).elements =
          t.elements ++ [rowOf (newElement earlier e) e.id] := rfl
      simp only [importElements_cons_eq_ok_iff, exists_and_left, ih, holds_iff, inserted,
        List.map_append, List.map_cons, List.map_nil, newKeys_concat_iff, newKeys_cons_iff]
      exact and_assoc.symm.trans and_and_and_comm

theorem newIds_of_importElements {elements : List DatasetElement} {earlier : List DatasetElement}
    (done : importElements earlier elements t = (.ok (), left)) :
    (elements.map (·.id)).Nodup ∧ ∀ e ∈ elements, ¬ t.Holds e.id := by
  obtain ⟨once, new⟩ := (importElements_accepts_iff.1 ⟨left, done⟩).1
  exact ⟨once, fun e member => holds_iff.not.2 (new e.id (List.mem_map_of_mem member))⟩

theorem sameLink_eq (a b : Link) : sameLink a b = (a.key == b.key) := by
  rw [Bool.eq_iff_iff, sameLink_iff, beq_iff_eq]

/-- Links are added as far as their keys are new. -/
theorem importLinks_eq (links : List Link) :
    ∀ t : Tables, t.importLinks links =
      { t with
        links := t.links ++
          Link.distinct (links.filter fun link => !t.links.any (sameLink link)) } := by
  induction links with
  | nil => intro t; simp [importLinks, Link.distinct]
  | cons link rest ih =>
      intro t
      rw [importLinks, List.foldl_cons, ← importLinks, ih]
      rcases t.insertLink_cases link with ⟨oldKey, same⟩ | ⟨newKey, added⟩
      · rw [List.filter_cons_of_neg (by simpa using any_sameLink_iff.2 oldKey), same]
      -- later links with the same key are old once the link is added
      · have kept : rest.filter (fun other => !(t.links ++ [link]).any (sameLink other)) =
            (rest.filter fun other => !t.links.any (sameLink other)).filter
              fun other => (other.key == link.key) = false := by
          rw [List.filter_filter]
          refine List.filter_congr fun other _ => ?_
          simp only [List.any_append, List.any_cons, List.any_nil, Bool.or_false, Bool.not_or,
            sameLink_eq, Bool.decide_eq_false, Bool.and_comm]
        rw [List.filter_cons_of_pos (by simpa using any_sameLink_iff.not.2 newKey), added]
        simp only [kept, Link.distinct, List.eraseDupsBy_cons, List.append_assoc,
          List.singleton_append]

theorem importDataset_eq_ok_iff {dataset : Dataset} {counts : Counts} :
    t.importDataset dataset = (.ok counts, left) ↔
      dataset.fault? = none ∧ ∃ stored, importElements [] dataset.elements t = (.ok (), stored) ∧
        left = stored.importLinks dataset.links ∧ counts = left.counts := by
  simp only [importDataset, Dataset.validate, transaction]
  rcases dataset.fault? with _ | fault
  · rcases importElements [] dataset.elements t with ⟨error | _, stored⟩
    · simp
    · simp only [Prod.mk.injEq, Except.ok.injEq, true_and, exists_eq_left']
      constructor
      · rintro ⟨rfl, rfl⟩
        exact ⟨rfl, rfl⟩
      · rintro ⟨rfl, rfl⟩
        exact ⟨rfl, rfl⟩
  · simp

theorem importDataset_eq_ok {dataset : Dataset} {counts : Counts}
    (imported : t.importDataset dataset = (.ok counts, left)) :
    dataset.fault? = none ∧ ∃ stored, importElements [] dataset.elements t = (.ok (), stored) ∧
      left = stored.importLinks dataset.links := by
  obtain ⟨faultless, stored, done, same, -⟩ := importDataset_eq_ok_iff.1 imported
  exact ⟨faultless, stored, done, same⟩

end Tables
end Registry
