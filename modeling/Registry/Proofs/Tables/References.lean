import Registry.Proofs.Tables.Import
import Registry.Proofs.Tables.Subtree

/-! # References

Rows refer to elements by their ids, and the tables do not look whether these exist. They do after
every import and every removal: a dataset refers to its own elements only, and what is below a
removed element goes with it.
-/

namespace Registry

namespace Dataset

variable {dataset : Dataset}

theorem fault?_eq_none_iff :
    dataset.fault? = none ↔
      elementFault? [] dataset.elements = none ∧
        (∀ e ∈ dataset.elements, parentFault? dataset.ids e = none) ∧
        ∀ link ∈ dataset.links, linkFault? dataset.ids link = none := by
  simp [fault?]

theorem parentFault?_eq_none_iff {known : List ElementId} {e : DatasetElement} :
    parentFault? known e = none ↔ ∀ parent, e.parent = some parent → parent ∈ known := by
  unfold parentFault?
  split
  · rename_i parent up
    simp [up]
  · rename_i root
    simp [root]

theorem linkFault?_eq_none_iff {known : List ElementId} {link : Link} :
    linkFault? known link = none ↔ link.source ∈ known ∧ link.target ∈ known := by
  by_cases source : link.source ∈ known <;> by_cases target : link.target ∈ known <;>
    simp [linkFault?, source, target]

end Dataset

namespace Tables

variable {t : Tables}

/-- Every row refers to known elements only. -/
structure RefersTo (t : Tables) (known : ElementId → Prop) : Prop where
  parents : ∀ row ∈ t.elements, ∀ parent, row.parent = some parent → known parent
  properties : ∀ row ∈ t.properties, known row.element
  permissions : ∀ row ∈ t.permissions, known row.element
  links : ∀ link ∈ t.links, known link.source ∧ known link.target

/-- No reference dangles: each one leads to a stored element. -/
def Resolved (t : Tables) : Prop :=
  t.RefersTo t.Holds

theorem resolved_fresh : fresh.Resolved :=
  ⟨by simp [fresh, stamped, setMetadata], by simp [fresh, stamped, setMetadata],
    by simp [fresh, stamped, setMetadata], by simp [fresh, stamped, setMetadata]⟩

namespace RefersTo

variable {known : ElementId → Prop}

theorem mono {wider : ElementId → Prop} (refers : t.RefersTo known)
    (wide : ∀ id, known id → wider id) : t.RefersTo wider where
  parents row member parent up := wide parent (refers.parents row member parent up)
  properties row member := wide row.element (refers.properties row member)
  permissions row member := wide row.element (refers.permissions row member)
  links link member := (refers.links link member).imp (wide _) (wide _)

theorem insertElement (refers : t.RefersTo known) {e : NewElement}
    (parent : ∀ parent, e.parent = some parent → known parent) :
    (t.insertElement e).2.RefersTo known := by
  rcases t.insertElement_cases e with ⟨error, refused⟩ | ⟨-, -, stored⟩
  · rwa [refused]
  · rw [stored]
    refine { refers with parents := fun row member => ?_ }
    rcases List.mem_append.1 member with old | new
    · exact refers.parents row old
    · rw [List.mem_singleton.1 new]
      exact parent

theorem addProperty (refers : t.RefersTo known) {id : ElementId} (isKnown : known id)
    (group key value : String) : (t.addProperty id group key value).RefersTo known := by
  refine { refers with properties := fun row member => ?_ }
  rcases List.mem_append.1 member with old | new
  · exact refers.properties row old
  · rwa [List.mem_singleton.1 new]

theorem grant (refers : t.RefersTo known) {id : ElementId} (isKnown : known id)
    (permission : Permission) : (t.grant id permission).RefersTo known := by
  refine { refers with permissions := fun row member => ?_ }
  rcases List.mem_append.1 member with old | new
  · exact refers.permissions row (List.mem_of_mem_filter old)
  · rwa [List.mem_singleton.1 new]

theorem insertLink (refers : t.RefersTo known) {link : Link} (source : known link.source)
    (target : known link.target) : (t.insertLink link).2.RefersTo known := by
  rcases t.insertLink_cases link with ⟨-, same⟩ | ⟨-, added⟩
  · rwa [same]
  · rw [added]
    refine { refers with links := fun other member => ?_ }
    rcases List.mem_append.1 member with old | new
    · exact refers.links other old
    · rw [List.mem_singleton.1 new]
      exact ⟨source, target⟩

end RefersTo

/-- An import that fails leaves the tables as they are; one that succeeds was of a dataset without
    fault, and stores its elements. -/
theorem importDataset_cases (t : Tables) (dataset : Dataset) :
    (∃ error, t.importDataset dataset = (.error error, t)) ∨
      ∃ counts left, t.importDataset dataset = (.ok counts, left) ∧ dataset.fault? = none ∧
        left.elements.map (·.id) = t.elements.map (·.id) ++ dataset.ids := by
  simp only [importDataset, Dataset.validate]
  rcases faults : dataset.fault? with _ | fault
  · simp only [transaction]
    rcases imported : importElements [] dataset.elements t with ⟨error | _, left⟩
    · exact .inl ⟨error, rfl⟩
    · refine .inr ⟨_, _, rfl, trivial, ?_⟩
      rw [importLinks_eq, importElements_eq imported, List.map_append,
        map_elementRows (fun _ _ => rfl), Dataset.ids]
  · exact .inl ⟨_, rfl⟩

theorem stableUnder_refersTo {dataset : Dataset} (faultless : dataset.fault? = none)
    {known : ElementId → Prop} (own : ∀ id ∈ dataset.ids, known id) :
    StableUnder dataset (·.RefersTo known) where
  insertElement _ _ e member refers :=
    have fine := (Dataset.fault?_eq_none_iff.1 faultless).2.1 e member
    refers.insertElement fun parent up =>
      own parent (Dataset.parentFault?_eq_none_iff.1 fine parent up)
  addProperty _ e member _ _ _ refers :=
    refers.addProperty (own e.id (List.mem_map_of_mem member)) _ _ _
  grant _ e member _ refers := refers.grant (own e.id (List.mem_map_of_mem member)) _
  insertLink _ link member refers :=
    have fine := (Dataset.fault?_eq_none_iff.1 faultless).2.2 link member
    have ends := Dataset.linkFault?_eq_none_iff.1 fine
    refers.insertLink (own _ ends.1) (own _ ends.2)

namespace Resolved

theorem importDataset (resolved : t.Resolved) (dataset : Dataset) :
    (t.importDataset dataset).2.Resolved := by
  rcases t.importDataset_cases dataset with ⟨error, refused⟩ | ⟨counts, left, done, faultless, ids⟩
  · rwa [refused]
  · have known : ∀ id, id ∈ left.elements.map (·.id) ↔ t.Holds id ∨ id ∈ dataset.ids := by
      intro id
      rw [ids, List.mem_append, holds_iff]
    -- with the ids known that will be stored in the end, no write leads astray
    have before : t.RefersTo left.Holds :=
      resolved.mono fun id stored => holds_iff.2 ((known id).2 (.inl stored))
    have after := (stableUnder_refersTo faultless fun id member =>
      holds_iff.2 ((known id).2 (.inr member))).importDataset before
    rwa [done] at after ⊢

theorem without {ids : List ElementId} (resolved : t.Resolved) (closed : t.Closed ids) :
    (t.without ids).Resolved := by
  have kept : ∀ {id}, t.Holds id → id ∉ ids → (t.without ids).Holds id := by
    rintro id ⟨row, stored, rfl⟩ stays
    exact ⟨row, mem_elements_without.2 ⟨stored, stays⟩, rfl⟩
  constructor
  · intro row member parent up
    obtain ⟨stored, stays⟩ := mem_elements_without.1 member
    exact kept (resolved.parents row stored parent up) fun gone =>
      stays (closed row stored parent gone up)
  · intro row member
    obtain ⟨stored, stays⟩ : row ∈ t.properties ∧ row.element ∉ ids := by
      simpa [Tables.without] using member
    exact kept (resolved.properties row stored) stays
  · intro row member
    obtain ⟨stored, stays⟩ : row ∈ t.permissions ∧ row.element ∉ ids := by
      simpa [Tables.without] using member
    exact kept (resolved.permissions row stored) stays
  · intro link member
    obtain ⟨stored, source, target⟩ := mem_links_without.1 member
    exact ⟨kept (resolved.links link stored).1 source, kept (resolved.links link stored).2 target⟩

theorem remove (resolved : t.Resolved) (id : ElementId) : (t.remove id).2.Resolved := by
  simp only [Tables.remove]
  split
  · exact resolved.without fun row stored parent gone up =>
      mem_subtree_iff.2 (.child stored up (mem_subtree_iff.1 gone))
  · exact resolved

end Resolved

end Tables
end Registry
