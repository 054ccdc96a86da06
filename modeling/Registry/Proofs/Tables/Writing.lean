import Registry.Proofs.Tables.Changes
import Registry.Proofs.Tables.References

/-! # Writing

The write operations of a store, one after the other, some of them refused. A write that succeeds
makes changes that are known from what it was asked to do, and one that is refused makes none; so
the tables are told by the changes of the writes before.
-/

namespace Registry

/-- A write operation. -/
inductive Write where
  | insertElement (e : NewElement)
  | addProperty (id : ElementId) (group key value : String)
  | insertLink (link : Link)
  | grant (id : ElementId) (permission : Permission)
  | remove (id : ElementId)
  | importDataset (dataset : Dataset)
  deriving DecidableEq, Repr

/-- The rows that an element of a dataset brings, `earlier` being the elements before it. -/
def DatasetElement.changes (earlier : List DatasetElement) (e : DatasetElement) : List Change :=
  .stored (Tables.rowOf (Tables.newElement earlier e) e.id) ::
    (e.propertyRows.map .added ++ e.permissions.map fun permission => .granted ⟨e.id, permission⟩)

/-- The rows that some elements of a dataset bring, one element after the other. -/
def Dataset.elementChanges (earlier : List DatasetElement) : List DatasetElement → List Change
  | [] => []
  | e :: rest => e.changes earlier ++ elementChanges (earlier ++ [e]) rest

namespace Write

/-- What a write tells when it succeeds. -/
inductive Answer where
  | inserted (id : ElementId)
  | done
  /-- Whether the link was added. -/
  | linked (isNew : Bool)
  /-- How many elements are gone. -/
  | removed (count : Nat)
  | imported (counts : Counts)
  deriving DecidableEq, Repr

/-- Carry out a write. -/
def perform (t : Tables) : Write → Except StoreError Answer × Tables
  | insertElement e => (t.insertElement e).map (·.map .inserted) id
  | addProperty id group key value => (.ok .done, t.addProperty id group key value)
  | insertLink link => (t.insertLink link).map (.ok ∘ .linked) id
  | grant id permission => (.ok .done, t.grant id permission)
  | remove top => (t.remove top).map (·.map .removed) id
  | importDataset dataset => (t.importDataset dataset).map (·.map .imported) id

/-- The tables after a write, whether it succeeds or is refused. -/
def apply (t : Tables) (write : Write) : Tables :=
  (write.perform t).2

/-- The changes that a write is to make. -/
def changes (t : Tables) : Write → List Change
  | insertElement e => [.stored (Tables.rowOf e (e.id.getD t.nextId))]
  | addProperty id group key value => [.added ⟨id, group, ⟨key, value⟩⟩]
  | insertLink link => [.linked link]
  | grant id permission => [.granted ⟨id, permission⟩]
  | remove top => [.removed ((t.elements.map (·.id)).filter (t.Below top ·))]
  | importDataset dataset =>
      Dataset.elementChanges [] dataset.elements ++ dataset.links.map .linked

end Write

namespace Tables

variable {t left : Tables}

theorem without_congr (t : Tables) {ids others : List ElementId}
    (same : ∀ id, id ∈ ids ↔ id ∈ others) : t.without ids = t.without others := by
  have contains : ∀ id, ids.contains id = others.contains id := by
    intro id
    rw [Bool.eq_iff_iff, List.contains_iff_mem, List.contains_iff_mem, same]
  simp only [without, contains]

/-- A removal takes out the stored elements that are below the top, itself included. -/
theorem remove_cases (t : Tables) (top : ElementId) :
    (∃ error, t.remove top = (.error error, t)) ∨
      ∃ count, t.remove top =
        (.ok count, t.without ((t.elements.map (·.id)).filter (t.Below top ·))) := by
  by_cases stored : t.Holds top
  · refine .inr ⟨_, (remove_of_holds stored).trans (congrArg _ (without_congr t fun id => ?_))⟩
    simp only [mem_subtree_iff, List.mem_filter, decide_eq_true_eq, ← holds_iff]
    exact ⟨fun below => ⟨holds_of_below stored below, below⟩, And.right⟩
  · exact .inl ⟨_, remove_of_not_holds stored⟩

theorem foldl_added (rows : List PropertyRow) :
    ∀ t : Tables, (rows.map Change.added).foldl Change.apply t =
      { t with properties := t.properties ++ rows } := by
  induction rows with
  | nil => intro t; simp
  | cons row rest ih =>
      intro t
      rw [List.map_cons, List.foldl_cons, ih]
      simp [Change.apply]

theorem foldl_changes (t : Tables) (earlier : List DatasetElement) (e : DatasetElement) :
    (e.changes earlier).foldl Change.apply t = t.withElement earlier e := by
  rw [DatasetElement.changes, List.foldl_cons, List.foldl_append, foldl_added, List.foldl_map]
  exact foldl_grant e.id e.permissions _

theorem foldl_elementChanges {elements : List DatasetElement} :
    ∀ {t : Tables} {earlier : List DatasetElement},
      importElements earlier elements t = (.ok (), left) →
      (Dataset.elementChanges earlier elements).foldl Change.apply t = left := by
  induction elements with
  | nil =>
      intro t earlier done
      cases done
      rfl
  | cons e rest ih =>
      intro t earlier done
      rw [Dataset.elementChanges, List.foldl_append, foldl_changes]
      exact ih (importElements_cons_eq_ok_iff.1 done).2.2

theorem foldl_linked (links : List Link) (t : Tables) :
    (links.map Change.linked).foldl Change.apply t = t.importLinks links :=
  List.foldl_map

end Tables

namespace Write

variable {t : Tables}

/-- A write is refused and leaves the tables alone, or it succeeds and makes its changes. -/
theorem perform_cases (t : Tables) (write : Write) :
    (∃ error, write.perform t = (.error error, t)) ∨
      ∃ answer, write.perform t = (.ok answer, (write.changes t).foldl Change.apply t) := by
  cases write with
  | insertElement e =>
      rcases t.insertElement_cases e with ⟨error, refused⟩ | ⟨-, -, done⟩
      · exact .inl ⟨error, by rw [perform, refused]; rfl⟩
      · exact .inr ⟨_, by rw [perform, done]; rfl⟩
  | addProperty | insertLink | grant => exact .inr ⟨_, rfl⟩
  | remove top =>
      rcases t.remove_cases top with ⟨error, refused⟩ | ⟨count, done⟩
      · exact .inl ⟨error, by rw [perform, refused]; rfl⟩
      · exact .inr ⟨.removed count, by rw [perform, done]; rfl⟩
  | importDataset dataset =>
      rcases t.importDataset_cases dataset with ⟨error, refused⟩ | ⟨counts, left, done, -⟩
      · exact .inl ⟨error, by rw [perform, refused]; rfl⟩
      · obtain ⟨-, stored, elements, rfl⟩ := Tables.importDataset_eq_ok done
        refine .inr ⟨.imported counts, ?_⟩
        rw [perform, done, changes, List.foldl_append, Tables.foldl_elementChanges elements,
          Tables.foldl_linked]
        rfl

/-- The changes of a write that succeeds; one that is refused makes none. -/
def made (t : Tables) (write : Write) : List Change :=
  match (write.perform t).1 with
  | .ok _ => write.changes t
  | .error _ => []

theorem apply_eq (t : Tables) (write : Write) :
    write.apply t = (write.made t).foldl Change.apply t := by
  rcases write.perform_cases t with ⟨error, refused⟩ | ⟨answer, done⟩
  · simp [apply, made, refused]
  · simp [apply, made, done]

/-- The changes of some writes, from the tables that they find. -/
def madeBy : List Write → Tables → List Change
  | [], _ => []
  | write :: rest, t => write.made t ++ madeBy rest (write.apply t)

theorem foldl_apply (writes : List Write) :
    ∀ t : Tables, writes.foldl apply t = (madeBy writes t).foldl Change.apply t := by
  induction writes with
  | nil => intro t; rfl
  | cons write rest ih =>
      intro t
      rw [List.foldl_cons, madeBy, List.foldl_append, ← apply_eq, ih]

theorem reachable_apply (reachable : t.Reachable) (write : Write) : (write.apply t).Reachable := by
  cases write with
  | insertElement e => exact reachable.insertElement e
  | addProperty id group key value => exact reachable.addProperty id group key value
  | insertLink link => exact reachable.insertLink link
  | grant id permission => exact reachable.grant id permission
  | remove top => exact reachable.remove top
  | importDataset dataset => exact reachable.importDataset dataset

end Write

namespace Tables

/-- The id that follows those of the elements: the largest one plus one, as a number of 64 bits, or 1
    in empty tables. -/
def Follows (t : Tables) (id : ElementId) : Prop :=
  t.elements = [] ∧ id = 1 ∨
    ∃ row ∈ t.elements, (∀ other ∈ t.elements, other.id ≤ row.id) ∧ id = row.id + 1

theorem largest_foldl (rest : List ElementRow) :
    ∀ first : ElementRow, ∃ row ∈ first :: rest, (∀ other ∈ first :: rest, other.id ≤ row.id) ∧
      rest.foldl (fun m r => if m < r.id then r.id else m) first.id = row.id := by
  induction rest with
  | nil => intro first; exact ⟨first, by simp⟩
  | cons next rest ih =>
      intro first
      rw [List.foldl_cons]
      by_cases larger : first.id < next.id
      · obtain ⟨row, member, largest, found⟩ := ih next
        refine ⟨row, List.mem_cons_of_mem _ member, List.forall_mem_cons.2 ⟨?_, largest⟩, ?_⟩
        · exact Int64.le_trans (Int64.le_of_lt larger) (largest next List.mem_cons_self)
        · rw [if_pos larger, found]
      · obtain ⟨row, member, largest, found⟩ := ih first
        obtain ⟨top, others⟩ := List.forall_mem_cons.1 largest
        refine ⟨row, ?_, ?_, ?_⟩
        · rcases List.mem_cons.1 member with rfl | later
          · exact List.mem_cons_self
          · exact List.mem_cons_of_mem _ (List.mem_cons_of_mem _ later)
        · refine List.forall_mem_cons.2 ⟨top, List.forall_mem_cons.2 ⟨?_, others⟩⟩
          exact Int64.le_trans (Int64.not_lt.1 larger) top
        · rw [if_neg larger, found]

theorem follows_nextId (t : Tables) : t.Follows t.nextId := by
  rcases rows : t.elements with _ | ⟨first, rest⟩
  · exact .inl ⟨rows, by rw [nextId, rows]⟩
  · obtain ⟨row, member, largest, found⟩ := largest_foldl rest first
    refine .inr ⟨row, by rwa [rows], by rwa [rows], ?_⟩
    rw [nextId, rows, ← found]

/-- The tables after some writes, refused ones included. -/
def written (writes : List Write) : Tables :=
  writes.foldl Write.apply fresh

/-- The changes that some writes make. -/
def history (writes : List Write) : List Change :=
  Write.madeBy writes fresh

theorem written_eq_replay (writes : List Write) : written writes = replay (history writes) :=
  Write.foldl_apply writes fresh

theorem reachable_written (writes : List Write) : (written writes).Reachable :=
  List.foldlRecOn (motive := Reachable) writes Write.apply .fresh fun _ reachable write _ =>
    Write.reachable_apply reachable write

/-- Keys are unique; of the changes since its last removal, a stored link is the first one under
    its key and a stored permission the last one. -/
structure Reflects (t : Tables) (changes : List Change) : Prop where
  keyed : t.Keyed
  links : ∀ link, link ∈ t.links ↔ Change.firstLink changes link.key = some link
  permissions : ∀ row, row ∈ t.permissions ↔ Change.lastGrant changes row.key = some row

/-- How tables take the next write. -/
structure TakesWrites (t : Tables) : Prop where
  refused : ∀ (write : Write) error, (write.perform t).1 = .error error → (write.perform t).2 = t
  inserted : ∀ e, (∃ answer, ((Write.insertElement e).perform t).1 = .ok answer) ↔
    ¬ t.Holds (e.id.getD t.nextId) ∧ e.uuid ∉ t.elements.map (·.uuid)
  numbered : ∀ (e : NewElement) id, e.id = none →
    ((Write.insertElement e).perform t).1 = .ok (.inserted id) → t.Follows id
  linked : ∀ link, ∃ isNew after, (Write.insertLink link).perform t = (.ok (.linked isNew), after) ∧
    (isNew = true ↔ after = { t with links := t.links ++ [link] }) ∧ (isNew = false ↔ after = t)
  removed : ∀ top, (∃ answer, ((Write.remove top).perform t).1 = .ok answer) ↔ t.Holds top

theorem linked_iff (t : Tables) (link : Link) :
    ((t.insertLink link).1 = true ↔
        (t.insertLink link).2 = { t with links := t.links ++ [link] }) ∧
      ((t.insertLink link).1 = false ↔ (t.insertLink link).2 = t) := by
  have longer : { t with links := t.links ++ [link] } ≠ t := by
    intro same
    have lengths := congrArg (fun t => t.links.length) same
    simp at lengths
  rcases t.insertLink_cases link with ⟨-, same⟩ | ⟨-, added⟩
  · simp [same, longer.symm]
  · simp [added, longer]

theorem takesWrites (t : Tables) : t.TakesWrites where
  refused := by
    intro write error failed
    rcases write.perform_cases t with ⟨_, refused⟩ | ⟨answer, done⟩
    · rw [refused]
    · rw [done] at failed
      cases failed
  inserted := by
    intro e
    constructor
    · rintro ⟨answer, accepted⟩
      rcases t.insertElement_cases e with ⟨error, refused⟩ | ⟨newId, newUuid, -⟩
      · rw [Write.perform, refused] at accepted
        cases accepted
      · exact ⟨by rwa [holds_iff], newUuid⟩
    · rintro ⟨newId, newUuid⟩
      rw [holds_iff] at newId
      have done := insertElement_eq_ok_iff.2 ⟨rfl, newId, newUuid, rfl⟩
      exact ⟨_, by rw [Write.perform, done]; rfl⟩
  numbered := by
    intro e id auto inserted
    rcases t.insertElement_cases e with ⟨error, refused⟩ | ⟨-, -, done⟩
    · rw [Write.perform, refused] at inserted
      cases inserted
    · rw [Write.perform, done, auto] at inserted
      cases inserted
      exact t.follows_nextId
  linked link := ⟨_, _, rfl, t.linked_iff link⟩
  removed := by
    intro top
    by_cases stored : t.Holds top
    · simp [Write.perform, remove_of_holds stored, stored, Except.map]
    · simp [Write.perform, remove_of_not_holds stored, stored, Except.map]

/-- Whatever was written, with and without success, the tables are what the changes say. -/
theorem reflects_written (writes : List Write) :
    (written writes).Reflects (history writes) ∧ (written writes).TakesWrites := by
  refine ⟨⟨(reachable_written writes).keyed, ?_, ?_⟩, takesWrites _⟩
  · rw [written_eq_replay]
    exact mem_links_replay _
  · rw [written_eq_replay]
    exact mem_permissions_replay _

end Tables
end Registry
