import Registry.Proofs.Tables.Subtree
import Mathlib.Data.List.DropRight

/-! # First and last insertions

Tables as the sum of the changes made to them. A link that is already there is left alone, so a
stored link is the first one with its key; a permission takes the place of an earlier one, so a
stored permission is the last one. What was put in before an element was taken out does not count
for either.
-/

namespace Registry

/-- A change of the tables: a row that is put in, or elements that are taken out with their rows. -/
inductive Change where
  | stored (row : ElementRow)
  | added (row : PropertyRow)
  | linked (link : Link)
  | granted (row : PermissionRow)
  | removed (ids : List ElementId)
  deriving DecidableEq, Repr

namespace Change

def apply (t : Tables) : Change → Tables
  | stored row => { t with elements := t.elements ++ [row] }
  | added row => { t with properties := t.properties ++ [row] }
  | linked link => (t.insertLink link).2
  | granted row => t.grant row.element row.permission
  | removed ids => t.without ids

/-- Takes out an element. -/
def takes (id : ElementId) : Change → Bool
  | removed ids => ids.contains id
  | _ => false

/-- Takes out one of the ends of a link. -/
def takesEnd (key : ElementId × ElementId × String) (change : Change) : Bool :=
  change.takes key.1 || change.takes key.2.1

def link? : Change → Option Link
  | linked link => some link
  | _ => none

def grant? : Change → Option PermissionRow
  | granted row => some row
  | _ => none

/-- Of the links with the key the first that was put in, after the last time that one of its ends
    was taken out. -/
def firstLink (changes : List Change) (key : ElementId × ElementId × String) : Option Link :=
  ((changes.rtakeWhile (!takesEnd key ·)).filterMap link?).find? (·.key == key)

/-- The last permission that was granted under the key, after the last time that its element was
    taken out. -/
def lastGrant (changes : List Change) (key : ElementId × String) : Option PermissionRow :=
  ((changes.rtakeWhile (!takes key.1 ·)).filterMap grant?).reverse.find? (·.key == key)

theorem key_of_firstLink {changes : List Change} {key : ElementId × ElementId × String}
    {link : Link} (first : firstLink changes key = some link) : link.key = key := by
  simpa using List.find?_some first

theorem find?_filterMap_singleton {α β : Type} (f : α → Option β) (p : β → Bool) (a : α) :
    ([a].filterMap f).find? p = (f a).filter p := by
  cases h : f a <;> simp [h, List.find?_singleton, Option.filter_some]

theorem firstLink_concat (changes : List Change) (change : Change)
    (key : ElementId × ElementId × String) :
    firstLink (changes ++ [change]) key =
      if change.takesEnd key then none
      else (firstLink changes key).or (change.link?.filter (·.key == key)) := by
  by_cases taken : change.takesEnd key = true
  · rw [if_pos taken, firstLink, List.rtakeWhile_concat_neg _ _ _ (by simp [taken])]
    rfl
  · rw [if_neg taken, firstLink, List.rtakeWhile_concat_pos _ _ _ (by simp [taken]),
      List.filterMap_append, List.find?_append, find?_filterMap_singleton, firstLink]

theorem lastGrant_concat (changes : List Change) (change : Change) (key : ElementId × String) :
    lastGrant (changes ++ [change]) key =
      if change.takes key.1 then none
      else (change.grant?.filter (·.key == key)).or (lastGrant changes key) := by
  by_cases taken : change.takes key.1 = true
  · rw [if_pos taken, lastGrant, List.rtakeWhile_concat_neg _ _ _ (by simp [taken])]
    rfl
  · have alone : ([change].filterMap grant?).reverse = [change].filterMap grant? := by
      cases h : change.grant? <;> simp [h]
    rw [if_neg taken, lastGrant, List.rtakeWhile_concat_pos _ _ _ (by simp [taken]),
      List.filterMap_append, List.reverse_append, List.find?_append, alone,
      find?_filterMap_singleton, lastGrant]

end Change

namespace Tables

variable {t : Tables}

theorem mem_links_insertLink {new link : Link} :
    link ∈ (t.insertLink new).2.links ↔
      link ∈ t.links ∨ link = new ∧ new.key ∉ t.links.map Link.key := by
  rcases t.insertLink_cases new with ⟨oldKey, same⟩ | ⟨newKey, added⟩
  · rw [same]
    exact (or_iff_left fun isNew => isNew.2 oldKey).symm
  · rw [added, List.mem_append, List.mem_singleton, and_iff_left newKey]

theorem permissions_insertLink (t : Tables) (link : Link) :
    (t.insertLink link).2.permissions = t.permissions := by
  rcases t.insertLink_cases link with ⟨-, same⟩ | ⟨-, added⟩
  · rw [same]
  · rw [added]

theorem mem_permissions_grant {new row : PermissionRow} :
    row ∈ (t.grant new.element new.permission).permissions ↔
      row = new ∨ row ∈ t.permissions ∧ row.key ≠ new.key := by
  simp only [grant, PermissionRow.key, List.mem_append, List.mem_filter, List.mem_singleton, ne_eq,
    Prod.mk.injEq, Bool.not_eq_true', Bool.and_eq_false_iff, beq_eq_false_iff_ne, not_and_or]
  exact or_comm

/-- What some changes make of tables without rows. -/
def replay (changes : List Change) : Tables :=
  changes.foldl Change.apply fresh

theorem replay_concat (changes : List Change) (change : Change) :
    replay (changes ++ [change]) = change.apply (replay changes) :=
  List.foldl_concat ..

/-- A key is taken as soon as some link was put in under it. -/
theorem mem_keys_iff {changes : List Change}
    (told : ∀ link, link ∈ t.links ↔ Change.firstLink changes link.key = some link)
    {key : ElementId × ElementId × String} :
    key ∈ t.links.map Link.key ↔ ∃ link, Change.firstLink changes key = some link := by
  constructor
  · intro taken
    obtain ⟨link, member, rfl⟩ := List.mem_map.1 taken
    exact ⟨link, (told link).1 member⟩
  · rintro ⟨link, first⟩
    obtain rfl := Change.key_of_firstLink first
    exact List.mem_map_of_mem ((told link).2 first)

/-- The links that are stored are those that came first. -/
theorem mem_links_replay (changes : List Change) :
    ∀ link, link ∈ (replay changes).links ↔ Change.firstLink changes link.key = some link := by
  induction changes using List.reverseRecOn with
  | nil => intro link; simp [replay, fresh, stamped, setMetadata, Change.firstLink]
  | append_singleton changes change ih =>
      intro link
      rw [replay_concat, Change.firstLink_concat]
      cases change with
      | stored | added | granted =>
          simpa [Change.apply, Change.takesEnd, Change.takes, Change.link?, grant] using ih link
      | removed ids =>
          rw [Change.apply, mem_links_without, ih]
          simp only [Change.takesEnd, Change.takes, Change.link?, Link.key, Bool.or_eq_true,
            List.contains_iff_mem, Option.filter_none, Option.or_none]
          split
          · rename_i gone
            simp only [reduceCtorEq, iff_false]
            tauto
          · rename_i kept
            exact and_iff_left (not_or.1 kept)
      | linked new =>
          rw [Change.apply, mem_links_insertLink, mem_keys_iff ih, ih]
          simp only [Change.takesEnd, Change.takes, Bool.or_self, Bool.false_eq_true, if_false,
            Change.link?]
          -- under its key the new link comes first, or else some other one does
          cases before : Change.firstLink changes link.key with
          | some first =>
              rw [Option.some_or]
              refine or_iff_left ?_
              rintro ⟨rfl, isFirst⟩
              exact isFirst ⟨first, before⟩
          | none =>
              simp only [reduceCtorEq, false_or, Option.none_or, Option.filter_eq_some_iff,
                Option.some.injEq, beq_iff_eq]
              constructor
              · rintro ⟨rfl, -⟩
                exact ⟨rfl, trivial⟩
              · rintro ⟨rfl, -⟩
                exact ⟨rfl, by simp [before]⟩

example : (replay [.linked ⟨1, 2, "uses", some "a"⟩, .removed [2], .linked ⟨1, 2, "uses", some "b"⟩,
    .linked ⟨1, 2, "uses", none⟩]).links = [⟨1, 2, "uses", some "b"⟩] := by
  decide

/-- The permissions that are stored are those that came last. -/
theorem mem_permissions_replay (changes : List Change) :
    ∀ row, row ∈ (replay changes).permissions ↔ Change.lastGrant changes row.key = some row := by
  induction changes using List.reverseRecOn with
  | nil => intro row; simp [replay, fresh, stamped, setMetadata, Change.lastGrant]
  | append_singleton changes change ih =>
      intro row
      rw [replay_concat, Change.lastGrant_concat]
      cases change with
      | stored | added | linked =>
          simpa [Change.apply, Change.takes, Change.grant?, permissions_insertLink] using ih row
      | removed ids =>
          rw [Change.apply, mem_permissions_without, ih]
          by_cases gone : row.element ∈ ids <;>
            simp [Change.takes, Change.grant?, PermissionRow.key, gone]
      | granted new =>
          rw [Change.apply, mem_permissions_grant, ih]
          simp only [Change.takes, Change.grant?, Bool.false_eq_true, if_false, Option.filter_some,
            beq_iff_eq]
          by_cases same : new.key = row.key
          · rw [if_pos same, Option.some_or, Option.some.injEq]
            simp only [same, ne_eq, not_true_eq_false, and_false, or_false]
            exact eq_comm
          · have other : row ≠ new := fun h => same (congrArg PermissionRow.key h.symm)
            rw [if_neg same, Option.none_or]
            simp only [other, false_or, ne_eq, Ne.symm same, not_false_eq_true, and_true]

end Tables
end Registry
