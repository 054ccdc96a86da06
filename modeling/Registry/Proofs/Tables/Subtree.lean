import Registry.Proofs.Tables.Keys
import Mathlib.Data.List.Perm.Subperm

/-! # Subtrees

`Tables.subtree` finds what `Tables.Below` describes, whatever shape the parent chains have. Taking
out several subtrees one after the other takes out, in the end, what was below one of their tops in
the tables at first: a removal leaves the containment among the other elements as it was.
-/

namespace Registry.Tables

/-- The rows whose parents are in the level. -/
def childRows (rest : List ElementRow) (level : List ElementId) : List ElementRow :=
  rest.filter fun row => row.parent.any level.contains

/-- The rows that a round leaves to later ones. -/
def otherRows (rest : List ElementRow) (level : List ElementId) : List ElementRow :=
  rest.filter fun row => !row.parent.any level.contains

theorem mem_childRows_iff {rest : List ElementRow} {level : List ElementId} {row : ElementRow} :
    row ∈ childRows rest level ↔ row ∈ rest ∧ ∃ parent ∈ level, row.parent = some parent := by
  simp [childRows, Option.any_eq_true, and_comm]

theorem mem_otherRows_iff {rest : List ElementRow} {level : List ElementId} {row : ElementRow} :
    row ∈ otherRows rest level ↔ row ∈ rest ∧ row ∉ childRows rest level := by
  simp only [childRows, otherRows, List.mem_filter]
  exact and_congr_right fun member => by simp [member]

theorem rows_perm (rest : List ElementRow) (level : List ElementId) :
    (childRows rest level ++ otherRows rest level).Perm rest :=
  List.filter_append_perm _ rest

theorem childRows_nil (rest : List ElementRow) : childRows rest [] = [] :=
  List.eq_nil_iff_forall_not_mem.2 fun row => by simp [mem_childRows_iff]

theorem descend_nil (rounds : Nat) (rest : List ElementRow) : descend rounds rest [] = [] := by
  cases rounds with
  | zero => rfl
  | succ rounds =>
      have none : ((childRows rest []).map (·.id)).isEmpty = true := by rw [childRows_nil]; rfl
      exact if_pos none

/-- A round that finds nothing ends the search, as there is nothing below an empty level. -/
theorem descend_succ (rounds : Nat) (rest : List ElementRow) (level : List ElementId) :
    descend (rounds + 1) rest level = (childRows rest level).map (·.id) ++
      descend rounds (otherRows rest level) ((childRows rest level).map (·.id)) := by
  by_cases none : ((childRows rest level).map (·.id)).isEmpty = true
  · rw [List.isEmpty_iff.1 none, descend_nil, List.append_nil]
    exact if_pos none
  · exact if_neg none

theorem below_of_mem_descend {t : Tables} {top : ElementId} (rounds : Nat) {rest : List ElementRow}
    {level : List ElementId} (stored : ∀ row ∈ rest, row ∈ t.elements)
    (reached : ∀ id ∈ level, t.Below top id) :
    ∀ id ∈ descend rounds rest level, t.Below top id := by
  induction rounds generalizing rest level with
  | zero => simp [descend]
  | succ rounds ih =>
      have next : ∀ id ∈ (childRows rest level).map (·.id), t.Below top id := by
        intro id member
        obtain ⟨row, isChild, rfl⟩ := List.mem_map.1 member
        obtain ⟨member, parent, inLevel, up⟩ := mem_childRows_iff.1 isChild
        exact .child (stored row member) up (reached parent inLevel)
      intro id found
      rw [descend_succ] at found
      rcases List.mem_append.1 found with first | later
      · exact next id first
      · exact ih (fun row other => stored row (mem_otherRows_iff.1 other).1) next id later

/-- With as many rounds as rows, a row is found as soon as its parent is. The rows that a round
    leaves are fewer than before, and their parents are not in the level that was looked at. -/
theorem mem_descend_of_parent (rounds : Nat) {rest : List ElementRow} {level : List ElementId}
    (enough : rest.length ≤ rounds) :
    ∀ row ∈ rest, ∀ parent, row.parent = some parent →
      (parent ∈ level ∨ parent ∈ descend rounds rest level) →
      row.id ∈ descend rounds rest level := by
  induction rounds generalizing rest level with
  | zero =>
      intro row member
      have empty : rest = [] := List.eq_nil_of_length_eq_zero (by omega)
      simp [empty] at member
  | succ rounds ih =>
      intro row member parent up reached
      rw [descend_succ] at reached ⊢
      by_cases isChild : row ∈ childRows rest level
      · exact List.mem_append_left _ (List.mem_map_of_mem isChild)
      · have found := reached.resolve_left fun inLevel =>
          isChild (mem_childRows_iff.2 ⟨member, parent, inLevel, up⟩)
        have some : childRows rest level ≠ [] := by
          intro none
          simp [none, descend_nil] at found
        have shorter : (otherRows rest level).length < rest.length := by
          have split := (rows_perm rest level).length_eq
          have positive := List.length_pos_iff.2 some
          rw [List.length_append] at split
          omega
        refine List.mem_append_right _ (ih (by omega) row ?_ parent up (List.mem_append.1 found))
        exact mem_otherRows_iff.2 ⟨member, isChild⟩

/-- The subtree of an element holds exactly what is below it. -/
theorem mem_subtree_iff {t : Tables} {top id : ElementId} :
    id ∈ t.subtree top ↔ t.Below top id := by
  constructor
  · intro member
    rcases List.mem_cons.1 member with rfl | found
    · exact .top
    · refine below_of_mem_descend _ (fun row kept => List.mem_of_mem_filter kept) ?_ id found
      intro id atTop
      rw [List.mem_singleton.1 atTop]
      exact .top
  · intro below
    induction below with
    | top => exact List.mem_cons_self
    | @child row parent stored up _ ih =>
        by_cases same : row.id = top
        · rw [same]
          exact List.mem_cons_self
        · refine List.mem_cons_of_mem _
            (mem_descend_of_parent _ (List.length_filter_le _ _) row ?_ parent up ?_)
          · exact List.mem_filter.2 ⟨stored, by simpa using same⟩
          · exact (List.mem_cons.1 ih).imp_left fun atTop => by simp [atTop]

instance (t : Tables) (top id : ElementId) : Decidable (t.Below top id) :=
  decidable_of_iff (id ∈ t.subtree top) mem_subtree_iff

theorem remove_of_holds {t : Tables} {id : ElementId} (stored : t.Holds id) :
    t.remove id = (.ok (t.subtree id).length, t.without (t.subtree id)) :=
  if_pos (isSome_row?_iff.2 stored)

theorem remove_of_not_holds {t : Tables} {id : ElementId} (gone : ¬ t.Holds id) :
    t.remove id = (.error (.elementNotFound id), t) :=
  if_neg (isSome_row?_iff.not.2 gone)

@[simp] theorem mem_elements_without {t : Tables} {ids : List ElementId} {row : ElementRow} :
    row ∈ (t.without ids).elements ↔ row ∈ t.elements ∧ row.id ∉ ids := by
  simp [without]

@[simp] theorem mem_links_without {t : Tables} {ids : List ElementId} {link : Link} :
    link ∈ (t.without ids).links ↔ link ∈ t.links ∧ link.source ∉ ids ∧ link.target ∉ ids := by
  simp [without]

@[simp] theorem mem_permissions_without {t : Tables} {ids : List ElementId} {row : PermissionRow} :
    row ∈ (t.without ids).permissions ↔ row ∈ t.permissions ∧ row.element ∉ ids := by
  simp [without]

@[simp] theorem without_nil (t : Tables) : t.without [] = t := by
  cases t
  simp [without]

theorem without_append (t : Tables) (first second : List ElementId) :
    (t.without first).without second = t.without (first ++ second) := by
  simp only [without, List.filter_filter, mk.injEq, and_true]
  refine ⟨?_, ?_, ?_, ?_⟩ <;>
    · refine List.filter_congr fun row _ => ?_
      rw [Bool.eq_iff_iff]
      simp only [List.contains_eq_mem, List.mem_append, Bool.and_eq_true, Bool.not_eq_true',
        Bool.or_eq_false_iff, decide_eq_false_iff_not, not_or]
      tauto

/-- Just the rows of elements that are gone, and the links from and to them, are missing. -/
structure Spared (t left : Tables) (gone : ElementId → Prop) [DecidablePred gone] : Prop where
  elements : left.elements = t.elements.filter fun row => ¬ gone row.id
  properties : left.properties = t.properties.filter fun row => ¬ gone row.element
  permissions : left.permissions = t.permissions.filter fun row => ¬ gone row.element
  links : left.links = t.links.filter fun link => ¬ gone link.source ∧ ¬ gone link.target
  metadata : left.metadata = t.metadata

theorem spared_without {t : Tables} {ids : List ElementId} {gone : ElementId → Prop}
    [DecidablePred gone] (same : ∀ id, id ∈ ids ↔ gone id) : t.Spared (t.without ids) gone := by
  constructor <;> simp [without, ← same]

/-- A set of elements that holds the children of its members. -/
def Closed (t : Tables) (ids : List ElementId) : Prop :=
  ∀ row ∈ t.elements, ∀ parent ∈ ids, row.parent = some parent → row.id ∈ ids

/-- Once a closed set is gone, the others are below each other as before. -/
theorem below_without_iff {t : Tables} {ids : List ElementId} (closed : t.Closed ids)
    {top id : ElementId} (kept : top ∉ ids) :
    (t.without ids).Below top id ↔ t.Below top id ∧ id ∉ ids := by
  constructor
  · intro below
    induction below with
    | top => exact ⟨.top, kept⟩
    | child stored up _ ih =>
        obtain ⟨stored, kept⟩ := mem_elements_without.1 stored
        exact ⟨.child stored up ih.1, kept⟩
  · rintro ⟨below, stays⟩
    induction below with
    | top => exact .top
    | @child row parent stored up _ ih =>
        have parentStays : parent ∉ ids := fun gone => stays (closed row stored parent gone up)
        exact .child (mem_elements_without.2 ⟨stored, stays⟩) up (ih parentStays)

/-- A round takes the rows that it finds out of `rest`, so later ones do not find them again. -/
theorem descend_subperm (rounds : Nat) :
    ∀ (rest : List ElementRow) (level : List ElementId),
      (descend rounds rest level).Subperm (rest.map (·.id)) := by
  induction rounds with
  | zero => intro rest level; exact List.nil_subperm
  | succ rounds ih =>
      intro rest level
      have parted := (rows_perm rest level).map (·.id)
      rw [List.map_append] at parted
      rw [descend_succ]
      exact ((List.subperm_append_left _).2 (ih _ _)).trans parted.subperm

theorem nodup_subtree {t : Tables} (keyed : t.Keyed) (top : ElementId) :
    (t.subtree top).Nodup := by
  obtain ⟨found, perm, sublist⟩ :=
    descend_subperm t.elements.length (t.elements.filter (·.id != top)) [top]
  have others : (t.elements.filter (·.id != top)).map (·.id) |>.Nodup :=
    keyed.ids.sublist (List.filter_sublist.map _)
  refine List.nodup_cons.2 ⟨fun again => ?_, perm.nodup_iff.1 (others.sublist sublist)⟩
  obtain ⟨row, isOther, same⟩ := List.mem_map.1 (sublist.subset (perm.mem_iff.2 again))
  simp [same] at isOther

theorem holds_of_below {t : Tables} {top id : ElementId} (stored : t.Holds top)
    (below : t.Below top id) : t.Holds id := by
  cases below with
  | top => exact stored
  | child found => exact ⟨_, found, rfl⟩

/-- A subtree has as many ids as there are rows to take out. -/
theorem length_subtree {t : Tables} (keyed : t.Keyed) {top : ElementId} (stored : t.Holds top) :
    (t.subtree top).length + (t.without (t.subtree top)).elements.length = t.elements.length := by
  have rows : (t.subtree top).Perm
      ((t.elements.filter fun row => (t.subtree top).contains row.id).map (·.id)) := by
    refine (List.perm_ext_iff_of_nodup (nodup_subtree keyed top)
      (keyed.ids.sublist (List.filter_sublist.map _))).2 fun id => ?_
    simp only [List.mem_map, List.mem_filter, List.contains_iff_mem]
    constructor
    · intro member
      obtain ⟨row, found, rfl⟩ := holds_of_below stored (mem_subtree_iff.1 member)
      exact ⟨row, ⟨found, member⟩, rfl⟩
    · rintro ⟨row, ⟨-, member⟩, rfl⟩
      exact member
  rw [rows.length_eq, List.length_map]
  exact (List.length_eq_length_filter_add _).symm

/-- The element is below one of the tops. -/
def BelowAny (t : Tables) (tops : List ElementId) (id : ElementId) : Prop :=
  ∃ top ∈ tops, t.Below top id

instance (t : Tables) (tops : List ElementId) (id : ElementId) : Decidable (t.BelowAny tops id) :=
  inferInstanceAs (Decidable (∃ top ∈ tops, t.Below top id))

theorem not_belowAny_nil (t : Tables) (id : ElementId) : ¬ t.BelowAny [] id := by
  simp [BelowAny]

theorem belowAny_concat {t : Tables} {tops : List ElementId} {top id : ElementId} :
    t.BelowAny (tops ++ [top]) id ↔ t.BelowAny tops id ∨ t.Below top id := by
  simp [BelowAny, or_and_right, exists_or]

/-- What is left of `t` once all that was below some tops is gone. -/
def Pruned (t : Tables) (tops : List ElementId) (left : Tables) : Prop :=
  ∃ ids, (∀ id, id ∈ ids ↔ t.BelowAny tops id) ∧ left = t.without ids

namespace Pruned

theorem nil (t : Tables) : t.Pruned [] t :=
  ⟨[], by simp [not_belowAny_nil], by simp⟩

/-- Removing what is left of one more subtree. -/
theorem snoc {t left : Tables} {tops : List ElementId} {top : ElementId}
    (pruned : t.Pruned tops left) (kept : ¬ t.BelowAny tops top) :
    t.Pruned (tops ++ [top]) (left.without (left.subtree top)) := by
  obtain ⟨ids, gone, rfl⟩ := pruned
  have closed : t.Closed ids := by
    intro row stored parent isGone up
    obtain ⟨above, member, below⟩ := (gone parent).1 isGone
    exact (gone row.id).2 ⟨above, member, .child stored up below⟩
  have stays : top ∉ ids := fun isGone => kept ((gone top).1 isGone)
  refine ⟨ids ++ (t.without ids).subtree top, fun id => ?_, without_append t ids _⟩
  rw [List.mem_append, mem_subtree_iff, below_without_iff closed stays, gone, belowAny_concat]
  constructor
  · rintro (before | ⟨below, -⟩)
    · exact .inl before
    · exact .inr below
  · rintro (before | below)
    · exact .inl before
    · by_cases before : t.BelowAny tops id
      · exact .inl before
      · exact .inr ⟨below, before⟩

theorem mem_elements {t left : Tables} {tops : List ElementId} (pruned : t.Pruned tops left)
    {row : ElementRow} : row ∈ left.elements ↔ row ∈ t.elements ∧ ¬ t.BelowAny tops row.id := by
  obtain ⟨ids, gone, rfl⟩ := pruned
  rw [mem_elements_without, gone]

theorem mem_links {t left : Tables} {tops : List ElementId} (pruned : t.Pruned tops left)
    {link : Link} : link ∈ left.links ↔
      link ∈ t.links ∧ ¬ t.BelowAny tops link.source ∧ ¬ t.BelowAny tops link.target := by
  obtain ⟨ids, gone, rfl⟩ := pruned
  rw [mem_links_without, gone, gone]

theorem holds_iff {t left : Tables} {tops : List ElementId} (pruned : t.Pruned tops left)
    {id : ElementId} : left.Holds id ↔ t.Holds id ∧ ¬ t.BelowAny tops id := by
  simp only [Holds, pruned.mem_elements]
  constructor
  · rintro ⟨row, ⟨member, kept⟩, rfl⟩
    exact ⟨⟨row, member, rfl⟩, kept⟩
  · rintro ⟨⟨row, member, rfl⟩, kept⟩
    exact ⟨row, ⟨member, kept⟩, rfl⟩

theorem spared {t left : Tables} {tops : List ElementId} (pruned : t.Pruned tops left) :
    t.Spared left (t.BelowAny tops) := by
  obtain ⟨ids, gone, rfl⟩ := pruned
  exact spared_without gone

theorem keyed {t left : Tables} {tops : List ElementId} (pruned : t.Pruned tops left)
    (keyed : t.Keyed) : left.Keyed := by
  obtain ⟨ids, -, rfl⟩ := pruned
  exact keyed.without ids

end Pruned

end Registry.Tables
