import Registry.TextSet

/-! # Maps from texts

Finite maps whose keys are texts, listed in ascending order of the keys. Putting a key that is
already there replaces its value.
-/

namespace Registry

/-- A finite map from texts. -/
structure TextMap (α : Type) where
  entries : List (String × α)
  ascending : entries.Pairwise (fun a b => a.1 < b.1) := by decide
  deriving DecidableEq, Repr

namespace TextMap

variable {α β : Type}

/-- Put an entry at its place in an ascending list, in the stead of one with its key. -/
def place (key : String) (value : α) : List (String × α) → List (String × α)
  | [] => [(key, value)]
  | (k, v) :: rest =>
      if key < k then (key, value) :: (k, v) :: rest
      else if k < key then (k, v) :: place key value rest
      else (key, value) :: rest

theorem mem_place {key : String} {value : α} {e : String × α} {l : List (String × α)}
    (h : e ∈ place key value l) : e = (key, value) ∨ e ∈ l := by
  induction l with
  | nil => simpa [place] using h
  | cons head rest ih =>
      simp only [place] at h
      split at h
      · simpa using h
      · split at h
        · rcases List.mem_cons.1 h with rfl | h
          · simp
          · exact (ih h).imp id (List.mem_cons_of_mem _)
        · rcases List.mem_cons.1 h with rfl | h
          · simp
          · exact .inr (List.mem_cons_of_mem _ h)

theorem place_ascending {key : String} {value : α} {l : List (String × α)}
    (h : l.Pairwise (fun a b => a.1 < b.1)) :
    (place key value l).Pairwise (fun a b => a.1 < b.1) := by
  induction l with
  | nil => simp [place]
  | cons head rest ih =>
      obtain ⟨below, tail⟩ := List.pairwise_cons.1 h
      simp only [place]
      split
      · rename_i hlt
        refine List.pairwise_cons.2 ⟨fun e he => ?_, h⟩
        rcases List.mem_cons.1 he with rfl | he
        · exact hlt
        · exact String.lt_trans hlt (below e he)
      · rename_i hnot
        split
        · rename_i hlt
          refine List.pairwise_cons.2 ⟨fun e he => ?_, ih tail⟩
          rcases mem_place he with rfl | he
          · exact hlt
          · exact below e he
        · rename_i hnot'
          have : key = head.1 := String.le_antisymm (String.not_lt.1 hnot') (String.not_lt.1 hnot)
          exact List.pairwise_cons.2 ⟨fun e he => this ▸ below e he, tail⟩

/-- The map without entries. -/
def empty : TextMap α := ⟨[], .nil⟩

/-- Set the value of a key. -/
def insert (map : TextMap α) (key : String) (value : α) : TextMap α :=
  ⟨place key value map.entries, place_ascending map.ascending⟩

/-- The entries of a list; of several with one key the last stays. -/
def ofList (l : List (String × α)) : TextMap α :=
  l.foldl (fun map e => map.insert e.1 e.2) empty

/-- One entry for each member of a set of keys. -/
def tabulate (keys : TextSet) (f : String → α) : TextMap α where
  entries := keys.toList.map fun key => (key, f key)
  ascending := List.pairwise_map.2 keys.ascending

def get? (map : TextMap α) (key : String) : Option α :=
  map.entries.lookup key

def isEmpty (map : TextMap α) : Bool :=
  map.entries.isEmpty

def keys (map : TextMap α) : List String :=
  map.entries.map (·.1)

def values (map : TextMap α) : List α :=
  map.entries.map (·.2)

/-- The entries whose values pass a test. -/
def filter (p : α → Bool) (m : TextMap α) : TextMap α where
  entries := m.entries.filter (p ·.2)
  ascending := m.ascending.sublist List.filter_sublist

/-- The same keys with other values. -/
def map (f : α → β) (m : TextMap α) : TextMap β where
  entries := m.entries.map fun entry => (entry.1, f entry.2)
  ascending := List.pairwise_map.2 m.ascending

theorem ext_entries {a b : TextMap α} (same : a.entries = b.entries) : a = b := by
  cases a
  cases b
  cases same
  rfl

theorem nodup_keys (m : TextMap α) : (m.entries.map (·.1)).Nodup := by
  refine List.pairwise_map.2 (m.ascending.imp ?_)
  rintro a b below same
  exact String.lt_irrefl _ (same ▸ below)

theorem lookup_cons [DecidableEq β] (key other : β) (value : α) (l : List (β × α)) :
    ((key, value) :: l).lookup other = if other = key then some value else l.lookup other := by
  rw [List.lookup_cons]
  by_cases same : other = key
  · simp [same]
  · simp [same, beq_eq_false_iff_ne.2 same]

theorem get?_eq_some_iff {m : TextMap α} {key : String} {a : α} :
    m.get? key = some a ↔ (key, a) ∈ m.entries := by
  obtain ⟨entries, ascending⟩ := m
  simp only [get?]
  induction entries with
  | nil => simp
  | cons head rest ih =>
      obtain ⟨k, v⟩ := head
      obtain ⟨first, later⟩ := List.pairwise_cons.1 ascending
      rw [lookup_cons, List.mem_cons, Prod.mk.injEq]
      by_cases same : key = k
      · subst same
        have absent : (key, a) ∉ rest := fun member =>
          String.lt_irrefl _ (first (key, a) member)
        simp [absent, eq_comm]
      · simp [same, ih later]

theorem get?_tabulate_eq_some_iff {keys : TextSet} {f : String → α} {key : String} {a : α} :
    (tabulate keys f).get? key = some a ↔ key ∈ keys.toList ∧ f key = a := by
  rw [get?_eq_some_iff, tabulate, List.mem_map]
  constructor
  · rintro ⟨listed, member, same⟩
    obtain ⟨rfl, rfl⟩ := Prod.mk.inj same
    exact ⟨member, rfl⟩
  · rintro ⟨member, rfl⟩
    exact ⟨key, member, rfl⟩

theorem get?_map (f : α → β) (m : TextMap α) (key : String) :
    (m.map f).get? key = (m.get? key).map f := by
  simp only [get?, map]
  induction m.entries with
  | nil => rfl
  | cons head rest ih =>
      obtain ⟨k, v⟩ := head
      rw [List.map_cons, lookup_cons, lookup_cons, ih]
      split <;> rfl

theorem lookup_place {key other : String} {value : α} (l : List (String × α)) :
    (place key value l).lookup other = if other = key then some value else l.lookup other := by
  induction l with
  | nil => exact lookup_cons ..
  | cons head rest ih =>
      obtain ⟨k, v⟩ := head
      simp only [place]
      split
      · exact lookup_cons ..
      · rename_i notBelow
        split
        · rename_i below
          have different : k ≠ key := fun same => String.lt_irrefl _ (same ▸ below)
          rw [lookup_cons, lookup_cons, ih]
          by_cases first : other = k
          · simp [first, different]
          · simp [first]
        · rename_i notAbove
          have same : key = k :=
            String.le_antisymm (String.not_lt.1 notAbove) (String.not_lt.1 notBelow)
          rw [lookup_cons, lookup_cons, same]
          split <;> rfl

theorem get?_insert (map : TextMap α) (key other : String) (value : α) :
    (map.insert key value).get? other = if other = key then some value else map.get? other :=
  lookup_place map.entries

theorem place_perm {key : String} {value : α} {l : List (String × α)} (absent : key ∉ l.map (·.1)) :
    (place key value l).Perm ((key, value) :: l) := by
  induction l with
  | nil => exact .rfl
  | cons head rest ih =>
      obtain ⟨other, laterAbsent⟩ := by simpa [not_or] using absent
      simp only [place]
      split
      · exact .rfl
      · split
        · exact ((ih (by simpa using laterAbsent)).cons head).trans (.swap _ _ rest)
        · rename_i notBelow notAbove
          have same : key = head.1 :=
            String.le_antisymm (String.not_lt.1 notAbove) (String.not_lt.1 notBelow)
          exact absurd same other

theorem foldl_insert_perm {l : List (String × α)} (map : TextMap α)
    (once : ((map.entries ++ l).map (·.1)).Nodup) :
    (l.foldl (fun map e => map.insert e.1 e.2) map).entries.Perm (map.entries ++ l) := by
  induction l generalizing map with
  | nil => simp
  | cons e rest ih =>
      have regrouped : (map.entries ++ e :: rest).Perm (e :: map.entries ++ rest) :=
        List.perm_middle
      have once := (regrouped.map (·.1)).nodup_iff.1 once
      have absent : e.1 ∉ map.entries.map (·.1) := fun member =>
        (List.nodup_cons.1 once).1 (by simp_all)
      have placed : ((map.insert e.1 e.2).entries ++ rest).Perm (e :: map.entries ++ rest) :=
        (place_perm absent).append_right rest
      have tail := ih (map.insert e.1 e.2) ((placed.map (·.1)).nodup_iff.2 once)
      exact tail.trans (placed.trans regrouped.symm)

theorem entries_ofList_perm {l : List (String × α)} (once : (l.map (·.1)).Nodup) :
    (ofList l).entries.Perm l :=
  foldl_insert_perm empty once

theorem get?_ofList_of_mem {l : List (String × α)} (once : (l.map (·.1)).Nodup)
    {e : String × α} (member : e ∈ l) : (ofList l).get? e.1 = some e.2 :=
  get?_eq_some_iff.2 ((entries_ofList_perm once).mem_iff.2 member)

end TextMap
end Registry
