import Registry.Ordered
import Mathlib.Data.List.Induction
import Mathlib.Data.List.Nodup
import Mathlib.Data.List.Pairwise

/-! # Rows in lists

A table is a list of rows. What is said here of lists is what its operations rest on: sorting by a
key, keeping first occurrences, and looking a row up by a key that no other row has.
-/

namespace Registry

variable {α β : Type}

section Sorting

variable {le : α → α → Bool}

theorem placeBy_ascending (total : ∀ a b, le a b = true ∨ le b a = true)
    (trans : ∀ a b c, le a b = true → le b c = true → le a c = true) (a : α) {l : List α}
    (ascending : l.Pairwise (le · ·)) : (placeBy le a l).Pairwise (le · ·) := by
  induction l with
  | nil => simp [placeBy]
  | cons b rest ih =>
      obtain ⟨first, ordered⟩ := List.pairwise_cons.1 ascending
      simp only [placeBy]
      split
      · rename_i before
        refine List.pairwise_cons.2 ⟨?_, ascending⟩
        intro c member
        rcases List.mem_cons.1 member with rfl | later
        · exact before
        · exact trans a b c before (first c later)
      · rename_i after
        refine List.pairwise_cons.2 ⟨?_, ih ordered⟩
        intro c member
        rcases List.mem_cons.1 ((placeBy_perm le a rest).mem_iff.1 member) with rfl | later
        · exact (total c b).resolve_left after
        · exact first c later

theorem orderBy_ascending (total : ∀ a b, le a b = true ∨ le b a = true)
    (trans : ∀ a b c, le a b = true → le b c = true → le a c = true) (rows : List α) :
    (orderBy le rows).Pairwise (le · ·) := by
  induction rows with
  | nil => exact List.Pairwise.nil
  | cons a rest ih => exact placeBy_ascending total trans a ih

theorem eq_mergeSort [LE β] [DecidableLE β] [Std.IsLinearOrder β] {l l' : List β}
    (same : l.Perm l') (ascending : l.Pairwise (· ≤ ·)) : l = l'.mergeSort := by
  have merged : l'.mergeSort.Pairwise fun a b => decide (a ≤ b) = true :=
    List.pairwise_mergeSort (fun a b c => by simpa using Std.le_trans)
      (fun a b => by simpa using Std.le_total) l'
  exact (same.trans (List.mergeSort_perm _ _).symm).eq_of_pairwise
    (fun _ _ _ _ => Std.le_antisymm) ascending (merged.imp (by simp))

theorem map_orderBy_key [LE β] [DecidableLE β] [Std.IsLinearOrder β] (key : α → β)
    (rows : List α) :
    (orderBy (fun a b => key a ≤ key b) rows).map key = (rows.map key).mergeSort := by
  have sorted : (orderBy (fun a b => key a ≤ key b) rows).Pairwise
      fun a b => decide (key a ≤ key b) = true :=
    orderBy_ascending (fun a b => by simpa using Std.le_total)
      (fun a b c => by simpa using Std.le_trans) rows
  exact eq_mergeSort ((orderBy_perm _ rows).map key) (List.pairwise_map.2 (sorted.imp (by simp)))

theorem filter_mergeSort [LE β] [DecidableLE β] [Std.IsLinearOrder β] (p : β → Bool)
    (l : List β) : l.mergeSort.filter p = (l.filter p).mergeSort := by
  have sorted : l.mergeSort.Pairwise fun a b => decide (a ≤ b) = true :=
    List.pairwise_mergeSort (fun a b c => by simpa using Std.le_trans)
      (fun a b => by simpa using Std.le_total) l
  exact eq_mergeSort ((List.mergeSort_perm l _).filter p) ((sorted.imp (by simp)).filter p)

theorem placeBy_of_first {a : α} {l : List α} (first : ∀ b ∈ l, le a b = true) :
    placeBy le a l = a :: l := by
  cases l with
  | nil => rfl
  | cons b rest => simp only [placeBy, first b List.mem_cons_self, if_true]

theorem orderBy_of_ascending {rows : List α} (ascending : rows.Pairwise (le · ·)) :
    orderBy le rows = rows := by
  induction rows with
  | nil => rfl
  | cons a rest ih =>
      obtain ⟨first, ordered⟩ := List.pairwise_cons.1 ascending
      unfold orderBy at ih ⊢
      rw [List.foldr_cons, ih ordered, placeBy_of_first first]

/-- Rows in strictly ascending order of a key are told by which they are. -/
theorem eq_of_ascending [LT β] [Std.Asymm (α := β) (· < ·)] (key : α → β) {l l' : List α}
    (ascending : l.Pairwise (key · < key ·)) (ascending' : l'.Pairwise (key · < key ·))
    (same : ∀ a, a ∈ l ↔ a ∈ l') : l = l' := by
  have once : ∀ {l : List α}, l.Pairwise (key · < key ·) → l.Nodup := by
    intro l ordered
    refine List.nodup_iff_pairwise_ne.2 (ordered.imp ?_)
    rintro a b below rfl
    exact Std.Asymm.asymm _ _ below below
  refine ((List.perm_ext_iff_of_nodup (once ascending) (once ascending')).2 same).eq_of_pairwise
    ?_ ascending ascending'
  intro a b _ _ below above
  exact absurd above (Std.Asymm.asymm _ _ below)

/-- Sorted by a text that no two of them share, rows ascend strictly. -/
theorem orderBy_strict (key : α → String) {rows : List α} (once : (rows.map key).Nodup) :
    (orderBy (fun a b => !(key b < key a : Bool)) rows).Pairwise (key · < key ·) := by
  have atMost : ∀ a b, (!(key b < key a : Bool)) = true ↔ key a ≤ key b := by
    intro a b
    rw [Bool.not_eq_true', decide_eq_false_iff_not, String.not_lt]
  have sorted : (orderBy (fun a b => !(key b < key a : Bool)) rows).Pairwise
      fun a b => !(key b < key a : Bool) := by
    refine orderBy_ascending (fun a b => ?_) (fun a b c => ?_) rows
    · rw [atMost, atMost]
      exact String.le_total _ _
    · rw [atMost, atMost, atMost]
      exact String.le_trans
  refine sorted.imp₂ (fun a b notAbove differ => ?_)
    (List.pairwise_map.1 (((orderBy_perm _ rows).map key).nodup_iff.2 once))
  exact Std.lt_of_le_of_ne ((atMost a b).1 notAbove) differ

end Sorting

theorem flatMap_filter_of_nil {f : α → List β} {p : α → Bool} {l : List α}
    (nothing : ∀ a ∈ l, ¬ p a = true → f a = []) : (l.filter p).flatMap f = l.flatMap f := by
  induction l with
  | nil => rfl
  | cons a rest ih =>
      obtain ⟨first, later⟩ := List.forall_mem_cons.1 nothing
      by_cases kept : p a = true
      · rw [List.filter_cons_of_pos kept, List.flatMap_cons, List.flatMap_cons, ih later]
      · rw [List.filter_cons_of_neg kept, List.flatMap_cons, first kept, ih later, List.nil_append]

theorem nodup_concat {l : List α} (once : l.Nodup) {a : α} (new : a ∉ l) : (l ++ [a]).Nodup := by
  rw [← List.concat_eq_append]
  exact once.concat new

section FirstOccurrences

variable [DecidableEq α]

theorem eraseDups_concat (l : List α) (a : α) :
    (l ++ [a]).eraseDups = if a ∈ l then l.eraseDups else l.eraseDups ++ [a] := by
  rw [List.eraseDups_append]
  by_cases h : a ∈ l
  · have gone : [a].removeAll l = [] := by simp [List.removeAll, h]
    simp [gone, h]
  · have kept : [a].removeAll l = [a] := by simp [List.removeAll, h]
    simp [kept, h, List.eraseDups_cons]

theorem nodup_eraseDups (l : List α) : l.eraseDups.Nodup := by
  induction l using List.reverseRecOn with
  | nil => simp
  | append_singleton l a ih =>
      rw [eraseDups_concat]
      split
      · exact ih
      · rename_i new
        exact nodup_concat ih fun old => new (List.mem_eraseDups.1 old)

theorem eraseDups_of_nodup {l : List α} (once : l.Nodup) : l.eraseDups = l := by
  induction l using List.reverseRecOn with
  | nil => rfl
  | append_singleton l a ih =>
      rw [← List.concat_eq_append, List.nodup_concat] at once
      rw [eraseDups_concat, if_neg once.1, ih once.2]

theorem eraseDups_append_of_nodup {l l' : List α} (once : l.Nodup) (once' : l'.Nodup) :
    (l ++ l').eraseDups = l ++ l'.filter (· ∉ l) := by
  have rest : l'.removeAll l = l'.filter (· ∉ l) := by
    simp [List.removeAll]
  rw [List.eraseDups_append, eraseDups_of_nodup once, rest, eraseDups_of_nodup (once'.filter _)]

/-- A map that tells the entries apart keeps their first occurrences. -/
theorem eraseDups_map [DecidableEq β] {f : α → β} {l : List α}
    (apart : ∀ a ∈ l, ∀ b ∈ l, f a = f b → a = b) :
    (l.map f).eraseDups = l.eraseDups.map f := by
  induction l using List.reverseRecOn with
  | nil => rfl
  | append_singleton l a ih =>
      have before : (l.map f).eraseDups = l.eraseDups.map f := ih fun b isBefore c isBefore' =>
        apart b (List.mem_append_left _ isBefore) c (List.mem_append_left _ isBefore')
      have again : f a ∈ l.map f ↔ a ∈ l := by
        constructor
        · intro member
          obtain ⟨b, isBefore, same⟩ := List.mem_map.1 member
          rwa [← apart b (List.mem_append_left _ isBefore) a (by simp) same]
        · exact List.mem_map_of_mem
      rw [List.map_append, List.map_singleton, eraseDups_concat, eraseDups_concat, before]
      by_cases old : a ∈ l <;> simp [again, old]

theorem filter_eraseDups (p : α → Bool) (l : List α) :
    l.eraseDups.filter p = (l.filter p).eraseDups := by
  induction l using List.reverseRecOn with
  | nil => rfl
  | append_singleton l a ih =>
      rw [eraseDups_concat, List.filter_append]
      by_cases kept : p a = true
      · rw [List.filter_cons_of_pos kept, List.filter_nil, eraseDups_concat, ← ih]
        by_cases old : a ∈ l <;> simp [old, kept]
      · rw [List.filter_cons_of_neg kept, List.filter_nil, List.append_nil, ← ih]
        by_cases old : a ∈ l <;> simp [old, kept]

end FirstOccurrences

section Keys

variable {key : α → β}

theorem any_key_iff [DecidableEq β] (l : List α) (k : β) :
    l.any (key · == k) = true ↔ k ∈ l.map key := by
  simp

theorem isSome_find?_key [DecidableEq β] (l : List α) (k : β) :
    (l.find? (key · == k)).isSome = true ↔ k ∈ l.map key := by
  simp

theorem find?_key_eq_some_iff [DecidableEq β] {l : List α} (once : (l.map key).Nodup) {k : β}
    {row : α} : l.find? (key · == k) = some row ↔ row ∈ l ∧ key row = k := by
  constructor
  · intro found
    exact ⟨List.mem_of_find?_eq_some found, by simpa using List.find?_some found⟩
  · rintro ⟨member, rfl⟩
    have present : (l.find? (key · == key row)).isSome = true :=
      (isSome_find?_key l _).2 (List.mem_map_of_mem member)
    obtain ⟨found, isFound⟩ := Option.isSome_iff_exists.1 present
    have sameKey : key found = key row := by simpa using List.find?_some isFound
    rw [isFound, List.inj_on_of_nodup_map once (List.mem_of_find?_eq_some isFound) member sameKey]

theorem nodup_map_concat {l : List α} (once : (l.map key).Nodup) {row : α}
    (new : key row ∉ l.map key) : ((l ++ [row]).map key).Nodup := by
  rw [List.map_append, List.map_singleton]
  exact nodup_concat once new

/-- Keys that no two rows share and that are not among those that were there. -/
def NewKeys (old new : List β) : Prop :=
  new.Nodup ∧ ∀ k ∈ new, k ∉ old

theorem newKeys_nil (old : List β) : NewKeys old [] :=
  ⟨List.nodup_nil, by simp⟩

theorem newKeys_cons_iff {old new : List β} {k : β} :
    NewKeys old (k :: new) ↔ k ∉ old ∧ NewKeys (k :: old) new := by
  simp only [NewKeys, List.nodup_cons, List.mem_cons, forall_eq_or_imp, not_or]
  constructor
  · rintro ⟨⟨first, once⟩, new, later⟩
    exact ⟨new, once, fun other member => ⟨fun same => first (same ▸ member), later other member⟩⟩
  · rintro ⟨new, once, later⟩
    exact ⟨⟨fun again => (later k again).1 rfl, once⟩, new, fun other member =>
      (later other member).2⟩

theorem newKeys_concat_iff {old new : List β} {k : β} :
    NewKeys (old ++ [k]) new ↔ NewKeys (k :: old) new := by
  have same : ∀ other, other ∈ old ++ [k] ↔ other ∈ k :: old := by
    simp [or_comm]
  simp only [NewKeys, same]

theorem filter_key_of_all [DecidableEq β] {l : List α} {k : β} (all : ∀ a ∈ l, key a = k) :
    l.filter (key · == k) = l :=
  List.filter_eq_self.2 (by simpa using all)

theorem filter_key_of_none [DecidableEq β] {l : List α} {k : β} (none : ∀ a ∈ l, key a ≠ k) :
    l.filter (key · == k) = [] :=
  List.filter_eq_nil_iff.2 (by simpa using none)

theorem filter_key [DecidableEq β] {l : List α} (once : (l.map key).Nodup) {row : α}
    (member : row ∈ l) : l.filter (key · == key row) = [row] := by
  induction l with
  | nil => cases member
  | cons first rest ih =>
      obtain ⟨new, once⟩ := List.nodup_cons.1 once
      cases member with
      | head =>
          have others : ∀ other ∈ rest, key other ≠ key row := fun other later same =>
            new (List.mem_map.2 ⟨other, later, same⟩)
          rw [List.filter_cons_of_pos (by simp), filter_key_of_none others]
      | tail _ later =>
          have different : key first ≠ key row := fun same =>
            new (same ▸ List.mem_map_of_mem later)
          rw [List.filter_cons_of_neg (by simpa using different), ih once later]

/-- What belongs to a key, of all that belongs to the rows of a table. -/
theorem filter_flatMap_key {γ : Type} [DecidableEq β] (key : α → β) {l : List α} {f : α → List γ}
    {tag : γ → β} (tagged : ∀ a ∈ l, ∀ c ∈ f a, tag c = key a) (k : β) :
    (l.flatMap f).filter (tag · == k) = (l.filter (key · == k)).flatMap f := by
  induction l with
  | nil => rfl
  | cons a rest ih =>
      obtain ⟨here, later⟩ := List.forall_mem_cons.1 tagged
      rw [List.flatMap_cons, List.filter_append, ih later]
      by_cases same : key a = k
      · rw [filter_key_of_all fun c member => (here c member).trans same,
          List.filter_cons_of_pos (by simpa using same), List.flatMap_cons]
      · rw [filter_key_of_none fun c member isKey => same ((here c member).symm.trans isKey),
          List.filter_cons_of_neg (by simpa using same), List.nil_append]

/-- Rows that come in groups, each of one key, can be put together again by key. -/
theorem eq_flatMap_filter_key {γ : Type} [DecidableEq β] {name : γ → β} {parts : γ → List β}
    {groups : List γ} (once : (groups.map name).Nodup)
    (uniform : ∀ g ∈ groups, ∀ k ∈ parts g, k = name g) :
    ∀ {l : List α}, l.map key = groups.flatMap parts →
      l = (groups.map name).flatMap fun k => l.filter (key · == k) := by
  induction groups with
  | nil =>
      intro l same
      simpa using same
  | cons g rest ih =>
      intro l same
      obtain ⟨new, once⟩ := List.nodup_cons.1 once
      obtain ⟨uniform, uniformLater⟩ := List.forall_mem_cons.1 uniform
      obtain ⟨here, later, rfl, isHere, isLater⟩ := List.map_eq_append_iff.1 same
      rw [← List.flatMap_def] at isLater
      have ofGroup : ∀ a ∈ here, key a = name g := by
        intro a member
        refine uniform _ ?_
        rw [← isHere]
        exact List.mem_map_of_mem member
      have ofLater : ∀ a ∈ later, key a ∈ rest.map name := by
        intro a member
        have isPart : key a ∈ rest.flatMap parts := by
          rw [← isLater]
          exact List.mem_map_of_mem member
        obtain ⟨other, isOther, isKey⟩ := List.mem_flatMap.1 isPart
        rw [uniformLater other isOther _ isKey]
        exact List.mem_map_of_mem isOther
      have group : (here ++ later).filter (key · == name g) = here := by
        have apart : ∀ a ∈ later, key a ≠ name g := fun a member isKey =>
          new (isKey ▸ ofLater a member)
        rw [List.filter_append, filter_key_of_all ofGroup, filter_key_of_none apart,
          List.append_nil]
      have others : (rest.map name).flatMap (fun k => (here ++ later).filter (key · == k)) =
          (rest.map name).flatMap fun k => later.filter (key · == k) := by
        refine List.flatMap_congr fun k member => ?_
        have apart : ∀ a ∈ here, key a ≠ k := fun a isHere isKey =>
          new (ofGroup a isHere ▸ isKey ▸ member)
        rw [List.filter_append, filter_key_of_none apart, List.nil_append]
      rw [List.map_cons, List.flatMap_cons, group, others, ← ih once uniformLater isLater]

/-- Rows that differ in their keys, each where its key comes last. -/
def lastBy [DecidableEq β] (key : α → β) (rows : List α) : List α :=
  rows.pwFilter fun a b => key a ≠ key b

/-- Rows that are put in as far as their keys are new come after those that were there. -/
theorem eraseDupsBy_append [BEq β] [LawfulBEq β] {rows : List α} (once : (rows.map key).Nodup) :
    ∀ later : List α, (rows ++ later).eraseDupsBy (key · == key ·) =
      rows ++ (later.filter fun row => !(rows.map key).contains (key row)).eraseDupsBy
        (key · == key ·) := by
  induction rows with
  | nil => intro later; simp
  | cons row rest ih =>
      intro later
      obtain ⟨new, once⟩ := List.nodup_cons.1 once
      have kept : rest.filter (fun other => (key other == key row) = false) = rest := by
        refine List.filter_eq_self.2 fun other member => ?_
        have different : key other ≠ key row := fun same =>
          new (same ▸ List.mem_map_of_mem member)
        simpa using different
      have twice : (later.filter fun other => (key other == key row) = false).filter
            (fun other => !(rest.map key).contains (key other)) =
          later.filter fun other => !((row :: rest).map key).contains (key other) := by
        rw [List.filter_filter]
        refine List.filter_congr fun other _ => ?_
        rw [List.map_cons, List.contains_cons, Bool.not_or, Bool.and_comm, Bool.decide_eq_false]
      rw [List.cons_append, List.eraseDupsBy_cons, List.filter_append, kept, ih once, twice,
        List.cons_append]

end Keys

end Registry
