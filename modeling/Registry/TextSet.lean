/-! # Sets of texts

Finite sets of texts, listed in ascending order. Two sets with the same members are equal.
-/

namespace Registry

/-- A finite set of texts. -/
structure TextSet where
  toList : List String
  ascending : toList.Pairwise (· < ·) := by decide
  deriving DecidableEq, Repr

namespace TextSet

/-- Put `s` at its place in an ascending list, once. -/
def place (s : String) : List String → List String
  | [] => [s]
  | t :: rest => if s < t then s :: t :: rest else if t < s then t :: place s rest else t :: rest

theorem mem_place {s t : String} {l : List String} : t ∈ place s l ↔ t = s ∨ t ∈ l := by
  induction l with
  | nil => simp [place]
  | cons u rest ih =>
      simp only [place]
      split
      · simp
      · split
        · simp only [List.mem_cons, ih]
          exact or_left_comm
        · rename_i hsu hus
          have : s = u := String.le_antisymm (String.not_lt.1 hus) (String.not_lt.1 hsu)
          simp [this]

theorem place_ascending {s : String} {l : List String} (h : l.Pairwise (· < ·)) :
    (place s l).Pairwise (· < ·) := by
  induction l with
  | nil => simp [place]
  | cons u rest ih =>
      simp only [place]
      split
      · rename_i hsu
        refine List.pairwise_cons.2 ⟨fun t ht => ?_, h⟩
        rcases List.mem_cons.1 ht with rfl | ht
        · exact hsu
        · exact String.lt_trans hsu ((List.pairwise_cons.1 h).1 t ht)
      · split
        · rename_i hus
          refine List.pairwise_cons.2 ⟨fun t ht => ?_, ih (List.pairwise_cons.1 h).2⟩
          rcases mem_place.1 ht with rfl | ht
          · exact hus
          · exact (List.pairwise_cons.1 h).1 t ht
        · exact h

/-- The set without members. -/
def empty : TextSet := ⟨[], .nil⟩

/-- Add a member. -/
def insert (set : TextSet) (s : String) : TextSet :=
  ⟨place s set.toList, place_ascending set.ascending⟩

/-- The members of a list. -/
def ofList (l : List String) : TextSet :=
  l.foldl insert empty

def contains (set : TextSet) (s : String) : Bool :=
  set.toList.contains s

def isEmpty (set : TextSet) : Bool :=
  set.toList.isEmpty

theorem nodup_toList (set : TextSet) : set.toList.Nodup := by
  refine List.nodup_iff_pairwise_ne.2 (set.ascending.imp ?_)
  rintro s t below rfl
  exact String.lt_irrefl _ below

theorem mem_insert {set : TextSet} {s t : String} :
    t ∈ (set.insert s).toList ↔ t = s ∨ t ∈ set.toList :=
  mem_place

theorem mem_ofList {l : List String} {t : String} : t ∈ (ofList l).toList ↔ t ∈ l := by
  suffices h : ∀ set : TextSet, t ∈ (l.foldl insert set).toList ↔ t ∈ set.toList ∨ t ∈ l by
    simpa [ofList, empty] using h empty
  induction l with
  | nil => simp
  | cons u rest ih =>
      intro set
      simp only [List.foldl_cons, ih, mem_insert, List.mem_cons]
      rw [or_assoc]
      exact or_left_comm

end TextSet
end Registry
