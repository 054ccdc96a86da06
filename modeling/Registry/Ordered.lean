/-! # Ordering rows

Stable sorting: rows of equal rank keep the order they had.
-/

namespace Registry

variable {α : Type}

/-- Put a row before the first one that it may precede. -/
def placeBy (le : α → α → Bool) (a : α) : List α → List α
  | [] => [a]
  | b :: rest => if le a b then a :: b :: rest else b :: placeBy le a rest

/-- Rows in ascending order. -/
def orderBy (le : α → α → Bool) (rows : List α) : List α :=
  rows.foldr (placeBy le) []

theorem placeBy_perm (le : α → α → Bool) (a : α) (l : List α) : (placeBy le a l).Perm (a :: l) := by
  induction l with
  | nil => exact .rfl
  | cons b rest ih =>
      simp only [placeBy]
      split
      · exact .rfl
      · exact (ih.cons b).trans (.swap a b rest)

theorem orderBy_perm (le : α → α → Bool) (l : List α) : (orderBy le l).Perm l := by
  induction l with
  | nil => exact .rfl
  | cons a rest ih => exact (placeBy_perm le a _).trans (ih.cons a)

theorem mem_orderBy {le : α → α → Bool} {a : α} {l : List α} : a ∈ orderBy le l ↔ a ∈ l :=
  (orderBy_perm le l).mem_iff

end Registry
