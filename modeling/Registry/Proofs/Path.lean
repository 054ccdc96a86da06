import Mathlib.Data.List.Basic
import Registry.Path

/-! # Joined paths and paths that are the same

The parts of a joined path are those of both paths, and paths that are the same are both empty or
both not.
-/

namespace Registry

namespace Text

theorem pieces_ne_nil (separator : Char) (cs : List Char) : pieces separator cs ≠ [] := by
  cases cs with
  | nil => simp [pieces]
  | cons c cs =>
      rw [pieces]
      split
      · simp
      · split <;> simp

theorem pieces_append (separator : Char) (cs rest : List Char) :
    pieces separator (cs ++ separator :: rest) = pieces separator cs ++ pieces separator rest := by
  induction cs with
  | nil => simp [pieces]
  | cons c cs ih =>
      rw [List.cons_append, pieces, pieces, ih]
      split
      · rfl
      · cases found : pieces separator cs with
        | nil => exact absurd found (pieces_ne_nil separator cs)
        | cons piece more => rfl

end Text

namespace Path

variable {p q r : Path}

theorem join_of_isEmpty (relative : q.isAbsolute = false) (empty : p.isEmpty = true) :
    p.join q = q := by
  obtain ⟨text⟩ := p
  obtain rfl : text = "" := by simpa [isEmpty] using empty
  simp [join, relative, isEmpty]

/-- The text of a joined path is that of the upper one, a slash behind it, and the lower one. -/
theorem text_join (relative : q.isAbsolute = false) (notEmpty : p.isEmpty = false) :
    ∃ above, (p.join q).text.toList = above ++ '/' :: q.text.toList ∧
      (p.text.toList = above ∨ p.text.toList = above ++ ['/']) := by
  cases ends : p.text.toList.getLast? == some '/' with
  | true =>
      obtain ⟨above, same⟩ := List.getLast?_eq_some_iff.1 (eq_of_beq ends)
      refine ⟨above, ?_, .inr same⟩
      simp only [join, relative, notEmpty, ends]
      simp [same]
  | false =>
      refine ⟨p.text.toList, ?_, .inl rfl⟩
      simp only [join, relative, notEmpty, ends]
      simp

theorem parts_join (relative : q.isAbsolute = false) (notEmpty : p.isEmpty = false) :
    ∃ above, (p.join q).parts = above ++ q.parts ∧
      (p.parts = above ∨ p.parts = above ++ [""]) := by
  obtain ⟨above, joined, same⟩ := text_join relative notEmpty
  refine ⟨(Text.pieces '/' above).map String.ofList, ?_, same.imp ?_ ?_⟩
  · rw [parts, joined, Text.pieces_append, List.map_append, ← parts]
  · rintro rfl
    rfl
  · intro same
    rw [parts, same, Text.pieces_append, List.map_append]
    rfl

theorem isEmpty_iff : p.isEmpty = true ↔ p.text.toList = [] := by
  simp [isEmpty]

theorem isAbsolute_join (relative : q.isAbsolute = false) (notEmpty : p.isEmpty = false) :
    (p.join q).isAbsolute = p.isAbsolute := by
  obtain ⟨above, joined, same⟩ := text_join relative notEmpty
  have notNil : p.text.toList ≠ [] := fun nil => by simp [isEmpty_iff.2 nil] at notEmpty
  rw [isAbsolute, isAbsolute, joined]
  cases above with
  | nil =>
      rcases same with same | same
      · exact absurd same notNil
      · simp [same]
  | cons c above => rcases same with same | same <;> simp [same]

theorem isEmpty_join (relative : q.isAbsolute = false) (notEmpty : p.isEmpty = false) :
    (p.join q).isEmpty = false := by
  obtain ⟨above, joined, -⟩ := text_join relative notEmpty
  refine Bool.eq_false_iff.2 fun empty => ?_
  simp [isEmpty_iff.1 empty] at joined

theorem same_refl (p : Path) : p.same p = true := by
  simp [same]

theorem same_comm : p.same q = q.same p := by
  rw [same, same, Bool.beq_comm, BEq.comm (a := p.components)]

/-- A path that is the same as another is the same as whatever that one is. -/
theorem same_congr (agree : p.same q = true) : p.same r = q.same r := by
  simp only [same, Bool.and_eq_true, beq_iff_eq] at agree
  rw [same, same, agree.1, agree.2]

theorem same_trans (agree : p.same q = true) (agree' : q.same r = true) : p.same r = true :=
  (same_congr agree).trans agree'

/-- Only the empty path has neither a slash in front nor a component. -/
theorem isEmpty_eq (p : Path) : p.isEmpty = (!p.isAbsolute && p.components.isEmpty) := by
  have empty : p.isEmpty = p.text.toList.isEmpty := by
    rw [Bool.eq_iff_iff, isEmpty_iff, List.isEmpty_iff]
  rw [empty, components, parts, isAbsolute]
  cases p.text.toList with
  | nil => rfl
  | cons c rest =>
      by_cases slash : c = '/'
      · simp [slash]
      · rw [Text.pieces, if_neg slash]
        cases Text.pieces '/' rest <;> simp [← String.toList_inj]

theorem isEmpty_of_same (agree : p.same q = true) : p.isEmpty = q.isEmpty := by
  simp only [same, Bool.and_eq_true, beq_iff_eq] at agree
  rw [isEmpty_eq, isEmpty_eq, agree.1, agree.2]

end Path
end Registry
