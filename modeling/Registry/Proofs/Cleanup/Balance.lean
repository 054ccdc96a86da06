import Registry.Proofs.Cleanup.Repeat
import Mathlib.Algebra.GroupWithZero.Nat

/-! # Balance of a cleanup

A run that succeeds takes the subtrees of what it reports as removed, as they were before it, and
leaves all other rows alone. Every removal takes what earlier ones have left of a subtree, so no
element is counted twice.
-/

namespace Registry

namespace Tables

variable {t left : Tables} {tops : List ElementId}

theorem Pruned.gone_iff (pruned : t.Pruned tops left) (stored : ∀ top ∈ tops, t.Holds top)
    {id : ElementId} : t.Holds id ∧ ¬ left.Holds id ↔ t.BelowAny tops id := by
  rw [pruned.holds_iff]
  constructor
  · rintro ⟨held, gone⟩
    by_contra apart
    exact gone ⟨held, apart⟩
  · intro below
    obtain ⟨top, member, isBelow⟩ := below
    exact ⟨holds_of_below (stored top member) isBelow, fun kept => kept.2 ⟨top, member, isBelow⟩⟩

end Tables

namespace Cleanup

variable {t : Tables} {scope : ScopeId} {schema : Schema}

/-- A report tells all of the difference between the tables before a run and those after it. -/
structure Report.Balances (report : Report) (t left : Tables) : Prop where
  gone : ∀ id, t.Holds id ∧ ¬ left.Holds id ↔ t.BelowAny report.removedIds id
  counted : ∃ counts : List Nat, report.removed.map (·.deleted) = counts.map some ∧
    counts.sum + left.elements.length = t.elements.length
  spared : t.Spared left (t.BelowAny report.removedIds)

/-- A removal is reported with the number of rows by which it makes the tables shorter. -/
theorem counts_of_carryOut {requests : List Request} :
    ∀ {left after : Tables} {removed all : List Removed}, left.Keyed →
      carryOut Service.tables requests removed left = (.ok all, after) →
      ∃ counts : List Nat, all.map (·.deleted) = removed.map (·.deleted) ++ counts.map some ∧
        counts.sum + after.elements.length = left.elements.length := by
  induction requests with
  | nil =>
      intro left after removed all keyed finished
      cases finished
      exact ⟨[], by simp, by simp⟩
  | cons request rest ih =>
      intro left after removed all keyed finished
      obtain ⟨stored, finished⟩ := carryOut_cons_eq_ok_iff.1 finished
      obtain ⟨counts, deleted, shorter⟩ := ih (keyed.without _) finished
      refine ⟨(left.subtree request.id).length :: counts, ?_, ?_⟩
      · rw [deleted]
        simp [Request.entry]
      -- the subtree is one of what is left, so that earlier removals have no part in it
      · have taken := Tables.length_subtree keyed stored
        rw [List.sum_cons]
        omega

/-- A cleanup of tables that succeeds accounts for every row that is gone. -/
theorem execute_balances (keyed : t.Keyed) {usage : Usage} {report : Report} {r : Retrieval Tables}
    (ran : execute Source.tables Service.tables scope schema ⟨t, usage⟩ = (.ok report, r)) :
    report.Balances t r.state := by
  obtain ⟨pruned, ids⟩ := pruned_of_execute keyed ran
  have stored : ∀ top ∈ report.removedIds, t.Holds top := by
    intro top member
    rw [ids] at member
    obtain ⟨request, isRequested, rfl⟩ := List.mem_map.1 member
    exact holds_of_mem_requests keyed scope schema request isRequested
  exact {
    gone := fun id => pruned.gone_iff stored
    counted := by simpa using counts_of_carryOut keyed (carryOut_of_execute keyed ran)
    spared := pruned.spared }

theorem execute_balances_assetInControl :
    assetInControlTables.Keyed ∧
      ∃ report r, execute Source.tables Service.tables 1 {} ⟨assetInControlTables, {}⟩ =
          (.ok report, r) ∧
        report.Balances assetInControlTables r.state :=
  have keyed := reachable_assetInControlTables.keyed
  have ran := Prod.ext execute_assetInControl rfl
  ⟨keyed, _, _, ran, execute_balances keyed ran⟩

end Cleanup
end Registry
