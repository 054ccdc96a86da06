import Registry.Proofs.Cleanup.Forecast
import Registry.Proofs.Tables.References

/-! # Histories

Tables as their users change them: datasets are imported, elements removed and scopes cleaned up,
with and without success. A cleanup changes tables by removals only, so what holds of empty tables
and outlasts imports and removals holds throughout a history.
-/

namespace Registry

namespace Cleanup

variable {σ : Type} {P : σ → Prop} {service : Service σ}

theorem carryOut_keeps (keeps : ∀ m s, P s → P (service.execute m s).2) (requests : List Request) :
    ∀ (removed : List Removed) (s : σ), P s → P (carryOut service requests removed s).2 := by
  induction requests with
  | nil => intro removed s holds; exact holds
  | cons request rest ih =>
      intro removed s holds
      have next := keeps request.mutation s holds
      rw [carryOut]
      rcases answered : service.execute request.mutation s with ⟨error | done, after⟩
      · rwa [answered] at next
      · rw [answered] at next
        exact ih _ after next

/-- What each answer of a service keeps, a run keeps as well, wherever it ends. -/
theorem runOn_keeps (keeps : ∀ m s, P s → P (service.execute m s).2) (scope : ScopeId)
    (schema : Schema) (g : Snapshot) {s : σ} (holds : P s) :
    P (runOn service scope schema g s).2 := by
  rw [state_runOn]
  exact carryOut_keeps keeps _ _ s holds

end Cleanup

/-- A change of the tables. -/
inductive Operation where
  | importDataset (dataset : Dataset)
  | remove (id : ElementId)
  /-- Take a snapshot of a scope and clean it up, with a retrieval that may have been used before. -/
  | cleanUp (scope : ScopeId) (schema : Cleanup.Schema) (usage : Usage)
  /-- Clean up a snapshot that was taken before, or of something else. -/
  | cleanUpGraph (scope : ScopeId) (schema : Cleanup.Schema) (g : Snapshot)

namespace Operation

/-- The tables after an operation, whether it succeeds or fails. -/
def apply (t : Tables) : Operation → Tables
  | importDataset dataset => (t.importDataset dataset).2
  | remove id => (t.remove id).2
  | cleanUp scope schema usage =>
      (Cleanup.execute Source.tables Service.tables scope schema ⟨t, usage⟩).2.state
  | cleanUpGraph scope schema g => (Cleanup.runOn Service.tables scope schema g t).2

variable {t : Tables} {P : Tables → Prop}

theorem apply_keeps (imports : ∀ t dataset, P t → P (t.importDataset dataset).2)
    (removes : ∀ t id, P t → P (t.remove id).2) (reachable : t.Reachable) (holds : P t)
    (operation : Operation) : P (operation.apply t) := by
  have keeps : ∀ m t, P t → P (Service.tables.execute m t).2 := by
    intro m t holds
    rw [Service.state_tables]
    exact removes t m.element holds
  cases operation with
  | importDataset dataset => exact imports t dataset holds
  | remove id => exact removes t id holds
  | cleanUp scope schema usage =>
      obtain ⟨spent, ran⟩ :=
        Cleanup.execute_tables reachable.keyed Service.tables scope schema usage
      have after : P (Cleanup.runOn Service.tables scope schema (Cleanup.graph t scope schema) t).2 :=
        Cleanup.runOn_keeps keeps scope schema _ holds
      simpa only [apply, ran] using after
  | cleanUpGraph scope schema g => exact Cleanup.runOn_keeps keeps scope schema g holds

end Operation

namespace Tables

/-- What some operations make of empty tables. -/
def ofHistory (operations : List Operation) : Tables :=
  operations.foldl Operation.apply fresh

/-- What imports and removals keep is kept by every history. -/
theorem ofHistory_induction {P : Tables → Prop} (empty : P fresh)
    (imports : ∀ t dataset, P t → P (t.importDataset dataset).2)
    (removes : ∀ t id, P t → P (t.remove id).2) (operations : List Operation) :
    (ofHistory operations).Reachable ∧ P (ofHistory operations) := by
  refine List.foldlRecOn (motive := fun t => t.Reachable ∧ P t) _ _ ⟨.fresh, empty⟩ ?_
  rintro t ⟨reachable, holds⟩ operation _
  exact ⟨operation.apply_keeps (fun _ dataset before => .importDataset before dataset)
      (fun _ id before => .remove before id) reachable reachable,
    operation.apply_keeps imports removes reachable holds⟩

/-- After every history of imports, removals and cleanups each reference leads to a stored
    element. -/
theorem resolved_ofHistory (operations : List Operation) : (ofHistory operations).Resolved :=
  (ofHistory_induction resolved_fresh (fun _ dataset resolved => resolved.importDataset dataset)
    (fun _ id resolved => resolved.remove id) operations).2

end Tables
end Registry
