import Registry.Proofs.Cleanup.Graph
import Registry.Proofs.Tables.Subtree

/-! # Cleanup of the tables themselves

A removal takes a subtree with it, but a run only remembers what it asked for itself. It fails as
soon as it asks for something below an element that it has removed before, and it succeeds if it
never does.
-/

namespace Registry.Cleanup

variable {t : Tables}

theorem execute_mutation (request : Request) (t : Tables) :
    Service.tables.execute request.mutation t =
      match t.remove request.id with
      | (.ok removed, t) => (.ok { request.mutation with removed := some removed }, t)
      | (.error cause, t) => (.error (.execution request.mutation.display cause), t) :=
  rfl

theorem execute_of_holds {request : Request} (stored : t.Holds request.id) :
    Service.tables.execute request.mutation t =
      (.ok { request.mutation with removed := some (t.subtree request.id).length },
        t.without (t.subtree request.id)) := by
  rw [execute_mutation, Tables.remove_of_holds stored]

theorem execute_of_not_holds {request : Request} (gone : ¬ t.Holds request.id) :
    Service.tables.execute request.mutation t =
      (.error (.execution request.mutation.display (.elementNotFound request.id)), t) := by
  rw [execute_mutation, Tables.remove_of_not_holds gone]

/-- A run goes on after its first request iff the element is there, and without what is below it. -/
theorem carryOut_cons_eq_ok_iff {request : Request} {rest : List Request} {after : Tables}
    {removed all : List Removed} :
    carryOut Service.tables (request :: rest) removed t = (.ok all, after) ↔
      t.Holds request.id ∧
        carryOut Service.tables rest
          (removed ++
            [request.entry { request.mutation with removed := some (t.subtree request.id).length }])
          (t.without (t.subtree request.id)) = (.ok all, after) := by
  rw [carryOut]
  by_cases stored : t.Holds request.id
  · rw [execute_of_holds stored]
    exact (and_iff_right stored).symm
  · rw [execute_of_not_holds stored]
    constructor
    · intro failed
      cases failed
    · rintro ⟨found, -⟩
      exact absurd found stored

/-- After a run without failure, just what was below a requested element is gone. -/
theorem pruned_of_carryOut {requests : List Request} :
    ∀ {left after : Tables} {tops : List ElementId} {removed all : List Removed},
      t.Pruned tops left →
      carryOut Service.tables requests removed left = (.ok all, after) →
      t.Pruned (tops ++ requests.map Request.id) after ∧
        all.map (·.element) = removed.map (·.element) ++ requests.map Request.id := by
  induction requests with
  | nil =>
      intro left after tops removed all pruned finished
      cases finished
      simpa using pruned
  | cons request rest ih =>
      intro left after tops removed all pruned finished
      obtain ⟨stored, finished⟩ := carryOut_cons_eq_ok_iff.1 finished
      obtain ⟨later, ids⟩ := ih (pruned.snoc (pruned.holds_iff.1 stored).2) finished
      rw [List.map_cons, List.append_cons]
      refine ⟨later, ids.trans ?_⟩
      simp [Request.entry, Request.mutation, Mutation.remove, Request.id]

/-- Requests for stored elements all succeed iff none is below one of the tops, nor below an element
    that was requested before it. -/
theorem carryOut_succeeds_iff {requests : List Request} :
    ∀ {left : Tables} {tops : List ElementId} (removed : List Removed), t.Pruned tops left →
      (∀ request ∈ requests, t.Holds request.id) →
      ((∃ all after, carryOut Service.tables requests removed left = (.ok all, after)) ↔
        (∀ request ∈ requests, ¬ t.BelowAny tops request.id) ∧
          (requests.map Request.id).Pairwise fun earlier later => ¬ t.Below earlier later) := by
  induction requests with
  | nil => simp [carryOut]
  | cons request rest ih =>
      intro left tops removed pruned stored
      rw [carryOut]
      by_cases taken : t.BelowAny tops request.id
      · -- it went with an earlier removal, so that this one fails
        rw [execute_of_not_holds fun found => (pruned.holds_iff.1 found).2 taken]
        simp [taken]
      · rw [execute_of_holds (pruned.holds_iff.2 ⟨stored request List.mem_cons_self, taken⟩)]
        refine (ih _ (pruned.snoc taken) fun later member =>
          stored later (List.mem_cons_of_mem _ member)).trans ?_
        simp only [Tables.belowAny_concat, List.map_cons, List.pairwise_cons, List.forall_mem_cons,
          List.forall_mem_map]
        constructor
        · rintro ⟨apart, ordered⟩
          exact ⟨⟨taken, fun later member below => apart later member (.inl below)⟩,
            fun later member below => apart later member (.inr below), ordered⟩
        · rintro ⟨⟨-, apart⟩, first, ordered⟩
          exact ⟨fun later member below => below.elim (apart later member) (first later member),
            ordered⟩

/-- A cleanup of tables succeeds iff in a dry run no request is below an earlier one. -/
theorem execute_succeeds_iff (keyed : t.Keyed) (scope : ScopeId) (schema : Schema) (usage : Usage) :
    (∃ report r, execute Source.tables Service.tables scope schema ⟨t, usage⟩ = (.ok report, r)) ↔
      (previewed t scope schema).Pairwise fun earlier later => ¬ t.Below earlier later := by
  obtain ⟨spent, ran⟩ := execute_tables keyed Service.tables scope schema usage
  have possible := carryOut_succeeds_iff [] (.nil t) (holds_of_mem_requests keyed scope schema)
  rw [ran, previewed_eq keyed, runOn_eq]
  refine Iff.trans ?_ (possible.trans (by simp [Tables.not_belowAny_nil]))
  rcases carryOut Service.tables (requests (graph t scope schema) schema) [] t with
    ⟨error | removed, after⟩
  · simp
  · simp

/-- A control with a vulnerability inside it, both of them linked to one orphan. -/
def vulnerabilityInControl : Dataset where
  elements := [
    { id := 1, typeId := "incident_scenario", scope := some 1, title := "S" },
    { id := 2, typeId := "control", scope := some 1, title := "C" },
    { id := 3, typeId := "vulnerability", scope := some 1, parent := some 2, title := "V" }]
  links := [⟨2, 1, "rel_control_incscen", none⟩, ⟨1, 3, "rel_incscen_vulnerability", none⟩]

/-- The tables after its import. -/
def vulnerabilityInControlTables : Tables :=
  (Tables.fresh.importDataset vulnerabilityInControl).2

theorem reachable_vulnerabilityInControlTables : vulnerabilityInControlTables.Reachable :=
  .importDataset .fresh vulnerabilityInControl

theorem execute_succeeds_iff_vulnerabilityInControl :
    vulnerabilityInControlTables.Keyed ∧
      ((∃ report r, execute Source.tables Service.tables 1 {} ⟨vulnerabilityInControlTables, {}⟩ =
          (.ok report, r)) ↔
        (previewed vulnerabilityInControlTables 1 {}).Pairwise fun earlier later =>
          ¬ vulnerabilityInControlTables.Below earlier later) :=
  have keyed := reachable_vulnerabilityInControlTables.keyed
  ⟨keyed, execute_succeeds_iff keyed 1 {} {}⟩

/-- The control takes the vulnerability with it, which then cannot be removed. -/
theorem execute_fails_vulnerabilityInControl :
    vulnerabilityInControlTables.Reachable ∧ Settings.checkSchema {} = .ok () ∧
      (execute Source.tables Service.tables 1 {} { state := vulnerabilityInControlTables }).1 =
        .error (.execution "RemoveElement(vulnerability #3 'V')" (.elementNotFound 3)) :=
  ⟨reachable_vulnerabilityInControlTables, by decide, by decide +kernel⟩

end Registry.Cleanup
