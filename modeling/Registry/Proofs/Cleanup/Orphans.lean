import Registry.Proofs.Cleanup.Plan

/-! # What a plan holds

Every orphan is removed with all that goes with it, and nothing else is removed. Who is an orphan
and what goes with it is read off the edges of the graph.
-/

namespace Registry.Cleanup

theorem mem_unrequested {elements : List Element} :
    ∀ {requested : List ElementId}, ∀ e ∈ unrequested requested elements,
      e ∈ elements ∧ e.id ∉ requested := by
  induction elements with
  | nil => simp [unrequested]
  | cons first rest ih =>
      intro requested e member
      rw [unrequested] at member
      split at member
      · obtain ⟨later, new⟩ := ih e member
        exact ⟨List.mem_cons_of_mem _ later, new⟩
      · rename_i new
        rcases List.mem_cons.1 member with rfl | member
        · exact ⟨List.mem_cons_self, by simpa using new⟩
        · obtain ⟨later, new⟩ := ih e member
          exact ⟨List.mem_cons_of_mem _ later, fun old => new (List.mem_append_left _ old)⟩

theorem requested_of_mem {elements : List Element} :
    ∀ {requested : List ElementId}, ∀ e ∈ elements,
      e.id ∈ requested ++ (unrequested requested elements).map (·.id) := by
  induction elements with
  | nil => simp
  | cons first rest ih =>
      intro requested e member
      rw [unrequested]
      split
      · rename_i old
        rcases List.mem_cons.1 member with rfl | later
        · exact List.mem_append_left _ (by simpa using old)
        · exact ih e later
      · rw [List.map_cons, List.append_cons]
        rcases List.mem_cons.1 member with rfl | later
        · exact List.mem_append_left _ (by simp)
        · exact ih e later

theorem nodup_unrequested (elements : List Element) :
    ∀ requested : List ElementId, ((unrequested requested elements).map (·.id)).Nodup := by
  induction elements with
  | nil => simp [unrequested]
  | cons first rest ih =>
      intro requested
      rw [unrequested]
      split
      · exact ih _
      · rw [List.map_cons, List.nodup_cons]
        refine ⟨fun again => ?_, ih _⟩
        obtain ⟨e, member, same⟩ := List.mem_map.1 again
        exact (mem_unrequested e member).2 (by simp [same])

theorem unrequested_concat {last : Element} {elements : List Element} :
    ∀ {requested : List ElementId}, last.id ∉ requested → (∀ e ∈ elements, e.id ≠ last.id) →
      unrequested requested (elements ++ [last]) = unrequested requested elements ++ [last] := by
  induction elements with
  | nil =>
      intro requested new _
      simp [unrequested, new]
  | cons first rest ih =>
      intro requested new others
      obtain ⟨different, others⟩ := List.forall_mem_cons.1 others
      rw [List.cons_append, unrequested, unrequested]
      split
      · exact ih new others
      · rw [ih (by simpa using ⟨new, different.symm⟩) others, List.cons_append]

variable {g : Snapshot} {schema : Schema} {scenarios : List Element}

/-- A batch is planned when its orphan is scanned: `asked` is what was requested by then. -/
theorem scanned_of_mem_planFrom :
    ∀ {requested : List ElementId}, ∀ batch ∈ planFrom g schema requested scenarios,
      ∃ scenario ∈ scenarios, ∃ asked, isOrphan g schema scenario = true ∧ scenario.id ∉ asked ∧
        batch = ⟨scenario.id, unrequested asked (goingWith g schema scenario)⟩ ∧
        requested <+: asked ∧
        asked ++ batch.ids <+:
          requested ++ (planFrom g schema requested scenarios).flatMap Batch.ids := by
  induction scenarios with
  | nil => simp [planFrom]
  | cons first rest ih =>
      intro requested batch member
      rw [planFrom] at member ⊢
      split at member
      · rename_i skipped
        rw [if_pos skipped]
        obtain ⟨scenario, later, facts⟩ := ih batch member
        exact ⟨scenario, List.mem_cons_of_mem _ later, facts⟩
      · rename_i scanned
        rw [if_neg scanned]
        simp only [List.flatMap_cons, ← List.append_assoc]
        have found : first.id ∉ requested ∧ isOrphan g schema first = true := by
          simpa using scanned
        rcases List.mem_cons.1 member with rfl | member
        · exact ⟨first, List.mem_cons_self, requested, found.2, found.1, rfl, List.prefix_rfl,
            List.prefix_append _ _⟩
        · obtain ⟨scenario, later, asked, orphan, new, isBatch, earlier, all⟩ := ih batch member
          exact ⟨scenario, List.mem_cons_of_mem _ later, asked, orphan, new, isBatch,
            (List.prefix_append _ _).trans earlier, all⟩

/-- A batch belongs to an orphan: all that it requests goes with it, and in the end nothing that
    goes with it is left unrequested. -/
theorem orphan_of_mem_planFrom {requested : List ElementId} :
    ∀ batch ∈ planFrom g schema requested scenarios,
      ∃ scenario ∈ scenarios, isOrphan g schema scenario = true ∧ scenario.id = batch.orphan ∧
        (∀ e ∈ batch.elements, e ∈ goingWith g schema scenario) ∧
        ∀ e ∈ goingWith g schema scenario,
          e.id ∈ requested ++ (planFrom g schema requested scenarios).flatMap Batch.ids := by
  intro batch member
  obtain ⟨scenario, isScenario, asked, orphan, -, rfl, -, all⟩ :=
    scanned_of_mem_planFrom batch member
  refine ⟨scenario, isScenario, orphan, rfl, fun e planned => (mem_unrequested e planned).1, ?_⟩
  intro e going
  exact all.subset (requested_of_mem e going)

theorem requested_of_isOrphan :
    ∀ {requested : List ElementId}, ∀ scenario ∈ scenarios, isOrphan g schema scenario = true →
      scenario.id ∈ requested ++ (planFrom g schema requested scenarios).flatMap Batch.ids := by
  induction scenarios with
  | nil => simp
  | cons first rest ih =>
      intro requested scenario member orphan
      rw [planFrom]
      split
      · rename_i skipped
        rcases List.mem_cons.1 member with rfl | later
        · exact List.mem_append_left _ (by simpa [orphan] using skipped)
        · exact ih scenario later orphan
      · simp only [List.flatMap_cons, ← List.append_assoc]
        rcases List.mem_cons.1 member with rfl | later
        · refine List.mem_append_left _ (requested_of_mem scenario ?_)
          simp [goingWith]
        · exact ih scenario later orphan

theorem orphans_sublist_planFrom :
    ∀ requested : List ElementId, ((planFrom g schema requested scenarios).map (·.orphan)).Sublist
      ((scenarios.filter (isOrphan g schema)).map (·.id)) := by
  induction scenarios with
  | nil => intro requested; exact List.Sublist.slnil
  | cons scenario rest ih =>
      intro requested
      rw [planFrom]
      split
      · exact (ih requested).trans (((List.sublist_cons_self scenario rest).filter _).map _)
      · rename_i scanned
        have found : scenario.id ∉ requested ∧ isOrphan g schema scenario = true := by
          simpa using scanned
        rw [List.filter_cons_of_pos found.2]
        exact (ih _).cons_cons scenario.id

theorem nodup_planFrom :
    ∀ {requested : List ElementId}, requested.Nodup →
      (requested ++ (planFrom g schema requested scenarios).flatMap Batch.ids).Nodup := by
  induction scenarios with
  | nil => simp [planFrom]
  | cons scenario rest ih =>
      intro requested once
      rw [planFrom]
      split
      · exact ih once
      · simp only [List.flatMap_cons, ← List.append_assoc]
        refine ih (List.nodup_append.2 ⟨once, nodup_unrequested _ _, ?_⟩)
        intro old isOld new isNew same
        obtain ⟨e, planned, rfl⟩ := List.mem_map.1 isNew
        exact (mem_unrequested e planned).2 (same ▸ isOld)

theorem mem_ofType_iff {typeId : String} {e : Element} :
    e ∈ g.ofType typeId ↔ e ∈ g.nodes ∧ e.typeId = typeId := by
  simp [Snapshot.ofType]

/-- A request is made on account of a reported orphan that the element goes with. -/
theorem orphan_of_mem_requests {request : Request} (member : request ∈ requests g schema) :
    ∃ scenario ∈ g.ofType schema.scenarioType, isOrphan g schema scenario = true ∧
      scenario.id = request.orphan ∧ scenario.id ∈ (plan g schema).map (·.orphan) ∧
      request.element ∈ goingWith g schema scenario := by
  obtain ⟨batch, planned, inBatch⟩ := List.mem_flatMap.1 member
  obtain ⟨e, isRequested, rfl⟩ := List.mem_map.1 inBatch
  obtain ⟨scenario, isScenario, orphan, same, going, -⟩ := orphan_of_mem_planFrom batch planned
  exact ⟨scenario, isScenario, orphan, same, same ▸ List.mem_map_of_mem planned,
    going e isRequested⟩

/-- All that goes with a reported orphan is requested. -/
theorem requested_of_mem_orphans {orphan : ElementId}
    (member : orphan ∈ (plan g schema).map (·.orphan)) :
    ∃ scenario ∈ g.ofType schema.scenarioType, scenario.id = orphan ∧
      ∀ e ∈ goingWith g schema scenario, ∃ request ∈ requests g schema, request.id = e.id := by
  obtain ⟨batch, planned, rfl⟩ := List.mem_map.1 member
  obtain ⟨scenario, isScenario, -, same, -, all⟩ := orphan_of_mem_planFrom batch planned
  refine ⟨scenario, isScenario, same, fun e going => ?_⟩
  have isRequested := all e going
  rw [List.nil_append, ← plan, ← map_id_requests] at isRequested
  exact List.mem_map.1 isRequested

theorem nodup_requests (g : Snapshot) (schema : Schema) :
    ((requests g schema).map Request.id).Nodup := by
  rw [map_id_requests]
  exact nodup_planFrom List.nodup_nil

/-- Every orphan is requested. -/
theorem requested_of_orphan {e : Element} (isScenario : e ∈ g.ofType schema.scenarioType)
    (orphan : isOrphan g schema e = true) : e.id ∈ (requests g schema).map Request.id := by
  have isRequested : e.id ∈ [] ++ (plan g schema).flatMap Batch.ids :=
    requested_of_isOrphan e isScenario orphan
  rwa [List.nil_append, ← map_id_requests] at isRequested

/-- Nothing is planned iff no scenario is an orphan. -/
theorem plan_eq_nil_iff :
    plan g schema = [] ↔ ∀ e ∈ g.ofType schema.scenarioType, isOrphan g schema e = false := by
  constructor
  · intro nothing e isScenario
    rw [← Bool.not_eq_true]
    intro orphan
    have isRequested := requested_of_orphan isScenario orphan
    rw [requests, nothing] at isRequested
    cases isRequested
  · intro spared
    cases planned : plan g schema with
    | nil => rfl
    | cons batch rest =>
        have member : batch ∈ plan g schema := by
          rw [planned]
          exact List.mem_cons_self
        obtain ⟨scenario, isScenario, orphan, -⟩ := orphan_of_mem_planFrom batch member
        rw [spared scenario isScenario] at orphan
        cases orphan

/-- Linked to an orphan the way its controls are, or its vulnerabilities. -/
def Accompanies (g : Snapshot) (schema : Schema) (orphan : ElementId) (e : Element) : Prop :=
  ⟨e.id, orphan, schema.controlScenario⟩ ∈ g.edges ∨
    ⟨orphan, e.id, schema.scenarioVulnerability⟩ ∈ g.edges

/-- What goes with an orphan, itself aside. -/
def dependents (g : Snapshot) (schema : Schema) (orphan : Element) : List Element :=
  g.sources orphan.id schema.controlScenario ++ g.targets orphan.id schema.scenarioVulnerability

theorem goingWith_eq (g : Snapshot) (schema : Schema) (orphan : Element) :
    goingWith g schema orphan = dependents g schema orphan ++ [orphan] :=
  rfl

theorem mem_dependents_iff (wf : g.WellFormed) {orphan e : Element} :
    e ∈ dependents g schema orphan ↔ e ∈ g.nodes ∧ Accompanies g schema orphan.id e := by
  simp only [dependents, List.mem_append, wf.mem_sources_iff, wf.mem_targets_iff, Accompanies,
    and_or_left]

theorem mem_goingWith_iff (wf : g.WellFormed) {orphan e : Element} :
    e ∈ goingWith g schema orphan ↔
      e ∈ g.nodes ∧ Accompanies g schema orphan.id e ∨ e = orphan := by
  rw [goingWith_eq, List.mem_append, mem_dependents_iff wf, List.mem_singleton]

theorem isOrphan_iff (wf : g.WellFormed) {scenario : Element} :
    isOrphan g schema scenario = true ↔
      ¬ ∃ edge ∈ g.edges, edge.source = scenario.id ∧ edge.relation = schema.scenarioAsset := by
  rw [isOrphan, List.isEmpty_iff, List.eq_nil_iff_forall_not_mem]
  constructor
  · rintro none ⟨⟨source, target, relation⟩, member, rfl, rfl⟩
    obtain ⟨e, node, rfl⟩ := List.mem_map.1 (wf.ends _ member).2
    exact none e (wf.mem_targets_iff.2 ⟨node, member⟩)
  · intro none e isTarget
    exact none ⟨_, (wf.mem_targets_iff.1 isTarget).2, rfl, rfl⟩

theorem mem_nodes_of_mem_requests (wf : g.WellFormed) {request : Request}
    (member : request ∈ requests g schema) : request.element ∈ g.nodes := by
  obtain ⟨scenario, isScenario, -, -, -, going⟩ := orphan_of_mem_requests member
  rcases (mem_goingWith_iff wf).1 going with ⟨node, -⟩ | isOrphan
  · exact node
  · rw [isOrphan]
    exact (mem_ofType_iff.1 isScenario).1

end Registry.Cleanup
