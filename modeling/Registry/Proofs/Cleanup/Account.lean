import Registry.Proofs.Cleanup.Order

/-! # Account of a cleanup

A report tells who was removed on whose account. Orphan by orphan, in the order of the scan, it
lists what went with each, every element once; an orphan comes after all that went with it, unless
it goes with itself.
-/

namespace Registry.Cleanup

variable {g : Snapshot} {schema : Schema}

/-- Linked to an orphan as a control of it, or as a vulnerability that it uses. -/
def DependsOn (g : Snapshot) (schema : Schema) (id orphan : ElementId) : Prop :=
  ⟨id, orphan, schema.controlScenario⟩ ∈ g.edges ∨
    ⟨orphan, id, schema.scenarioVulnerability⟩ ∈ g.edges

/-- What a report says of the graph that was cleaned up. -/
structure Report.Accounts (report : Report) (g : Snapshot) (schema : Schema) : Prop where
  once : report.removedIds.Nodup
  /-- The orphans are scenarios without an edge to an asset, in the order of the graph. -/
  orphans : ∃ scenarios : List Element, scenarios.Sublist g.nodes ∧
    report.orphans = scenarios.map (·.id) ∧
    ∀ e ∈ scenarios, e.typeId = schema.scenarioType ∧
      ¬ ∃ edge ∈ g.edges, edge.source = e.id ∧ edge.relation = schema.scenarioAsset
  sound : ∀ entry ∈ report.removed, entry.orphan ∈ report.orphans ∧
    (entry.element = entry.orphan ∨ DependsOn g schema entry.element entry.orphan)
  grouped : report.removed =
    report.orphans.flatMap fun orphan => report.removed.filter (·.orphan == orphan)
  complete : ∀ orphan ∈ report.orphans, orphan ∈ report.removedIds ∧
    ∀ id, DependsOn g schema id orphan → id ∈ report.removedIds
  ordered : ∀ orphan ∈ report.orphans, ¬ DependsOn g schema orphan orphan →
    ∀ id, DependsOn g schema id orphan → [id, orphan].Sublist report.removedIds

/-- An orphan that does not go with itself comes last of its batch. -/
theorem before_orphan_of_batch {requested : List ElementId} {scenario : Element}
    (new : scenario.id ∉ requested)
    (apart : ∀ e ∈ dependents g schema scenario, e.id ≠ scenario.id) :
    ∀ e ∈ dependents g schema scenario, [e.id, scenario.id].Sublist
      (requested ++ (unrequested requested (goingWith g schema scenario)).map (·.id)) := by
  intro e dependent
  rw [goingWith_eq, unrequested_concat new apart, List.map_append, ← List.append_assoc]
  have before : e.id ∈ requested ++
      (unrequested requested (dependents g schema scenario)).map (·.id) :=
    requested_of_mem e dependent
  exact (List.singleton_sublist.2 before).append (List.Sublist.refl [scenario.id])

theorem before_orphan_of_mem_planFrom {scenarios : List Element} {requested : List ElementId} :
    ∀ batch ∈ planFrom g schema requested scenarios,
      ∃ scenario ∈ scenarios, scenario.id = batch.orphan ∧
        ((∀ e ∈ dependents g schema scenario, e.id ≠ scenario.id) →
          ∀ e ∈ dependents g schema scenario, [e.id, scenario.id].Sublist
            (requested ++ (planFrom g schema requested scenarios).flatMap Batch.ids)) := by
  intro batch member
  obtain ⟨scenario, isScenario, asked, -, new, rfl, -, all⟩ := scanned_of_mem_planFrom batch member
  refine ⟨scenario, isScenario, rfl, fun apart e dependent => ?_⟩
  exact (before_orphan_of_batch new apart e dependent).trans all.sublist

theorem orphansOf_sublist (g : Snapshot) (schema : Schema) :
    (orphansOf g schema).Sublist g.nodes :=
  List.filter_sublist.trans List.filter_sublist

section Uncounted

variable {report : Report} {scope : ScopeId} (same : report.uncounted = preview scope schema g)
include same

theorem nodup_removedIds : report.removedIds.Nodup := by
  rw [removedIds_of_uncounted same]
  exact nodup_requests g schema

theorem orphans_sublist : ∃ scenarios : List Element, scenarios.Sublist (orphansOf g schema) ∧
    report.orphans = scenarios.map (·.id) := by
  rw [orphans_of_uncounted same]
  exact List.sublist_map_iff.1 (orphans_sublist_planFrom [])

theorem sound_of_uncounted (wf : g.WellFormed) :
    ∀ entry ∈ report.removed, entry.orphan ∈ report.orphans ∧
      (entry.element = entry.orphan ∨ DependsOn g schema entry.element entry.orphan) := by
  intro entry member
  have columns : report.removed.map (fun entry => (entry.element, entry.orphan)) =
      (requests g schema).map fun request => (request.id, request.orphan) :=
    map_removed_of_uncounted same _ fun _ => rfl
  have inColumns : (entry.element, entry.orphan) ∈
      (requests g schema).map fun request => (request.id, request.orphan) := by
    rw [← columns]
    exact List.mem_map_of_mem member
  obtain ⟨request, isRequested, pair⟩ := List.mem_map.1 inColumns
  obtain ⟨sameId, sameOrphan⟩ := Prod.mk.inj pair
  obtain ⟨scenario, -, -, account, reported, going⟩ := orphan_of_mem_requests isRequested
  rw [← sameId, ← sameOrphan, orphans_of_uncounted same, ← account]
  refine ⟨reported, ?_⟩
  rcases (mem_goingWith_iff wf).1 going with ⟨-, accompanies⟩ | isOrphan
  · exact .inr accompanies
  · exact .inl (congrArg Element.id isOrphan)

theorem grouped_of_uncounted (wf : g.WellFormed) : report.removed =
    report.orphans.flatMap fun orphan => report.removed.filter (·.orphan == orphan) := by
  obtain ⟨scenarios, isSublist, sameIds⟩ := orphans_sublist same
  have once : report.orphans.Nodup := by
    rw [sameIds]
    exact wf.idsOnce.sublist ((isSublist.trans (orphansOf_sublist g schema)).map _)
  have column : report.removed.map (·.orphan) =
      (plan g schema).flatMap fun batch => batch.requests.map (·.orphan) := by
    rw [map_removed_of_uncounted same _ fun _ => rfl, requests, List.map_flatMap]
    rfl
  -- no orphan has two batches, so that its batch is all that was removed on its account
  rw [orphans_of_uncounted same] at once ⊢
  refine eq_flatMap_filter_key once (fun batch _ orphan member => ?_) column
  obtain ⟨request, inBatch, rfl⟩ := List.mem_map.1 member
  obtain ⟨e, -, rfl⟩ := List.mem_map.1 inBatch
  rfl

/-- All that goes with a reported orphan is reported as removed. -/
theorem removed_of_mem_orphans {orphan : ElementId} (reported : orphan ∈ report.orphans) :
    ∃ scenario ∈ g.ofType schema.scenarioType, scenario.id = orphan ∧
      ∀ e ∈ goingWith g schema scenario, e.id ∈ report.removedIds := by
  rw [orphans_of_uncounted same] at reported
  obtain ⟨scenario, isScenario, sameId, all⟩ := requested_of_mem_orphans reported
  refine ⟨scenario, isScenario, sameId, fun e going => ?_⟩
  obtain ⟨request, isRequested, isElement⟩ := all e going
  rw [removedIds_of_uncounted same, ← isElement]
  exact List.mem_map_of_mem isRequested

end Uncounted

theorem dependsOn_iff (wf : g.WellFormed) {id : ElementId} {orphan : Element} :
    DependsOn g schema id orphan.id ↔ ∃ e ∈ dependents g schema orphan, e.id = id := by
  constructor
  · intro depends
    have node : id ∈ g.ids := by
      rcases depends with edge | edge
      · exact (wf.ends _ edge).1
      · exact (wf.ends _ edge).2
    obtain ⟨e, isNode, rfl⟩ := List.mem_map.1 node
    exact ⟨e, (mem_dependents_iff wf).2 ⟨isNode, depends⟩, rfl⟩
  · rintro ⟨e, dependent, rfl⟩
    exact ((mem_dependents_iff wf).1 dependent).2

/-- The report of a run that is refused nothing accounts for the graph. -/
theorem runOn_accounts {σ : Type} {service : Service σ} (echoes : service.Echoes)
    (accepts : ∀ m s, ∃ done after, service.execute m s = (.ok done, after)) (wf : g.WellFormed)
    (scope : ScopeId) (schema : Schema) (s : σ) :
    ∃ report after, runOn service scope schema g s = (.ok report, after) ∧
      report.Accounts g schema := by
  obtain ⟨report, after, ran, same⟩ := runOn_of_accepts echoes accepts scope schema g s
  refine ⟨report, after, ran, nodup_removedIds same, ?_, sound_of_uncounted same wf,
    grouped_of_uncounted same wf, ?_, ?_⟩
  · obtain ⟨scenarios, isSublist, sameIds⟩ := orphans_sublist same
    exact ⟨scenarios, isSublist.trans (orphansOf_sublist g schema), sameIds, fun e member =>
      ((mem_orphansOf_iff wf).1 (isSublist.subset member)).2⟩
  · intro orphan reported
    obtain ⟨scenario, -, rfl, all⟩ := removed_of_mem_orphans same reported
    refine ⟨all scenario ((mem_goingWith_iff wf).2 (.inr rfl)), fun id depends => ?_⟩
    obtain ⟨e, dependent, rfl⟩ := (dependsOn_iff wf).1 depends
    exact all e (List.mem_append_left _ dependent)
  · intro orphan reported apart id depends
    rw [orphans_of_uncounted same] at reported
    obtain ⟨batch, planned, rfl⟩ := List.mem_map.1 reported
    obtain ⟨scenario, -, sameId, before⟩ := before_orphan_of_mem_planFrom batch planned
    rw [← sameId] at apart depends ⊢
    obtain ⟨e, dependent, rfl⟩ := (dependsOn_iff wf).1 depends
    rw [removedIds_of_uncounted same, map_id_requests]
    -- a dependent with the id of the orphan would be a link of the orphan to itself
    refine before (fun other isDependent itself => apart ?_) e dependent
    exact (dependsOn_iff wf).2 ⟨other, isDependent, itself⟩

/-- Two orphans with one control, the second also linked to itself as if it were its own, and a
    scenario with an asset. -/
def sharedControl : Snapshot where
  nodes := [
    { id := 1, uuid := "a", typeId := "incident_scenario", scope := some 1, title := "S" },
    { id := 5, uuid := "e", typeId := "incident_scenario", scope := some 1, title := "U" },
    { id := 2, uuid := "b", typeId := "incident_scenario", scope := some 1, title := "T" },
    { id := 3, uuid := "c", typeId := "control", scope := some 1, title := "C" },
    { id := 4, uuid := "d", typeId := "vulnerability", scope := some 1, title := "V" },
    { id := 6, uuid := "f", typeId := "asset", scope := some 1, title := "A" }]
  edges := [⟨2, 2, "rel_control_incscen"⟩, ⟨3, 1, "rel_control_incscen"⟩,
    ⟨3, 2, "rel_control_incscen"⟩, ⟨2, 4, "rel_incscen_vulnerability"⟩,
    ⟨5, 6, "rel_incscen_asset"⟩]
  filter := .all

theorem runOn_accounts_sharedControl :
    Service.dryRun.Echoes ∧
      (∀ m noted, ∃ done after, Service.dryRun.execute m noted = (.ok done, after)) ∧
      sharedControl.WellFormed ∧
      ∃ report after, runOn Service.dryRun 1 {} sharedControl [] = (.ok report, after) ∧
        report.Accounts sharedControl {} :=
  have echoes : Service.dryRun.Echoes := Service.echoes_recording _
  have wf : sharedControl.WellFormed := ⟨by decide, by decide, by decide⟩
  ⟨echoes, Service.accepts_dryRun, wf, runOn_accounts echoes Service.accepts_dryRun wf 1 {} []⟩

/-- The orphan that is linked to itself comes before its vulnerability. -/
example : (runOn Service.dryRun 1 {} sharedControl []).1.map Report.removedIds =
    .ok [3, 1, 2, 4] := by
  decide

end Registry.Cleanup
