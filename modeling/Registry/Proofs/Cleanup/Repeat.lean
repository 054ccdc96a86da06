import Registry.Proofs.Cleanup.Live

/-! # Cleanup repeated

A run removes all orphans of its graph. A second run finds a new one only if the last asset of a
scenario that was kept was inside something removed, and went with it.
-/

namespace Registry.Cleanup

variable {t : Tables} {scope : ScopeId} {schema : Schema}

/-- Linked as a scenario is to an asset, to an element of the graph that is inside none of those
    removed. -/
def KeepsAsset (t : Tables) (scope : ScopeId) (schema : Schema) (removed : List ElementId)
    (scenario : ElementId) : Prop :=
  ∃ link ∈ t.links, link.source = scenario ∧ link.relation = schema.scenarioAsset ∧
    ∃ row ∈ t.elements, row.id = link.target ∧ schema.Covers scope row ∧ ¬ t.BelowAny removed row.id

theorem scenarioAsset_mem (schema : Schema) : schema.scenarioAsset ∈ schema.relations :=
  List.mem_cons_self

theorem scenarioType_mem (schema : Schema) : schema.scenarioType ∈ schema.types :=
  List.mem_cons_of_mem _ List.mem_cons_self

/-- A scenario is no orphan iff it has an asset among the rows. -/
theorem keepsAsset_iff (keyed : t.Keyed) {row : ElementRow} (stored : row ∈ t.elements)
    (isScenario : row.typeId = schema.scenarioType) (inScope : row.scope = some scope) :
    isOrphan (graph t scope schema) schema (t.node (spec scope schema).filter row) = false ↔
      KeepsAsset t scope schema [] row.id := by
  have source : row.id ∈ (graph t scope schema).ids :=
    (mem_ids_graph_iff keyed).2 ⟨row, stored, rfl, isScenario ▸ scenarioType_mem schema, inScope⟩
  rw [← Bool.not_eq_true, isOrphan_iff (wellFormed_graph t scope schema), not_not]
  simp only [mem_edges_graph_iff keyed, mem_ids_graph_iff keyed, Tables.node_id, KeepsAsset]
  constructor
  · rintro ⟨_, ⟨⟨link, isLink, rfl⟩, -, -, other, isRow, sameId, covered⟩, sameSource, sameRelation⟩
    exact ⟨link, isLink, sameSource, sameRelation, other, isRow, sameId, covered,
      t.not_belowAny_nil _⟩
  · rintro ⟨link, isLink, sameSource, sameRelation, other, isRow, sameId, covered, -⟩
    refine ⟨Edge.ofLink link, ⟨⟨link, isLink, rfl⟩, ?_, ?_, other, isRow, sameId, covered⟩,
      sameSource, sameRelation⟩
    · have sameName : (Edge.ofLink link).relation = schema.scenarioAsset := sameRelation
      rw [sameName]
      exact scenarioAsset_mem schema
    · obtain ⟨found, isFound, foundId, foundCovered⟩ := (mem_ids_graph_iff keyed).1 source
      exact ⟨found, isFound, foundId.trans sameSource.symm, foundCovered⟩

theorem plan_graph_eq_nil_iff (keyed : t.Keyed) :
    plan (graph t scope schema) schema = [] ↔
      ∀ row ∈ t.elements, row.typeId = schema.scenarioType → row.scope = some scope →
        KeepsAsset t scope schema [] row.id := by
  simp only [plan_eq_nil_iff, mem_ofType_graph_iff keyed (scenarioType_mem schema)]
  constructor
  · intro spared row stored isScenario inScope
    exact (keepsAsset_iff keyed stored isScenario inScope).1
      (spared _ ⟨row, stored, isScenario, inScope, rfl⟩)
  · rintro kept e ⟨row, stored, isScenario, inScope, rfl⟩
    exact (keepsAsset_iff keyed stored isScenario inScope).2 (kept row stored isScenario inScope)

theorem runOn_idle_iff {σ : Type} (service : Service σ) (scope : ScopeId) (schema : Schema)
    (g : Snapshot) (s : σ) :
    (∃ report, runOn service scope schema g s = (.ok report, s) ∧ report.orphans = [] ∧
      report.removed = []) ↔ plan g schema = [] := by
  rw [runOn_eq]
  constructor
  · rintro ⟨report, ran, orphans, -⟩
    rcases finished : carryOut service (requests g schema) [] s with ⟨error | removed, after⟩
    · rw [finished] at ran
      cases ran
    · rw [finished] at ran
      cases ran
      exact List.map_eq_nil_iff.1 orphans
  · intro nothing
    have noRequests : requests g schema = [] := by simp [requests, nothing]
    rw [noRequests, nothing]
    exact ⟨_, rfl, rfl, rfl⟩

/-- A cleanup of tables does nothing iff every scenario has an asset. -/
theorem execute_idle_iff (keyed : t.Keyed) (usage : Usage) :
    (∃ report spent, execute Source.tables Service.tables scope schema ⟨t, usage⟩ =
        (.ok report, ⟨t, spent⟩) ∧ report.orphans = [] ∧ report.removed = []) ↔
      ∀ row ∈ t.elements, row.typeId = schema.scenarioType → row.scope = some scope →
        KeepsAsset t scope schema [] row.id := by
  obtain ⟨spent, ran⟩ := execute_tables keyed Service.tables scope schema usage
  rw [ran, ← plan_graph_eq_nil_iff keyed, ← runOn_idle_iff Service.tables scope schema _ t]
  constructor
  · rintro ⟨report, _, same, idle⟩
    simp only [Prod.mk.injEq, Retrieval.mk.injEq] at same
    exact ⟨report, Prod.ext same.1 same.2.1, idle⟩
  · rintro ⟨report, same, idle⟩
    exact ⟨report, spent, by rw [same], idle⟩

theorem carryOut_of_execute (keyed : t.Keyed) {usage : Usage} {report : Report}
    {r : Retrieval Tables}
    (ran : execute Source.tables Service.tables scope schema ⟨t, usage⟩ = (.ok report, r)) :
    carryOut Service.tables (requests (graph t scope schema) schema) [] t =
      (.ok report.removed, r.state) := by
  obtain ⟨spent, same⟩ := execute_tables keyed Service.tables scope schema usage
  rw [same, runOn_eq] at ran
  rcases finished : carryOut Service.tables (requests (graph t scope schema) schema) [] t with
    ⟨error | removed, after⟩
  · rw [finished] at ran
    cases ran
  · rw [finished] at ran
    cases ran
    rfl

/-- After a run, just what was below a removed element is gone. -/
theorem pruned_of_execute (keyed : t.Keyed) {usage : Usage} {report : Report} {r : Retrieval Tables}
    (first : execute Source.tables Service.tables scope schema ⟨t, usage⟩ = (.ok report, r)) :
    t.Pruned report.removedIds r.state ∧
      report.removedIds = (requests (graph t scope schema) schema).map Request.id := by
  obtain ⟨pruned, ids⟩ := pruned_of_carryOut (.nil t) (carryOut_of_execute keyed first)
  simp only [List.nil_append, List.map_nil] at pruned ids
  rw [← ids] at pruned
  exact ⟨pruned, ids⟩

theorem keepsAsset_left_iff {left : Tables} {removed : List ElementId}
    (pruned : t.Pruned removed left) {scenario : ElementId} (kept : ¬ t.BelowAny removed scenario) :
    KeepsAsset left scope schema [] scenario ↔ KeepsAsset t scope schema removed scenario := by
  simp only [KeepsAsset, pruned.mem_links, pruned.mem_elements]
  constructor
  · rintro ⟨link, ⟨isLink, -, -⟩, sameSource, sameRelation, row, ⟨stored, held⟩, sameId, covered, -⟩
    exact ⟨link, isLink, sameSource, sameRelation, row, stored, sameId, covered, held⟩
  · rintro ⟨link, isLink, rfl, sameRelation, row, stored, sameId, covered, held⟩
    exact ⟨link, ⟨isLink, kept, sameId ▸ held⟩, rfl, sameRelation, row, ⟨stored, held⟩, sameId,
      covered, left.not_belowAny_nil _⟩

/-- A scenario without asset does not outlast a run. -/
theorem keepsAsset_of_kept (keyed : t.Keyed) {row : ElementRow} (stored : row ∈ t.elements)
    (isScenario : row.typeId = schema.scenarioType) (inScope : row.scope = some scope)
    (kept : ¬ t.BelowAny ((requests (graph t scope schema) schema).map Request.id) row.id) :
    KeepsAsset t scope schema [] row.id := by
  rw [← keepsAsset_iff keyed stored isScenario inScope, ← Bool.not_eq_true]
  intro orphan
  have isNode := (mem_ofType_graph_iff keyed (scenarioType_mem schema)).2
    ⟨row, stored, isScenario, inScope, rfl⟩
  have isRequested := requested_of_orphan isNode orphan
  rw [Tables.node_id] at isRequested
  exact kept ⟨row.id, isRequested, .top⟩

/-- After a successful run, another one does nothing iff every scenario that is left and had an
    asset has one that is not inside anything removed. -/
theorem execute_again_iff (keyed : t.Keyed) {usage : Usage} {report : Report} {r : Retrieval Tables}
    (first : execute Source.tables Service.tables scope schema ⟨t, usage⟩ = (.ok report, r))
    (later : Usage) :
    (∃ again spent, execute Source.tables Service.tables scope schema ⟨r.state, later⟩ =
        (.ok again, ⟨r.state, spent⟩) ∧ again.orphans = [] ∧ again.removed = []) ↔
      ∀ row ∈ t.elements, row.typeId = schema.scenarioType → row.scope = some scope →
        ¬ t.BelowAny report.removedIds row.id → KeepsAsset t scope schema [] row.id →
          KeepsAsset t scope schema report.removedIds row.id := by
  obtain ⟨pruned, ids⟩ := pruned_of_execute keyed first
  rw [execute_idle_iff (pruned.keyed keyed)]
  constructor
  · intro all row stored isScenario inScope kept _
    exact (keepsAsset_left_iff pruned kept).1
      (all row (pruned.mem_elements.2 ⟨stored, kept⟩) isScenario inScope)
  · intro all row isLeft isScenario inScope
    obtain ⟨stored, kept⟩ := pruned.mem_elements.1 isLeft
    have before : KeepsAsset t scope schema [] row.id :=
      keepsAsset_of_kept keyed stored isScenario inScope (ids ▸ kept)
    exact (keepsAsset_left_iff pruned kept).2 (all row stored isScenario inScope kept before)

/-- An asset inside a control, the control linked to one scenario and the asset to another. -/
def assetInControl : Dataset where
  elements := [
    { id := 1, typeId := "incident_scenario", scope := some 1, title := "S" },
    { id := 2, typeId := "control", scope := some 1, title := "C" },
    { id := 3, typeId := "incident_scenario", scope := some 1, title := "T" },
    { id := 4, typeId := "asset", scope := some 1, parent := some 2, title := "A" }]
  links := [⟨2, 1, "rel_control_incscen", none⟩, ⟨3, 4, "rel_incscen_asset", none⟩]

/-- The tables after its import. -/
def assetInControlTables : Tables :=
  (Tables.fresh.importDataset assetInControl).2

theorem reachable_assetInControlTables : assetInControlTables.Reachable :=
  .importDataset .fresh assetInControl

theorem execute_assetInControl :
    (execute Source.tables Service.tables 1 {} { state := assetInControlTables }).1 =
      .ok ⟨1, 2, [1],
        [⟨2, "control", "C", 1, some 2⟩, ⟨1, "incident_scenario", "S", 1, some 1⟩]⟩ := by
  decide +kernel

theorem execute_again_iff_assetInControl :
    assetInControlTables.Keyed ∧
      ∃ report r, execute Source.tables Service.tables 1 {} ⟨assetInControlTables, {}⟩ =
          (.ok report, r) ∧
        ((∃ again spent, execute Source.tables Service.tables 1 {} ⟨r.state, {}⟩ =
            (.ok again, ⟨r.state, spent⟩) ∧ again.orphans = [] ∧ again.removed = []) ↔
          ∀ row ∈ assetInControlTables.elements, row.typeId = "incident_scenario" →
            row.scope = some 1 → ¬ assetInControlTables.BelowAny report.removedIds row.id →
              KeepsAsset assetInControlTables 1 {} [] row.id →
                KeepsAsset assetInControlTables 1 {} report.removedIds row.id) :=
  have keyed := reachable_assetInControlTables.keyed
  have first := Prod.ext execute_assetInControl rfl
  ⟨keyed, _, _, first, execute_again_iff keyed first {}⟩

/-- The first run removes one scenario and the asset of the other, the second one the other. -/
theorem execute_again_assetInControl :
    assetInControlTables.Reachable ∧ Settings.checkSchema {} = .ok () ∧
      (execute Source.tables Service.tables 1 {} { state := assetInControlTables }).1 =
        .ok ⟨1, 2, [1],
          [⟨2, "control", "C", 1, some 2⟩, ⟨1, "incident_scenario", "S", 1, some 1⟩]⟩ ∧
      (execute Source.tables Service.tables 1 {} { state :=
        (execute Source.tables Service.tables 1 {} { state := assetInControlTables }).2.state }).1 =
        .ok ⟨1, 1, [3], [⟨3, "incident_scenario", "T", 3, some 1⟩]⟩ :=
  ⟨reachable_assetInControlTables, by decide, execute_assetInControl, by decide +kernel⟩

end Registry.Cleanup
