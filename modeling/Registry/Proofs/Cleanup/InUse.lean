import Registry.Proofs.Cleanup.Orphans
import Registry.Proofs.Cleanup.Schema

/-! # Elements in use

An asset is in use, and so is a scenario with an asset. A cleanup looks at the ends of its links
only, not at the types that stand there, so that an element in use may go with an orphan. This is
the one way in which such an element is ever requested.
-/

namespace Registry.Cleanup

variable {g : Snapshot} {schema : Schema}

/-- An asset, or a scenario that an asset is linked to. -/
def InUse (g : Snapshot) (schema : Schema) (e : Element) : Prop :=
  e.typeId = schema.assetType ∨
    e.typeId = schema.scenarioType ∧
      ∃ edge ∈ g.edges, edge.source = e.id ∧ edge.relation = schema.scenarioAsset

/-- No request is about an element in use. -/
def Spares (g : Snapshot) (schema : Schema) (made : List Mutation) : Prop :=
  ∀ m ∈ made, ∀ e ∈ g.nodes, e.id = m.element → ¬ InUse g schema e

/-- An orphan is not in use itself. -/
theorem not_inUse_of_isOrphan (wf : g.WellFormed) (valid : Settings.checkSchema schema = .ok ())
    {scenario : Element} (isScenario : scenario.typeId = schema.scenarioType)
    (orphan : isOrphan g schema scenario = true) : ¬ InUse g schema scenario := by
  rintro (isAsset | ⟨-, linked⟩)
  · have distinct := Settings.nodup_types_of_checkSchema valid
    rw [isScenario] at isAsset
    simp [Schema.types, isAsset] at distinct
  · exact (isOrphan_iff wf).1 orphan linked

/-- Whether elements in use are spared by every service, is told by a dry run: they are iff none of
    them accompanies an orphan that it reports. -/
theorem spares_inUse_iff (wf : g.WellFormed) (valid : Settings.checkSchema schema = .ok ())
    (scope : ScopeId) :
    ∃ report noted, runOn Service.dryRun scope schema g [] = (.ok report, noted) ∧
      ((∀ (σ : Type) (service : Service σ) (s : σ),
          Spares g schema (runOn service.logged scope schema g (s, [])).2.2) ↔
        ∀ orphan ∈ report.orphans, ∀ e ∈ g.nodes, Accompanies g schema orphan e →
          ¬ InUse g schema e) := by
  refine ⟨preview scope schema g, _, runOn_dryRun scope schema g [], ?_⟩
  constructor
  · intro spared orphan reported e node accompanies
    -- a service that refuses nothing is asked for the whole plan
    obtain ⟨made, -, whole, logged⟩ :=
      carryOut_logged Service.dryRun (requests g schema) [] [] []
    rw [carryOut_dryRun] at whole
    have asked := spared _ Service.dryRun []
    rw [state_runOn, logged, whole _ rfl, List.nil_append] at asked
    obtain ⟨scenario, isScenario, rfl, all⟩ := requested_of_mem_orphans reported
    obtain ⟨request, member, sameId⟩ := all e ((mem_goingWith_iff wf).2 (.inl ⟨node, accompanies⟩))
    exact asked request.mutation (List.mem_map_of_mem member) e node sameId.symm
  · intro unused σ service s m asked e node sameId
    obtain ⟨made, isPrefix, -, logged⟩ :=
      carryOut_logged service (requests g schema) [] s []
    rw [state_runOn, logged, List.nil_append] at asked
    obtain ⟨request, isMade, rfl⟩ := List.mem_map.1 asked
    have member : request ∈ requests g schema := isPrefix.subset isMade
    have isElement : e = request.element :=
      wf.eq_of_same_id node (mem_nodes_of_mem_requests wf member) sameId
    rw [isElement]
    obtain ⟨scenario, isScenario, orphan, -, reported, going⟩ := orphan_of_mem_requests member
    rcases (mem_goingWith_iff wf).1 going with ⟨node, accompanies⟩ | isOrphan
    · exact unused scenario.id reported request.element node accompanies
    · rw [isOrphan]
      exact not_inUse_of_isOrphan wf valid (mem_ofType_iff.1 isScenario).2 orphan

/-- A scenario without asset, and an asset in the place of its vulnerability. -/
def assetAsVulnerability : Snapshot where
  nodes := [
    { id := 1, uuid := "a", typeId := "incident_scenario", scope := some 1, title := "Outage" },
    { id := 2, uuid := "b", typeId := "asset", scope := some 1, title := "Server" }]
  edges := [⟨1, 2, "rel_incscen_vulnerability"⟩]
  filter := .all

theorem wellFormed_assetAsVulnerability : assetAsVulnerability.WellFormed :=
  ⟨by decide, by decide, by decide⟩

theorem spares_inUse_iff_assetAsVulnerability :
    assetAsVulnerability.WellFormed ∧ Settings.checkSchema {} = .ok () ∧
      ∃ report noted, runOn Service.dryRun 1 {} assetAsVulnerability [] = (.ok report, noted) ∧
        ((∀ (σ : Type) (service : Service σ) (s : σ),
            Spares assetAsVulnerability {}
              (runOn service.logged 1 {} assetAsVulnerability (s, [])).2.2) ↔
          ∀ orphan ∈ report.orphans, ∀ e ∈ assetAsVulnerability.nodes,
            Accompanies assetAsVulnerability {} orphan e → ¬ InUse assetAsVulnerability {} e) :=
  have valid : Settings.checkSchema {} = .ok () := by decide
  ⟨wellFormed_assetAsVulnerability, valid,
    spares_inUse_iff wellFormed_assetAsVulnerability valid 1⟩

/-- The asset is requested with the scenario. -/
theorem not_spares_assetAsVulnerability :
    assetAsVulnerability.WellFormed ∧ Settings.checkSchema {} = .ok () ∧
      ¬ Spares assetAsVulnerability {}
        (runOn Service.dryRun.logged 1 {} assetAsVulnerability ([], [])).2.2 := by
  refine ⟨wellFormed_assetAsVulnerability, by decide, ?_⟩
  intro spared
  have asked : ⟨2, "asset", "Server", none⟩ ∈
      (runOn Service.dryRun.logged 1 {} assetAsVulnerability ([], [])).2.2 := by decide
  exact spared _ asked
    { id := 2, uuid := "b", typeId := "asset", scope := some 1, title := "Server" } (by decide) rfl
    (.inl rfl)

end Registry.Cleanup
