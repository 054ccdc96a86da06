import Registry.Proofs.Cleanup.Forecast

/-! # Order of a cleanup

A scenario that was removed on account of another one is not looked at any more, and what would go
with it stays. So the order in which scenarios are scanned makes no difference just when no orphan
goes with another orphan.
-/

namespace Registry

namespace Snapshot

variable {g h : Snapshot}

/-- The same graph, put together in another order. -/
structure Reordered (g h : Snapshot) : Prop where
  nodes : g.nodes.Perm h.nodes
  edges : g.edges.Perm h.edges

theorem Reordered.wellFormed (reordered : g.Reordered h) (wf : g.WellFormed) : h.WellFormed where
  idsOnce := (reordered.nodes.map _).nodup_iff.1 wf.idsOnce
  edgesOnce := reordered.edges.nodup_iff.1 wf.edgesOnce
  ends edge member := by
    obtain ⟨source, target⟩ := wf.ends edge (reordered.edges.mem_iff.2 member)
    exact ⟨(reordered.nodes.map _).mem_iff.1 source, (reordered.nodes.map _).mem_iff.1 target⟩

/-- The graph with one of its nodes put in first. -/
def startingWith (g : Snapshot) (e : Element) : Snapshot :=
  { g with nodes := e :: g.nodes.erase e }

theorem reordered_startingWith {e : Element} (node : e ∈ g.nodes) :
    g.Reordered (g.startingWith e) :=
  ⟨List.perm_cons_erase node, .rfl⟩

end Snapshot

namespace Cleanup

variable {g h : Snapshot} {schema : Schema}

/-- Scenarios without asset, whether or not a run comes to report them. -/
def orphansOf (g : Snapshot) (schema : Schema) : List Element :=
  (g.ofType schema.scenarioType).filter (isOrphan g schema)

theorem mem_orphansOf_iff (wf : g.WellFormed) {e : Element} :
    e ∈ orphansOf g schema ↔ e ∈ g.nodes ∧ e.typeId = schema.scenarioType ∧
      ¬ ∃ edge ∈ g.edges, edge.source = e.id ∧ edge.relation = schema.scenarioAsset := by
  rw [orphansOf, List.mem_filter, mem_ofType_iff, isOrphan_iff wf, and_assoc]

/-- No orphan goes with another orphan. -/
def Apart (g : Snapshot) (schema : Schema) : Prop :=
  ∀ a ∈ orphansOf g schema, ∀ b ∈ orphansOf g schema, Accompanies g schema a.id b → b = a

/-- Two reports name the same orphans and the same removed elements, in whatever order. -/
structure Report.Agrees (a b : Report) : Prop where
  orphans : ∀ id, id ∈ a.orphans ↔ id ∈ b.orphans
  removedIds : ∀ id, id ∈ a.removedIds ↔ id ∈ b.removedIds

theorem orphans_of_uncounted {report : Report} {scope : ScopeId}
    (same : report.uncounted = preview scope schema g) :
    report.orphans = (plan g schema).map (·.orphan) :=
  congrArg Report.orphans same

/-- What a report says of its removals, their numbers aside, is said of the requests. -/
theorem map_removed_of_uncounted {α : Type} {report : Report} {scope : ScopeId}
    (same : report.uncounted = preview scope schema g) (f : Removed → α)
    (blind : ∀ entry, f entry.uncounted = f entry) :
    report.removed.map f =
      (requests g schema).map fun request => f (request.entry request.mutation) := by
  have column := congrArg (fun report : Report => report.removed.map f) same
  simpa only [Report.uncounted, preview, List.map_map, Function.comp_def, blind] using column

theorem removedIds_of_uncounted {report : Report} {scope : ScopeId}
    (same : report.uncounted = preview scope schema g) :
    report.removedIds = (requests g schema).map Request.id :=
  map_removed_of_uncounted same (·.element) fun _ => rfl

section Apart

variable (wf : g.WellFormed) (apart : Apart g schema)
include wf apart

/-- Each orphan is requested on account of some reported one, and this is no other. -/
theorem reported_of_mem_orphansOf {e : Element} (member : e ∈ orphansOf g schema) :
    e.id ∈ (plan g schema).map (·.orphan) := by
  obtain ⟨isScenario, orphan⟩ := List.mem_filter.1 member
  obtain ⟨request, isRequested, sameId⟩ :=
    List.mem_map.1 (requested_of_orphan isScenario orphan)
  obtain ⟨other, otherScenario, otherOrphan, -, reported, going⟩ :=
    orphan_of_mem_requests isRequested
  have same : request.element = e :=
    wf.eq_of_same_id (mem_nodes_of_mem_requests wf isRequested) (mem_ofType_iff.1 isScenario).1
      sameId
  rw [same, mem_goingWith_iff wf] at going
  rcases going with ⟨-, accompanies⟩ | isOther
  · rwa [apart other (List.mem_filter.2 ⟨otherScenario, otherOrphan⟩) e member accompanies]
  · rwa [isOther]

theorem mem_orphans_iff {id : ElementId} :
    id ∈ (plan g schema).map (·.orphan) ↔ ∃ e ∈ orphansOf g schema, e.id = id := by
  constructor
  · intro reported
    obtain ⟨batch, planned, rfl⟩ := List.mem_map.1 reported
    obtain ⟨scenario, isScenario, orphan, same, -⟩ := orphan_of_mem_planFrom batch planned
    exact ⟨scenario, List.mem_filter.2 ⟨isScenario, orphan⟩, same⟩
  · rintro ⟨e, member, rfl⟩
    exact reported_of_mem_orphansOf wf apart member

theorem mem_requests_iff {id : ElementId} :
    id ∈ (requests g schema).map Request.id ↔
      ∃ orphan ∈ orphansOf g schema, ∃ e ∈ goingWith g schema orphan, e.id = id := by
  constructor
  · intro requested
    obtain ⟨request, isRequested, rfl⟩ := List.mem_map.1 requested
    obtain ⟨scenario, isScenario, orphan, -, -, going⟩ := orphan_of_mem_requests isRequested
    exact ⟨scenario, List.mem_filter.2 ⟨isScenario, orphan⟩, request.element, going, rfl⟩
  · rintro ⟨orphan, member, e, going, rfl⟩
    obtain ⟨scenario, isScenario, same, all⟩ :=
      requested_of_mem_orphans (reported_of_mem_orphansOf wf apart member)
    have isOrphan : scenario = orphan :=
      wf.eq_of_same_id (mem_ofType_iff.1 isScenario).1
        (mem_ofType_iff.1 (List.mem_of_mem_filter member)).1 same
    obtain ⟨request, isRequested, sameId⟩ := all e (isOrphan ▸ going)
    exact List.mem_map.2 ⟨request, isRequested, sameId⟩

end Apart

section Reordered

variable (reordered : g.Reordered h)
include reordered

theorem accompanies_reordered {orphan : ElementId} {e : Element} :
    Accompanies g schema orphan e ↔ Accompanies h schema orphan e := by
  simp only [Accompanies, reordered.edges.mem_iff]

theorem mem_orphansOf_reordered (wf : g.WellFormed) {e : Element} :
    e ∈ orphansOf g schema ↔ e ∈ orphansOf h schema := by
  simp only [mem_orphansOf_iff wf, mem_orphansOf_iff (reordered.wellFormed wf),
    reordered.nodes.mem_iff, reordered.edges.mem_iff]

theorem mem_goingWith_reordered (wf : g.WellFormed) {orphan e : Element} :
    e ∈ goingWith g schema orphan ↔ e ∈ goingWith h schema orphan := by
  rw [mem_goingWith_iff wf, mem_goingWith_iff (reordered.wellFormed wf), reordered.nodes.mem_iff,
    accompanies_reordered reordered]

theorem apart_reordered (wf : g.WellFormed) (apart : Apart g schema) : Apart h schema := by
  intro a isA b isB accompanies
  exact apart a ((mem_orphansOf_reordered reordered wf).2 isA) b
    ((mem_orphansOf_reordered reordered wf).2 isB)
    ((accompanies_reordered reordered).2 accompanies)

end Reordered

theorem not_requested_of_mem_planFrom {scenarios : List Element} {requested : List ElementId} :
    ∀ batch ∈ planFrom g schema requested scenarios, batch.orphan ∉ requested := by
  intro batch member
  obtain ⟨scenario, -, asked, -, new, rfl, earlier, -⟩ := scanned_of_mem_planFrom batch member
  exact fun old => new (earlier.subset old)

/-- An orphan that is scanned first is reported, and no other orphan that goes with it is. -/
theorem plan_startingWith {e : Element} (first : e ∈ orphansOf (g.startingWith e) schema) :
    e.id ∈ (plan (g.startingWith e) schema).map (·.orphan) ∧
      ∀ other ∈ goingWith (g.startingWith e) schema e, other.id ≠ e.id →
        other.id ∉ (plan (g.startingWith e) schema).map (·.orphan) := by
  obtain ⟨isScenario, orphan⟩ := List.mem_filter.1 first
  have scanned : (g.startingWith e).ofType schema.scenarioType =
      e :: (g.nodes.erase e).filter (·.typeId == schema.scenarioType) := by
    simp [Snapshot.ofType, Snapshot.startingWith, (mem_ofType_iff.1 isScenario).2]
  have planned := planFrom.eq_2 (g.startingWith e) schema [] e
    ((g.nodes.erase e).filter (·.typeId == schema.scenarioType))
  rw [← scanned, ← plan, if_neg (by simp [orphan])] at planned
  rw [planned]
  refine ⟨by simp, fun other going different reported => ?_⟩
  rcases List.mem_cons.1 reported with isFirst | later
  · exact different isFirst
  · obtain ⟨batch, isLater, same⟩ := List.mem_map.1 later
    refine not_requested_of_mem_planFrom batch isLater ?_
    rw [same]
    exact requested_of_mem other going

/-- For a service that refuses nothing, the same orphans are reported and the same elements removed
    in every order of the graph, iff no orphan goes with another one. -/
theorem runOn_reordered_iff {σ : Type} (service : Service σ) (echoes : service.Echoes)
    (accepts : ∀ m s, ∃ done after, service.execute m s = (.ok done, after)) (wf : g.WellFormed)
    (scope : ScopeId) (schema : Schema) (s s' : σ) :
    (∀ h, g.Reordered h → ∃ a b left left', runOn service scope schema g s = (.ok a, left) ∧
        runOn service scope schema h s' = (.ok b, left') ∧ a.Agrees b) ↔
      Apart g schema := by
  obtain ⟨a, left, ran, foretold⟩ := runOn_of_accepts echoes accepts scope schema g s
  constructor
  · intro same
    -- the reported orphans are those of every order
    have reported : ∀ h, g.Reordered h → ∀ id,
        id ∈ a.orphans ↔ id ∈ (plan h schema).map (·.orphan) := by
      intro h reordered id
      obtain ⟨a', b, _, _, ranAgain, ranReordered, agrees⟩ := same h reordered
      obtain ⟨b', _, ranAlike, foretold'⟩ := runOn_of_accepts echoes accepts scope schema h s'
      rw [ran] at ranAgain
      rw [ranAlike] at ranReordered
      cases ranAgain
      cases ranReordered
      rw [agrees.orphans, orphans_of_uncounted foretold']
    intro first isFirst second isSecond accompanies
    by_contra different
    -- scanned first, `first` takes `second` along; scanned first, `second` is itself reported
    have firstNode := ((mem_orphansOf_iff wf).1 isFirst).1
    have secondNode := ((mem_orphansOf_iff wf).1 isSecond).1
    have firstLeads := Snapshot.reordered_startingWith firstNode
    have secondLeads := Snapshot.reordered_startingWith secondNode
    have going : second ∈ goingWith (g.startingWith first) schema first :=
      (mem_goingWith_reordered firstLeads wf).1
        ((mem_goingWith_iff wf).2 (.inl ⟨secondNode, accompanies⟩))
    have passedOver :=
      (plan_startingWith ((mem_orphansOf_reordered firstLeads wf).1 isFirst)).2 second going
        fun sameId => different (wf.eq_of_same_id secondNode firstNode sameId)
    have found := (plan_startingWith ((mem_orphansOf_reordered secondLeads wf).1 isSecond)).1
    exact passedOver ((reported _ firstLeads _).1 ((reported _ secondLeads _).2 found))
  · intro apart h reordered
    have wf' := reordered.wellFormed wf
    have apart' := apart_reordered reordered wf apart
    obtain ⟨b, left', ran', foretold'⟩ := runOn_of_accepts echoes accepts scope schema h s'
    refine ⟨a, b, left, left', ran, ran', ?_, ?_⟩
    · intro id
      rw [orphans_of_uncounted foretold, orphans_of_uncounted foretold', mem_orphans_iff wf apart,
        mem_orphans_iff wf' apart']
      simp only [mem_orphansOf_reordered reordered wf]
    · intro id
      rw [removedIds_of_uncounted foretold, removedIds_of_uncounted foretold',
        mem_requests_iff wf apart, mem_requests_iff wf' apart']
      simp only [mem_orphansOf_reordered reordered wf, mem_goingWith_reordered reordered wf]

/-- Two orphans, the second linked to the first the way a control is, and a control of the second. -/
def scenarioAsControl : Snapshot where
  nodes := [
    { id := 1, uuid := "a", typeId := "incident_scenario", scope := some 1, title := "S" },
    { id := 2, uuid := "b", typeId := "incident_scenario", scope := some 2, title := "T" },
    { id := 3, uuid := "c", typeId := "control", scope := some 2, title := "C" }]
  edges := [⟨2, 1, "rel_control_incscen"⟩, ⟨3, 2, "rel_control_incscen"⟩]
  filter := .all

theorem wellFormed_scenarioAsControl : scenarioAsControl.WellFormed :=
  ⟨by decide, by decide, by decide⟩

/-- The same graph with the second orphan in front of the first. -/
def scenarioAsControlFirst : Snapshot :=
  { scenarioAsControl with
    nodes := [
      { id := 2, uuid := "b", typeId := "incident_scenario", scope := some 2, title := "T" },
      { id := 3, uuid := "c", typeId := "control", scope := some 2, title := "C" },
      { id := 1, uuid := "a", typeId := "incident_scenario", scope := some 1, title := "S" }] }

theorem runOn_reordered_iff_scenarioAsControl :
    Service.dryRun.Echoes ∧
      (∀ m noted, ∃ done after, Service.dryRun.execute m noted = (.ok done, after)) ∧
      scenarioAsControl.WellFormed ∧
      ((∀ h, scenarioAsControl.Reordered h → ∃ a b left left',
          runOn Service.dryRun 1 {} scenarioAsControl [] = (.ok a, left) ∧
          runOn Service.dryRun 1 {} h [] = (.ok b, left') ∧ a.Agrees b) ↔
        Apart scenarioAsControl {}) :=
  have echoes : Service.dryRun.Echoes := Service.echoes_recording _
  ⟨echoes, Service.accepts_dryRun, wellFormed_scenarioAsControl,
    runOn_reordered_iff Service.dryRun echoes Service.accepts_dryRun
      wellFormed_scenarioAsControl 1 {} [] []⟩

/-- Scanned first, the one orphan takes the other along and leaves its control; scanned second, it
    finds the other one and its control gone. -/
theorem runOn_differs_scenarioAsControl :
    scenarioAsControl.WellFormed ∧ scenarioAsControl.Reordered scenarioAsControlFirst ∧
      Settings.checkSchema {} = .ok () ∧
      ∃ a b, (runOn Service.dryRun 1 {} scenarioAsControl []).1 = .ok a ∧
        (runOn Service.dryRun 1 {} scenarioAsControlFirst []).1 = .ok b ∧
        a.orphans = [1] ∧ a.removedIds = [2, 1] ∧ b.orphans = [2, 1] ∧ b.removedIds = [3, 2, 1] :=
  ⟨wellFormed_scenarioAsControl, ⟨by decide, .rfl⟩, by decide,
    ⟨1, 2, [1], [⟨2, "incident_scenario", "T", 1, none⟩, ⟨1, "incident_scenario", "S", 1, none⟩]⟩,
    ⟨1, 2, [2, 1], [⟨3, "control", "C", 2, none⟩, ⟨2, "incident_scenario", "T", 2, none⟩,
      ⟨1, "incident_scenario", "S", 1, none⟩]⟩,
    by decide, by decide, rfl, rfl, rfl, rfl⟩

end Cleanup
end Registry
