import Registry.Proofs.Cleanup.Live

/-! # Dry runs as forecasts

A dry run takes note of what every other service is asked for, in the same order, up to the first
request that this service refuses. A service that refuses none makes the report of the dry run,
apart from the numbers of deleted elements.
-/

namespace Registry

namespace Service

variable {σ : Type}

/-- A request that is not refused is answered with the element it was about. -/
def Echoes (service : Service σ) : Prop :=
  ∀ m s done, (service.execute m s).1 = .ok done →
    done.element = m.element ∧ done.typeId = m.typeId ∧ done.title = m.title

/-- The requests, made one after the other, are all granted and lead from one state to another. -/
inductive Grants (service : Service σ) : List Mutation → σ → σ → Prop
  | nil (s : σ) : Grants service [] s s
  | cons {m done : Mutation} {rest : List Mutation} {s between after : σ}
      (granted : service.execute m s = (.ok done, between))
      (later : Grants service rest between after) : Grants service (m :: rest) s after

/-- Of some requests, `m` is the first that is refused, with `error`, and `after` is the state that
    this leads to. -/
structure Refuses (service : Service σ) (made : List Mutation) (s : σ) (before : List Mutation)
    (m : Mutation) (error : CommandError) (after : σ) : Prop where
  isPrefix : before ++ [m] <+: made
  refused : ∃ between, service.Grants before s between ∧
    service.execute m between = (.error error, after)

theorem grants_or_refuses (service : Service σ) (made : List Mutation) :
    ∀ s, (∃ after, service.Grants made s after) ∨
      ∃ before m error after, service.Refuses made s before m error after := by
  induction made with
  | nil => intro s; exact .inl ⟨s, .nil s⟩
  | cons m rest ih =>
      intro s
      rcases answered : service.execute m s with ⟨error | done, between⟩
      · refine .inr ⟨[], m, error, between, ?_, s, .nil s, answered⟩
        simp
      · rcases ih between with ⟨after, granted⟩ | ⟨before, m', error, after, isPrefix, s', refused⟩
        · exact .inl ⟨after, .cons answered granted⟩
        · refine .inr ⟨m :: before, m', error, after, ?_, s', .cons answered refused.1, refused.2⟩
          simpa using isPrefix

theorem execute_logged (service : Service σ) (m : Mutation) (s : σ) (log : List Mutation) :
    service.logged.execute m (s, log) =
      ((service.execute m s).1, (service.execute m s).2, log ++ [m]) :=
  rfl

theorem echoes_recording (refuse : Mutation → Option CommandError) : (recording refuse).Echoes := by
  intro m noted done answered
  simp only [recording] at answered
  split at answered
  · cases answered
  · cases answered
    exact ⟨rfl, rfl, rfl⟩

theorem accepts_dryRun (m : Mutation) (noted : List Mutation) :
    ∃ done after, dryRun.execute m noted = (.ok done, after) :=
  ⟨m, noted ++ [m], rfl⟩

theorem exists_grants {service : Service σ}
    (accepts : ∀ m s, ∃ done after, service.execute m s = (.ok done, after))
    (made : List Mutation) : ∀ s, ∃ after, service.Grants made s after := by
  induction made with
  | nil => intro s; exact ⟨s, .nil s⟩
  | cons m rest ih =>
      intro s
      obtain ⟨done, between, answered⟩ := accepts m s
      obtain ⟨after, later⟩ := ih between
      exact ⟨after, .cons answered later⟩

theorem echoes_tables : tables.Echoes := by
  intro m t done answered
  simp only [tables] at answered
  rcases removed : t.remove m.element with ⟨cause | count, after⟩
  · rw [removed] at answered
    cases answered
  · rw [removed] at answered
    cases answered
    exact ⟨rfl, rfl, rfl⟩

end Service

namespace Tables

/-- What removing elements one after the other leaves, whether they are there or not. -/
def removeAll (t : Tables) (ids : List ElementId) : Tables :=
  ids.foldl (fun t id => (t.remove id).2) t

theorem remove_eq_of_error {t : Tables} {id : ElementId} {cause : StoreError}
    (failed : (t.remove id).1 = .error cause) : (t.remove id).2 = t := by
  unfold remove at failed ⊢
  split at failed
  · cases failed
  · rename_i missing
    rw [if_neg missing]

end Tables

namespace Service

theorem state_tables (m : Mutation) (t : Tables) :
    (tables.execute m t).2 = (t.remove m.element).2 := by
  simp only [tables]
  rcases t.remove m.element with ⟨cause | count, after⟩ <;> rfl

theorem eq_of_tables_refuse {m : Mutation} {t after : Tables} {error : CommandError}
    (refused : tables.execute m t = (.error error, after)) : after = t := by
  have state : (tables.execute m t).2 = after := by rw [refused]
  rw [← state, state_tables]
  simp only [tables] at refused
  rcases removed : t.remove m.element with ⟨cause | count, left⟩
  · rw [← removed]
    exact Tables.remove_eq_of_error (by rw [removed])
  · rw [removed] at refused
    cases refused

theorem eq_removeAll_of_grants {made : List Mutation} {t after : Tables}
    (granted : tables.Grants made t after) : after = t.removeAll (made.map (·.element)) := by
  induction granted with
  | nil => rfl
  | @cons m done rest t between after answered _ ih =>
      have state : between = (t.remove m.element).2 := by rw [← state_tables, answered]
      rw [ih, state]
      rfl

end Service

/-! ## Runs and their forecast -/

namespace Cleanup

variable {σ : Type}

def Removed.uncounted (removed : Removed) : Removed :=
  { removed with deleted := none }

/-- The report without the numbers of deleted elements, which a dry run does not know. -/
def Report.uncounted (report : Report) : Report :=
  { report with removed := report.removed.map Removed.uncounted }

theorem uncounted_entry {service : Service σ} (echoes : service.Echoes) {request : Request}
    {done : Mutation} {s after : σ}
    (granted : service.execute request.mutation s = (.ok done, after)) :
    (request.entry done).uncounted = request.entry request.mutation := by
  obtain ⟨element, typeId, title⟩ := echoes request.mutation s done (by rw [granted])
  simp only [Request.entry, Removed.uncounted, element, typeId, title]
  rfl

theorem carryOut_of_grants {service : Service σ} (echoes : service.Echoes)
    {requests : List Request} :
    ∀ {s after : σ} (removed : List Removed) (log : List Mutation),
      service.Grants (requests.map Request.mutation) s after →
      ∃ entries,
        carryOut service.logged requests removed (s, log) =
          (.ok (removed ++ entries), after, log ++ requests.map Request.mutation) ∧
        entries.map Removed.uncounted =
          requests.map fun request => request.entry request.mutation := by
  induction requests with
  | nil =>
      intro s after removed log granted
      cases granted
      exact ⟨[], by simp [carryOut], rfl⟩
  | cons request rest ih =>
      intro s after removed log granted
      cases granted with
      | @cons _ done _ _ between _ answered later =>
          obtain ⟨entries, ran, same⟩ :=
            ih (removed ++ [request.entry done]) (log ++ [request.mutation]) later
          refine ⟨request.entry done :: entries, ?_, ?_⟩
          -- the entry stands in front of those of the run that starts after it
          · rw [carryOut, Service.execute_logged, answered]
            simpa using ran
          · rw [List.map_cons, List.map_cons, same, uncounted_entry echoes answered]

theorem carryOut_of_refuses {service : Service σ} {before : List Mutation} {m : Mutation}
    {error : CommandError} {between after : σ}
    (refused : service.execute m between = (.error error, after)) :
    ∀ {requests : List Request} {s : σ} (removed : List Removed) (log : List Mutation),
      before ++ [m] <+: requests.map Request.mutation → service.Grants before s between →
      carryOut service.logged requests removed (s, log) =
        (.error error, after, log ++ (before ++ [m])) := by
  induction before with
  | nil =>
      intro requests s removed log isPrefix granted
      cases granted
      cases requests with
      | nil => simp at isPrefix
      | cons request rest =>
          -- nothing was granted before, so this run ends with its first request
          have first : m = request.mutation := by simpa using isPrefix
          rw [carryOut, Service.execute_logged, ← first, refused]
          rfl
  | cons first before ih =>
      intro requests s removed log isPrefix granted
      cases granted with
      | @cons _ done _ _ next _ answered later =>
          cases requests with
          | nil => simp at isPrefix
          | cons request rest =>
              obtain ⟨same, isPrefix⟩ :
                  first = request.mutation ∧ before ++ [m] <+: rest.map Request.mutation := by
                simpa using isPrefix
              rw [carryOut, Service.execute_logged, ← same, answered]
              refine (ih _ _ isPrefix later).trans ?_
              simp

theorem runOn_logged (service : Service σ) (scope : ScopeId) (schema : Schema)
    (g : Snapshot) (s : σ) :
    ∃ made, made <+: (requests g schema).map Request.mutation ∧
      runOn service.logged scope schema g (s, []) =
        ((runOn service scope schema g s).1, (runOn service scope schema g s).2, made) := by
  obtain ⟨made, isPrefix, -, logged⟩ := carryOut_logged service (requests g schema) [] s []
  refine ⟨made.map Request.mutation, isPrefix.map _, ?_⟩
  rw [runOn_eq, runOn_eq, logged]
  rcases carryOut service (requests g schema) [] s with ⟨error | removed, after⟩ <;> rfl

/-- Without a graph nothing is requested. -/
theorem execute_of_not_built {source : Source σ} (service : Service σ) {scope : ScopeId}
    {schema : Schema} {r after : Retrieval σ} {error : RetrievalError}
    (failed : Snapshot.build source (spec scope schema).loaders (spec scope schema).filter r =
      (.error error, after)) :
    execute source.left service.logged scope schema (r.beside []) =
      (.error (.retrieval error), after.beside []) := by
  simp only [execute, GraphCommand.execute, command, Snapshot.build_left, failed]

theorem execute_of_built {source : Source σ} (service : Service σ) {scope : ScopeId}
    {schema : Schema} {r after : Retrieval σ} {g : Snapshot}
    (built : Snapshot.build source (spec scope schema).loaders (spec scope schema).filter r =
      (.ok g, after)) :
    execute source.left service.logged scope schema (r.beside []) =
      ((runOn service.logged scope schema g (after.state, [])).1,
        ⟨(runOn service.logged scope schema g (after.state, [])).2, after.usage⟩) := by
  simp only [execute, GraphCommand.execute, command, Snapshot.build_left, built]
  rfl

/-- What a dry run, with its report and the requests it took note of, tells about a run of
    `service` on the same graph. -/
structure Foretells (report : Report) (plan : List Mutation) (service : Service σ) (scope : ScopeId)
    (schema : Schema) (g : Snapshot) (s : σ) : Prop where
  /-- Either all planned requests are granted, or one of them is the first that is refused. -/
  outcomes : (∃ after, service.Grants plan s after) ∨
    ∃ before m error after, service.Refuses plan s before m error after
  granted : ∀ after, service.Grants plan s after →
    ∃ real, runOn service.logged scope schema g (s, []) = (.ok real, after, plan) ∧
      real.uncounted = report
  refused : ∀ before m error after, service.Refuses plan s before m error after →
    runOn service.logged scope schema g (s, []) = (.error error, after, before ++ [m])

theorem foretells (service : Service σ) (echoes : service.Echoes) (scope : ScopeId)
    (schema : Schema) (g : Snapshot) (s : σ) :
    Foretells (preview scope schema g) ((requests g schema).map Request.mutation) service scope
      schema g s where
  outcomes := service.grants_or_refuses _ s
  granted after granted := by
    obtain ⟨entries, ran, same⟩ := carryOut_of_grants echoes [] [] granted
    rw [runOn_eq, ran]
    refine ⟨_, rfl, ?_⟩
    simp only [Report.uncounted, preview, List.nil_append, same]
  refused before m error after refuses := by
    obtain ⟨isPrefix, between, granted, refused⟩ := refuses
    rw [runOn_eq, carryOut_of_refuses refused [] [] isPrefix granted]
    rfl

theorem runOn_of_accepts {service : Service σ} (echoes : service.Echoes)
    (accepts : ∀ m s, ∃ done after, service.execute m s = (.ok done, after)) (scope : ScopeId)
    (schema : Schema) (g : Snapshot) (s : σ) :
    ∃ report after, runOn service scope schema g s = (.ok report, after) ∧
      report.uncounted = preview scope schema g := by
  obtain ⟨after, granted⟩ :=
    service.exists_grants accepts ((requests g schema).map Request.mutation) s
  obtain ⟨report, ran, same⟩ :=
    (foretells service echoes scope schema g s).granted after granted
  obtain ⟨made, -, logged⟩ := runOn_logged service scope schema g s
  simp only [logged, Prod.mk.injEq] at ran
  exact ⟨report, after, Prod.ext ran.1 ran.2.1, same⟩

/-- A dry run foretells the run of every service on the graph. Where tables refuse a request, all
    removals before it were made and nothing else was; where there is no graph, nothing is
    requested. -/
theorem dryRun_foretells (service : Service σ) (echoes : service.Echoes) (scope : ScopeId)
    (schema : Schema) (g : Snapshot) (s : σ) :
    ∃ report plan, runOn Service.dryRun scope schema g [] = (.ok report, plan) ∧
      Foretells report plan service scope schema g s ∧
      (∀ t before m error after, Service.tables.Refuses plan t before m error after →
        runOn Service.tables.logged scope schema g (t, []) =
          (.error error, t.removeAll (before.map (·.element)), before ++ [m])) ∧
      ∀ (source : Source σ) r error after,
        Snapshot.build source (spec scope schema).loaders (spec scope schema).filter r =
            (.error error, after) →
          execute source.left service.logged scope schema (r.beside []) =
            (.error (.retrieval error), after.beside []) := by
  refine ⟨preview scope schema g, _, runOn_dryRun scope schema g [],
    foretells service echoes scope schema g s, ?_, ?_⟩
  · intro t before m error after refuses
    obtain ⟨between, granted, refused⟩ := refuses.refused
    have left : after = t.removeAll (before.map (·.element)) := by
      rw [Service.eq_of_tables_refuse refused, Service.eq_removeAll_of_grants granted]
    rw [← left]
    exact (foretells Service.tables Service.echoes_tables scope schema g t).refused _ _ _ _ refuses
  · intro source r error after failed
    exact execute_of_not_built service failed

/-- An orphan with a control and a vulnerability. -/
def vulnerabilityInControlGraph : Snapshot where
  nodes := [
    { id := 1, uuid := "a", typeId := "incident_scenario", scope := some 1, title := "S" },
    { id := 2, uuid := "b", typeId := "control", scope := some 1, title := "C" },
    { id := 3, uuid := "c", typeId := "vulnerability", scope := some 1, title := "V" }]
  edges := [⟨2, 1, "rel_control_incscen"⟩, ⟨1, 3, "rel_incscen_vulnerability"⟩]
  filter := .all

/-- The dry run asks for the control, the vulnerability and the scenario. Tables in which the
    vulnerability is inside the control grant the first request and refuse the second one. -/
theorem dryRun_foretells_vulnerabilityInControl :
    Service.tables.Echoes ∧
      ∃ report plan, runOn Service.dryRun 1 {} vulnerabilityInControlGraph [] = (.ok report, plan) ∧
        plan.map (·.element) = [2, 3, 1] ∧
        runOn Service.tables.logged 1 {} vulnerabilityInControlGraph
            (vulnerabilityInControlTables, []) =
          (.error (.execution "RemoveElement(vulnerability #3 'V')" (.elementNotFound 3)),
            vulnerabilityInControlTables.removeAll [2],
            [⟨2, "control", "C", none⟩, ⟨3, "vulnerability", "V", none⟩]) := by
  obtain ⟨report, plan, ran, -, refused, -⟩ := dryRun_foretells Service.tables
    Service.echoes_tables 1 {} vulnerabilityInControlGraph vulnerabilityInControlTables
  have planned : plan = [⟨2, "control", "C", none⟩, ⟨3, "vulnerability", "V", none⟩,
      ⟨1, "incident_scenario", "S", none⟩] := by
    have noted : (runOn Service.dryRun 1 {} vulnerabilityInControlGraph []).2 = plan := by rw [ran]
    rw [← noted]
    decide
  refine ⟨Service.echoes_tables, report, plan, ran, by rw [planned]; rfl, ?_⟩
  have granted : Service.tables.execute ⟨2, "control", "C", none⟩ vulnerabilityInControlTables =
      (.ok ⟨2, "control", "C", some 2⟩,
        (Service.tables.execute ⟨2, "control", "C", none⟩ vulnerabilityInControlTables).2) :=
    Prod.ext (by decide +kernel) rfl
  refine refused vulnerabilityInControlTables [⟨2, "control", "C", none⟩]
    ⟨3, "vulnerability", "V", none⟩ _ _ ⟨?_, _, .cons granted (.nil _), Prod.ext ?_ rfl⟩
  · rw [planned]
    decide
  · decide +kernel

end Cleanup
end Registry
