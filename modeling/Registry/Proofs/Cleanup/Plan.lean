import Registry.Cleanup
import Registry.Proofs.Snapshot.Shape

/-! # Plan of a cleanup

What a cleanup requests depends on the graph only. It is planned here without a service, orphan by
orphan; a run is then the plan carried out, up to the first request that fails.
-/

namespace Registry

namespace Cleanup

variable {σ : Type}

/-- The removal of an element on account of an orphan. -/
structure Request where
  orphan : ElementId
  element : Element

namespace Request

def id (request : Request) : ElementId :=
  request.element.id

def mutation (request : Request) : Mutation :=
  .remove request.element

/-- What is reported once the request was answered. -/
def entry (request : Request) (done : Mutation) : Removed :=
  ⟨done.element, done.typeId, done.title, request.orphan, done.removed⟩

end Request

/-- Make requests one after the other, up to the first failure. -/
def carryOut (service : Service σ) :
    List Request → List Removed → σ → Except CommandError (List Removed) × σ
  | [], removed, s => (.ok removed, s)
  | request :: rest, removed, s =>
      match service.execute request.mutation s with
      | (.error error, s) => (.error error, s)
      | (.ok done, s) => carryOut service rest (removed ++ [request.entry done]) s

theorem carryOut_append (service : Service σ) (first second : List Request) :
    ∀ (removed : List Removed) (s : σ),
      carryOut service (first ++ second) removed s =
        match carryOut service first removed s with
        | (.error error, s) => (.error error, s)
        | (.ok removed, s) => carryOut service second removed s := by
  induction first with
  | nil => intro removed s; rfl
  | cons request rest ih =>
      intro removed s
      rw [List.cons_append, carryOut, carryOut]
      rcases service.execute request.mutation s with ⟨error | done, s⟩
      · rfl
      · exact ih _ s

/-- Elements that were not requested before, each where it comes first. -/
def unrequested (requested : List ElementId) : List Element → List Element
  | [] => []
  | e :: rest =>
      if requested.contains e.id then unrequested requested rest
      else e :: unrequested (requested ++ [e.id]) rest

/-- What is requested on account of one orphan. -/
structure Batch where
  orphan : ElementId
  elements : List Element

namespace Batch

def ids (batch : Batch) : List ElementId :=
  batch.elements.map (·.id)

def requests (batch : Batch) : List Request :=
  batch.elements.map (⟨batch.orphan, ·⟩)

theorem map_id_requests (batch : Batch) : batch.requests.map Request.id = batch.ids := by
  simp [requests, ids, Request.id, Function.comp_def]

end Batch

/-- The plan for some scenarios, given what was requested before. -/
def planFrom (g : Snapshot) (schema : Schema) (requested : List ElementId) :
    List Element → List Batch
  | [] => []
  | scenario :: rest =>
      if requested.contains scenario.id || !isOrphan g schema scenario then
        planFrom g schema requested rest
      else
        let batch := ⟨scenario.id, unrequested requested (goingWith g schema scenario)⟩
        batch :: planFrom g schema (requested ++ batch.ids) rest

def plan (g : Snapshot) (schema : Schema) : List Batch :=
  planFrom g schema [] (g.ofType schema.scenarioType)

/-- All requests of a cleanup that does not fail. -/
def requests (g : Snapshot) (schema : Schema) : List Request :=
  (plan g schema).flatMap Batch.requests

theorem map_id_requests (g : Snapshot) (schema : Schema) :
    (requests g schema).map Request.id = (plan g schema).flatMap Batch.ids := by
  simp only [requests, List.map_flatMap, Batch.map_id_requests]

theorem removeEach_eq (service : Service σ) (orphan : ElementId) (elements : List Element) :
    ∀ (p : Progress) (s : σ),
      removeEach service orphan elements p s =
        match carryOut service (Batch.mk orphan (unrequested p.requested elements)).requests
            p.removed s with
        | (.error error, s) => (.error error, s)
        | (.ok removed, s) =>
            (.ok { p with
              requested := p.requested ++ (unrequested p.requested elements).map (·.id)
              removed }, s) := by
  induction elements with
  | nil =>
      intro p s
      simp [removeEach, unrequested, Batch.requests, carryOut]
  | cons e rest ih =>
      intro p s
      rw [removeEach, removeOne, unrequested]
      by_cases known : p.requested.contains e.id = true
      · rw [if_pos known, if_pos known]
        exact ih p s
      · rw [if_neg known, if_neg known]
        simp only [Batch.requests, List.map_cons, carryOut, Request.mutation]
        rcases service.execute (.remove e) s with ⟨error | done, s⟩
        · rfl
        · dsimp only
          rw [ih]
          simp only [Batch.requests, Request.entry, List.append_assoc, List.singleton_append]

theorem scan_eq (service : Service σ) (g : Snapshot) (schema : Schema) (scenarios : List Element) :
    ∀ (p : Progress) (s : σ),
      scan service g schema scenarios p s =
        match carryOut service ((planFrom g schema p.requested scenarios).flatMap Batch.requests)
            p.removed s with
        | (.error error, s) => (.error error, s)
        | (.ok removed, s) =>
            (.ok {
              requested :=
                p.requested ++ (planFrom g schema p.requested scenarios).flatMap Batch.ids
              orphans := p.orphans ++ (planFrom g schema p.requested scenarios).map (·.orphan)
              removed }, s) := by
  induction scenarios with
  | nil =>
      intro p s
      simp [scan, planFrom, carryOut]
  | cons scenario rest ih =>
      intro p s
      rw [scan, planFrom]
      by_cases skipped : (p.requested.contains scenario.id || !isOrphan g schema scenario) = true
      · rw [if_pos skipped, if_pos skipped]
        exact ih p s
      · rw [if_neg skipped, if_neg skipped]
        simp only [removeEach_eq, List.flatMap_cons, List.map_cons, carryOut_append]
        rcases carryOut service _ p.removed s with ⟨error | removed, s⟩
        · rfl
        · dsimp only
          rw [ih]
          simp only [Batch.ids, List.append_assoc, List.singleton_append]

theorem runOn_eq (service : Service σ) (scope : ScopeId) (schema : Schema) (g : Snapshot) (s : σ) :
    runOn service scope schema g s =
      match carryOut service (requests g schema) [] s with
      | (.error error, s) => (.error error, s)
      | (.ok removed, s) =>
          (.ok {
            scope
            scanned := (g.ofType schema.scenarioType).length
            orphans := (plan g schema).map (·.orphan)
            removed }, s) := by
  simp only [runOn, scan_eq, requests, plan]
  rcases carryOut service _ [] s with ⟨error | removed, s⟩ <;> rfl

end Cleanup

/-- The same service, with a list of the requests made so far. -/
def Service.logged {σ : Type} (service : Service σ) : Service (σ × List Mutation) where
  execute m s :=
    let (answer, state) := service.execute m s.1
    (answer, state, s.2 ++ [m])

namespace Cleanup

variable {σ : Type}

/-- Taking note changes no answer. The requests that are made are the first of the plan, and all
    of them if none fails. -/
theorem carryOut_logged (service : Service σ) (requests : List Request) :
    ∀ (removed : List Removed) (s : σ) (log : List Mutation), ∃ made, made <+: requests ∧
      (∀ all, (carryOut service requests removed s).1 = .ok all → made = requests) ∧
      carryOut service.logged requests removed (s, log) =
        ((carryOut service requests removed s).1, (carryOut service requests removed s).2,
          log ++ made.map Request.mutation) := by
  induction requests with
  | nil =>
      intro removed s log
      exact ⟨[], List.prefix_rfl, fun _ _ => rfl, by simp [carryOut]⟩
  | cons request rest ih =>
      intro removed s log
      rw [carryOut, carryOut]
      rcases answered : service.execute request.mutation s with ⟨error | done, after⟩
      · have step : service.logged.execute request.mutation (s, log) =
            (.error error, after, log ++ [request.mutation]) := by
          simp [Service.logged, answered]
        refine ⟨[request], by simp, ?_, by rw [step]; rfl⟩
        intro all done
        cases done
      · have step : service.logged.execute request.mutation (s, log) =
            (.ok done, after, log ++ [request.mutation]) := by
          simp [Service.logged, answered]
        obtain ⟨made, isPrefix, whole, logged⟩ := ih (removed ++ [request.entry done]) after
          (log ++ [request.mutation])
        refine ⟨request :: made, (List.prefix_cons_inj request).2 isPrefix, ?_, ?_⟩
        · intro all finished
          rw [whole all finished]
        · rw [step]
          simpa using logged

theorem carryOut_dryRun (requests : List Request) :
    ∀ (removed : List Removed) (noted : List Mutation),
      carryOut Service.dryRun requests removed noted =
        (.ok (removed ++ requests.map fun request => request.entry request.mutation),
          noted ++ requests.map Request.mutation) := by
  induction requests with
  | nil => intro removed noted; simp [carryOut]
  | cons request rest ih =>
      intro removed noted
      simp only [carryOut, Service.dryRun, Service.recording]
      refine (ih _ _).trans ?_
      simp

/-- The report of a dry run. -/
def preview (scope : ScopeId) (schema : Schema) (g : Snapshot) : Report where
  scope
  scanned := (g.ofType schema.scenarioType).length
  orphans := (plan g schema).map (·.orphan)
  removed := (requests g schema).map fun request => request.entry request.mutation

theorem runOn_dryRun (scope : ScopeId) (schema : Schema) (g : Snapshot) (noted : List Mutation) :
    runOn Service.dryRun scope schema g noted =
      (.ok (preview scope schema g), noted ++ (requests g schema).map Request.mutation) := by
  rw [runOn_eq, carryOut_dryRun]
  rfl

theorem state_runOn (service : Service σ) (scope : ScopeId) (schema : Schema) (g : Snapshot)
    (s : σ) :
    (runOn service scope schema g s).2 = (carryOut service (requests g schema) [] s).2 := by
  rw [runOn_eq]
  rcases carryOut service (requests g schema) [] s with ⟨error | removed, after⟩ <;> rfl

end Cleanup
end Registry
