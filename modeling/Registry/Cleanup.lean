import Registry.Mutation

/-! # Cleanup of a scope

A scenario without an asset is an orphan. It is removed together with the controls linked to it
and the vulnerabilities it is linked to.
-/

namespace Registry.Cleanup

/-- Names of the types and relations that a cleanup looks at. -/
structure Schema where
  assetType : String := "asset"
  scenarioType : String := "incident_scenario"
  controlType : String := "control"
  vulnerabilityType : String := "vulnerability"
  /-- From a scenario to the assets it concerns. -/
  scenarioAsset : String := "rel_incscen_asset"
  /-- From a scenario to the vulnerabilities it uses. -/
  scenarioVulnerability : String := "rel_incscen_vulnerability"
  /-- From a control to the scenarios it is meant for. -/
  controlScenario : String := "rel_control_incscen"
  deriving DecidableEq, Repr

namespace Schema

def types (schema : Schema) : List String :=
  [schema.assetType, schema.scenarioType, schema.controlType, schema.vulnerabilityType]

def relations (schema : Schema) : List String :=
  [schema.scenarioAsset, schema.scenarioVulnerability, schema.controlScenario]

end Schema

/-- The snapshot of one scope with the types and relations of the schema. -/
def spec (scope : ScopeId) (schema : Schema) : GraphSpec :=
  schema.relations.foldl GraphSpec.addRelation
    (GraphSpec.addLoader {} { types := .ofList schema.types, scope := some scope })

/-- One removal, and the orphan it was done for. -/
structure Removed where
  element : ElementId
  typeId : String
  title : String
  orphan : ElementId
  deleted : Option Nat
  deriving DecidableEq, Repr

structure Report where
  scope : ScopeId
  scanned : Nat
  orphans : List ElementId := []
  removed : List Removed := []
  deriving DecidableEq, Repr

def Report.removedIds (report : Report) : List ElementId :=
  report.removed.map (·.element)

/-- What a run has done so far. -/
structure Progress where
  /-- Ids whose removal was requested. -/
  requested : List ElementId := []
  orphans : List ElementId := []
  removed : List Removed := []
  deriving DecidableEq, Repr

variable {σ : Type}

/-- Request the removal of an element, unless that was done before. -/
def removeOne (service : Service σ) (orphan : ElementId) (e : Element) (p : Progress) (s : σ) :
    Except CommandError Progress × σ :=
  if p.requested.contains e.id then (.ok p, s)
  else
    match service.execute (.remove e) s with
    | (.error error, s) => (.error error, s)
    | (.ok done, s) =>
        let entry := ⟨done.element, done.typeId, done.title, orphan, done.removed⟩
        (.ok { p with requested := p.requested ++ [e.id], removed := p.removed ++ [entry] }, s)

/-- Request the removal of several elements, up to the first failure. -/
def removeEach (service : Service σ) (orphan : ElementId) :
    List Element → Progress → σ → Except CommandError Progress × σ
  | [], p, s => (.ok p, s)
  | e :: rest, p, s =>
      match removeOne service orphan e p s with
      | (.error error, s) => (.error error, s)
      | (.ok p, s) => removeEach service orphan rest p s

/-- A scenario that no asset is linked to. -/
def isOrphan (g : Snapshot) (schema : Schema) (scenario : Element) : Bool :=
  (g.targets scenario.id schema.scenarioAsset).isEmpty

/-- What goes with an orphan: controls, vulnerabilities, and the orphan last. -/
def goingWith (g : Snapshot) (schema : Schema) (orphan : Element) : List Element :=
  g.sources orphan.id schema.controlScenario ++
    g.targets orphan.id schema.scenarioVulnerability ++ [orphan]

/-- Go through scenarios, and remove each orphan that was not removed before. -/
def scan (service : Service σ) (g : Snapshot) (schema : Schema) :
    List Element → Progress → σ → Except CommandError Progress × σ
  | [], p, s => (.ok p, s)
  | scenario :: rest, p, s =>
      if p.requested.contains scenario.id || !isOrphan g schema scenario then
        scan service g schema rest p s
      else
        let p := { p with orphans := p.orphans ++ [scenario.id] }
        match removeEach service scenario.id (goingWith g schema scenario) p s with
        | (.error error, s) => (.error error, s)
        | (.ok p, s) => scan service g schema rest p s

/-- Clean up a snapshot of the scope. -/
def runOn (service : Service σ) (scope : ScopeId) (schema : Schema) (g : Snapshot) (s : σ) :
    Except CommandError Report × σ :=
  let scenarios := g.ofType schema.scenarioType
  match scan service g schema scenarios {} s with
  | (.error error, s) => (.error error, s)
  | (.ok p, s) =>
      (.ok { scope, scanned := scenarios.length, orphans := p.orphans, removed := p.removed }, s)

/-- The cleanup of a scope as a command. -/
def command (service : Service σ) (scope : ScopeId) (schema : Schema) : GraphCommand σ Report where
  spec := spec scope schema
  run := runOn service scope schema

/-- Take a snapshot of the scope and clean it up. -/
def execute (source : Source σ) (service : Service σ) (scope : ScopeId) (schema : Schema)
    (r : Retrieval σ) : Except CommandError Report × Retrieval σ :=
  (command service scope schema).execute source r

end Registry.Cleanup
