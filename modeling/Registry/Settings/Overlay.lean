import Registry.Settings

/-! # Laying settings over each other

A value counts as set when it differs from its default; a value that is set covers the one below.
-/

namespace Registry.Settings

/-- The upper value, unless it is the default. -/
def choose {α : Type} [BEq α] (default lower upper : α) : α :=
  if upper == default then lower else upper

/-- The upper path, unless it is the same as the default. -/
def choosePath (default lower upper : Path) : Path :=
  if upper.same default then lower else upper

def Storage.overlay (lower upper : Storage) : Storage where
  dataDir := choosePath ({} : Storage).dataDir lower.dataDir upper.dataDir
  database := choosePath ({} : Storage).database lower.database upper.database

def Logging.overlay (lower upper : Logging) : Logging where
  level := choose ({} : Logging).level lower.level upper.level
  format := choose ({} : Logging).format lower.format upper.format
  file := upper.file <|> lower.file

def overlaySchema (lower upper : Cleanup.Schema) : Cleanup.Schema :=
  let default : Cleanup.Schema := {}
  { assetType := choose default.assetType lower.assetType upper.assetType
    scenarioType := choose default.scenarioType lower.scenarioType upper.scenarioType
    controlType := choose default.controlType lower.controlType upper.controlType
    vulnerabilityType :=
      choose default.vulnerabilityType lower.vulnerabilityType upper.vulnerabilityType
    scenarioAsset := choose default.scenarioAsset lower.scenarioAsset upper.scenarioAsset
    scenarioVulnerability :=
      choose default.scenarioVulnerability lower.scenarioVulnerability upper.scenarioVulnerability
    controlScenario := choose default.controlScenario lower.controlScenario upper.controlScenario }

/-- Settings with those of `upper` that are set laid over them. -/
def overlay (lower upper : Settings) : Settings where
  storage := lower.storage.overlay upper.storage
  cleanup := overlaySchema lower.cleanup upper.cleanup
  logging := lower.logging.overlay upper.logging

/-- Values given for one run. -/
structure Overrides where
  dataDir : Option Path := none
  database : Option Path := none
  level : Option String := none
  format : Option LogFormat := none
  deriving DecidableEq, Repr

/-- Settings with the values given for one run. -/
def override (s : Settings) (o : Overrides) : Settings where
  storage :=
    { dataDir := o.dataDir.getD s.storage.dataDir
      database := o.database.getD s.storage.database }
  cleanup := s.cleanup
  logging :=
    { level := o.level.getD s.logging.level
      format := o.format.getD s.logging.format
      file := s.logging.file }

end Registry.Settings
