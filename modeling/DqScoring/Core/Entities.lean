import DqScoring.Common.PyValue
import DqScoring.Common.Uuid
import DqScoring.Core.Models

/-!
# Domain entities

The entities of `core/entities.py` that pass between the services: the configured
rule, what the compute engine returns for it, and the assessment that is stored.
-/

namespace DqScoring

/-- Lifecycle status of an evaluation run. -/
inductive RunStatus where
  | queued | leased | running | succeeded | failed | cancelled
  deriving DecidableEq, Repr

/-- The text a status is stored as. -/
def RunStatus.value : RunStatus → String
  | .queued => "QUEUED"
  | .leased => "LEASED"
  | .running => "RUNNING"
  | .succeeded => "SUCCEEDED"
  | .failed => "FAILED"
  | .cancelled => "CANCELLED"

/-- Configured data quality rule to be executed against a snapshot. -/
structure QualityRule (α : Type) where
  ruleId : Uuid
  ruleCode : String
  dimension : String
  ruleType : String
  parameters : PyDict := []
  nullPolicy : String := "fail"
  isRequired : Bool := false
  isCritical : Bool := false
  gateEnabled : Bool := true
  scoreEnabled : Bool := true
  conflictGroup : Option String := none
  isPrimaryScoringRule : Bool := true
  contributionWeight : α
  acceptanceThreshold : Option α := none
  isAdvisory : Bool := false

/-- Execution output of the compute engine for a single rule. -/
structure RuleExecutionOutput where
  ruleId : Uuid
  counts : RuleCounts
  status : MeasurementStatus := .measured
  evidenceSamples : List EvidenceSample := []
  errorMessage : Option String := none
  deriving DecidableEq

/-- A point in time, in seconds. -/
abbrev Time := ℤ

/-- Persisted, immutable scorecard assessment. -/
structure ImmutableAssessment (α : Type) where
  assessmentId : Uuid
  tenantId : Uuid
  runId : Uuid
  snapshotId : Uuid
  dqScore : Option α
  publicationStatus : PublicationStatus
  coverageRatio : Option α
  qualityGate : QualityGateStatus
  dimensionResults : List (DimensionResult α)
  assessmentHash : String
  createdAt : Time
  confidenceStatus : String := "NOT_APPLICABLE"
  deriving DecidableEq

end DqScoring
