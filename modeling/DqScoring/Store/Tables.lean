import DqScoring.Core.Entities
import DqScoring.Framework.Table

/-!
# The database

The tables that a run of the worker reads and writes, with the constraints of the
migrations: primary keys by the type of the table, CHECK, UNIQUE and FOREIGN KEY
constraints by the insertions below, which refuse a row instead of storing it. A
column restricted to a list of texts is the enumeration of these texts where the
source has one.

Rulesets, policies, snapshots and rules are read only by these operations; they are a
`Catalog`. Values of type REAL are taken to be exact. A transaction is a function into
`Except DbError`: an error leaves the database as it was.
-/

namespace DqScoring

open Framework

/-- What a transaction can fail with. -/
inductive DbError where
  | leaseFencing (message : String)
  | valueError (message : String)
  | checkViolation (table : String)
  | uniqueViolation (table : String)
  | foreignKeyViolation (table : String)
  | numericValueOutOfRange (table : String)
  deriving DecidableEq, Repr

/-- The error of a transaction. -/
def errorOf {β : Type} : Except DbError β → Option DbError
  | .error e => some e
  | .ok _ => none

theorem exists_ok_of_errorOf {β : Type} {x : Except DbError β} (h : errorOf x = none) :
    ∃ b, x = .ok b := by
  cases x with
  | error e => cases h
  | ok b => exact ⟨b, rfl⟩

/-! ### Rows -/

/-- A row of `evaluation_runs`. -/
structure RunRow where
  runId : Uuid
  tenantId : Uuid
  snapshotId : Uuid
  rulesetId : Uuid
  policyId : Uuid
  executionProfile : String
  outlierConfigHash : String
  priority : ℕ := 5
  runStatus : RunStatus
  attemptCount : ℕ := 0
  leaseOwner : Option String := none
  leaseGeneration : ℕ := 0
  leaseExpiresAt : Option Time := none
  heartbeatAt : Option Time := none
  idempotencyKey : String
  executionError : Option String := none
  createdBy : Uuid
  createdAt : Time
  startedAt : Option Time := none
  completedAt : Option Time := none
  deriving DecidableEq

/-- A row of `run_events`. -/
structure RunEvent where
  tenantId : Uuid
  runId : Uuid
  eventType : String
  attemptCount : ℕ
  leaseGeneration : Option ℕ
  eventPayload : List (String × String) := []
  createdAt : Time
  deriving DecidableEq

/-- A row of `assessments`. -/
structure AssessmentRow (α : Type) where
  assessmentId : Uuid
  tenantId : Uuid
  runId : Uuid
  snapshotId : Uuid
  dqScore : Option α
  publicationStatus : PublicationStatus
  visibilityScope : String := "PRIVATE"
  coverageRatio : Option α
  confidenceStatus : String
  qualityGate : QualityGateStatus
  configHashes : List (String × String)
  assessmentHash : String
  publishedAt : Time

/-- A row of `dimension_results`. -/
structure DimensionRow (α : Type) where
  tenantId : Uuid
  assessmentId : Uuid
  dimension : String
  measurementStatus : MeasurementStatus
  dimensionScore : Option α
  dimensionWeight : α
  totalRules : ℕ
  measuredRules : ℕ
  coverageRatio : Option α

/-- The evidence payload of a result: redacted samples and the error message, each
present or not. -/
structure EvidencePayload where
  errorMessage : Option String := none
  evidenceSamples : Option (List EvidenceSample) := none
  deriving DecidableEq

/-- The payload without entries, which is stored as NULL. -/
def EvidencePayload.isEmpty (p : EvidencePayload) : Bool :=
  p.errorMessage.isNone && p.evidenceSamples.isNone

/-- A row of `canonical_quality_results`. -/
structure ResultRow (α : Type) where
  tenantId : Uuid
  runId : Uuid
  ruleId : Option Uuid
  rulesetId : Option Uuid
  ruleConfigHash : String
  sourceKind : String
  targetColumn : String
  dimension : String
  measurementStatus : MeasurementStatus
  passedCount : ℤ
  failedCount : ℤ
  missingCount : ℤ
  miscastCount : ℤ
  notApplicableCount : ℤ
  totalObserved : ℤ
  computedScore : Option α
  isAdvisory : Bool
  isRequired : Bool
  gateEnabled : Bool
  scoreEnabled : Bool
  evidencePayload : Option EvidencePayload
  violationsCount : Option ℤ

/-- A row of `assessment_outbox`, with the fields of its payload. -/
structure OutboxEvent (α : Type) where
  tenantId : Uuid
  assessmentId : Uuid
  destination : String := "LAKEHOUSE_DELTA"
  runId : Uuid
  dqScore : Option α
  publicationStatus : PublicationStatus
  qualityGate : QualityGateStatus
  assessmentHash : String
  status : String := "PENDING"
  createdAt : Time

/-- The tables a run reads and writes, and the transaction time `now()`. -/
structure Database (α : Type) where
  now : Time
  runs : Table RunRow.runId
  runEvents : List RunEvent
  assessments : Table (AssessmentRow.assessmentId (α := α))
  dimensionResults : List (DimensionRow α)
  qualityResults : List (ResultRow α)
  outbox : List (OutboxEvent α)

/-- The database before the first run. -/
def Database.initial {α : Type} (now : Time) : Database α where
  now := now
  runs := .empty
  runEvents := []
  assessments := .empty
  dimensionResults := []
  qualityResults := []
  outbox := []

/-- What the run tables refer to: existing rows by tenant and id, and their hashes. -/
structure Catalog where
  hasSnapshot : Uuid → Uuid → Bool
  hasRuleset : Uuid → Uuid → Bool
  hasPolicy : Uuid → Uuid → Bool
  hasRule : Uuid → Uuid → Bool
  hasUser : Uuid → Bool
  snapshotContentSha256 : Uuid → Option String
  rulesetConfigHash : Uuid → Option String
  policyConfigHash : Uuid → Option String

/-! ### Constraints -/

/-- The texts a dimension column accepts. -/
def dimensionNames : List String :=
  ["COMPLETENESS", "ACCURACY", "CONSISTENCY", "TIMELINESS", "UNIQUENESS", "VALIDITY"]

/-- The value fits a BIGINT column. -/
def inBigint (n : ℤ) : Bool := decide (-2 ^ 63 ≤ n) && decide (n < 2 ^ 63)

variable {α : Type} [Field α] [LinearOrder α]

/-- `x IS NULL OR x BETWEEN lo AND hi`. -/
def nullOrBetween (lo hi : α) (x : Option α) : Bool :=
  x.all fun v => decide (lo ≤ v) && decide (v ≤ hi)

/-- The CHECK constraints of `assessments`. -/
def AssessmentRow.passesChecks (row : AssessmentRow α) : Bool :=
  nullOrBetween 0 ((100 : ℕ) : α) row.dqScore
    && nullOrBetween 0 1 row.coverageRatio
    -- a published assessment has a score, and a withheld one has none
    && (row.publicationStatus == .published && row.dqScore.isSome
      || row.publicationStatus == .withheld && row.dqScore.isNone)

/-- The CHECK constraints of `dimension_results`. -/
def DimensionRow.passesChecks (row : DimensionRow α) : Bool :=
  dimensionNames.contains row.dimension
    && nullOrBetween 0 ((100 : ℕ) : α) row.dimensionScore
    && decide (0 ≤ row.dimensionWeight)
    && decide (row.measuredRules ≤ row.totalRules)
    -- a score exactly for a measured dimension
    && (row.measurementStatus == .measured && row.dimensionScore.isSome
      || row.measurementStatus != .measured && row.dimensionScore.isNone)
    && nullOrBetween 0 1 row.coverageRatio

/-- The CHECK constraints of `canonical_quality_results`, given the size of a payload. -/
def ResultRow.passesChecks (storedSize : EvidencePayload → ℕ) (row : ResultRow α) : Bool :=
  ["RULE", "OUTLIER", "DRIFT"].contains row.sourceKind
    && dimensionNames.contains row.dimension
    && decide (0 ≤ row.passedCount) && decide (0 ≤ row.failedCount)
    && decide (0 ≤ row.missingCount) && decide (0 ≤ row.miscastCount)
    && decide (0 ≤ row.notApplicableCount) && decide (0 ≤ row.totalObserved)
    && nullOrBetween 0 ((100 : ℕ) : α) row.computedScore
    && row.violationsCount.all (fun v => decide (0 ≤ v))
    && row.evidencePayload.all (fun p => decide (storedSize p ≤ 512000))
    -- the partition identity, as a CHECK
    && decide (row.passedCount + row.failedCount + row.missingCount + row.miscastCount
        + row.notApplicableCount = row.totalObserved)

/-- The counts of a result row fit their columns. -/
def ResultRow.inRange (row : ResultRow α) : Bool :=
  [row.passedCount, row.failedCount, row.missingCount, row.miscastCount,
    row.notApplicableCount, row.totalObserved].all inBigint && row.violationsCount.all inBigint

/-! ### Insertions -/

/-- Insert a run: its profile, its key, its tenant's idempotency key and its references. -/
def Database.insertRun (catalog : Catalog) (db : Database α) (row : RunRow) :
    Except DbError (Database α) :=
  -- the CHECK, the unique key, the foreign keys, the primary key
  if row.executionProfile ≠ "SPARK_K3S" then .error (.checkViolation "evaluation_runs")
  else if db.runs.rows.any fun r => r.tenantId = row.tenantId ∧
    r.idempotencyKey = row.idempotencyKey then
    .error (.uniqueViolation "evaluation_runs")
  else if !(catalog.hasSnapshot row.tenantId row.snapshotId
      && catalog.hasRuleset row.tenantId row.rulesetId
      && catalog.hasPolicy row.tenantId row.policyId && catalog.hasUser row.createdBy) then
    .error (.foreignKeyViolation "evaluation_runs")
  else
    match db.runs.insert row with
    | some runs => .ok { db with runs }
    | none => .error (.uniqueViolation "evaluation_runs")

/-- Insert an assessment: one for each id and one for each run. -/
def Database.insertAssessment (catalog : Catalog) (db : Database α) (row : AssessmentRow α) :
    Except DbError (Database α) :=
  if !row.passesChecks then .error (.checkViolation "assessments")
  else if !(db.runs.find? row.runId).any (fun run => run.tenantId = row.tenantId)
      || !catalog.hasSnapshot row.tenantId row.snapshotId then
    .error (.foreignKeyViolation "assessments")
  -- one assessment per run
  else if db.assessments.rows.any fun a => a.runId = row.runId then
    .error (.uniqueViolation "assessments")
  else
    match db.assessments.insert row with
    | some assessments => .ok { db with assessments }
    | none => .error (.uniqueViolation "assessments")

/-- Insert a dimension result: one for each assessment and dimension. -/
def Database.insertDimension (db : Database α) (row : DimensionRow α) :
    Except DbError (Database α) :=
  if !row.passesChecks then .error (.checkViolation "dimension_results")
  else if db.dimensionResults.any fun d =>
      d.tenantId = row.tenantId ∧ d.assessmentId = row.assessmentId ∧ d.dimension = row.dimension
  then .error (.uniqueViolation "dimension_results")
  else .ok { db with dimensionResults := db.dimensionResults ++ [row] }

/-- Insert a rule result. -/
def Database.insertResult (catalog : Catalog) (storedSize : EvidencePayload → ℕ)
    (db : Database α) (row : ResultRow α) : Except DbError (Database α) :=
  -- the values are converted to their columns before any constraint is checked
  if !row.inRange then .error (.numericValueOutOfRange "canonical_quality_results")
  else if !row.passesChecks storedSize then .error (.checkViolation "canonical_quality_results")
  else if !(row.ruleId.all (catalog.hasRule row.tenantId)
      && row.rulesetId.all (catalog.hasRuleset row.tenantId)) then
    .error (.foreignKeyViolation "canonical_quality_results")
  else .ok { db with qualityResults := db.qualityResults ++ [row] }

/-- Insert a run event. -/
def Database.insertEvent (db : Database α) (event : RunEvent) : Database α :=
  { db with runEvents := db.runEvents ++ [event] }

end DqScoring
