import DqScoring.Framework.Traverse
import DqScoring.Store.Tables

/-!
# The assessment store

`adapters/db/postgres_assessment_store.py`: one transaction stores an assessment with
its dimensions, rule results, outbox entry and run event, and advances the run to
SUCCEEDED under its lease; two queries read it back. Every row is computed by a
function of its own (`assessmentRow`, `dimensionRow`, `resultRow`), so that a reader
can compare the columns with the source and a proof can speak about the rows.

`StoreRuntime` collects what the store calls outside this development. A query
without ORDER BY returns its rows in some order: `Scan` is that order.
-/

namespace DqScoring

open Framework

variable {α : Type}

/-- What the store calls: `str.upper`, SHA-256, the bounded evidence payload of a
result with the size of its JSON text, and the size of the stored JSONB. -/
structure StoreRuntime where
  upper : String → String
  sha256 : String → String
  prepareBoundedEvidencePayload :
    Option (List EvidenceSample) → Option String → ℕ → EvidencePayload
  encodedSize : EvidencePayload → ℕ
  storedSize : EvidencePayload → ℕ

/-- The order in which a query without ORDER BY returns rows. -/
structure Scan where
  order : {β : Type} → List β → List β
  perm : ∀ {β : Type} (l : List β), (order l).Perm l

/-- Bound of the evidence of one assessment and of one result, in bytes. -/
def maxEvidenceBytes : ℕ := 500 * 1024

/-! ### The lease -/

/-- The run is being worked on. -/
def RunRow.isActive (run : RunRow) : Bool :=
  run.runStatus == .leased || run.runStatus == .running

/-- `lease_expires_at > now()`. -/
def RunRow.leaseLive (run : RunRow) (now : Time) : Bool :=
  run.leaseExpiresAt.any fun t => decide (now < t)

/-- `lease_expires_at IS NULL OR lease_expires_at > now()`. -/
def RunRow.leaseOpen (run : RunRow) (now : Time) : Bool :=
  run.leaseExpiresAt.isNone || run.leaseLive now

/-- The row the fenced updates of a run select. -/
def RunRow.ownedBy (runId : Uuid) (leaseGeneration : ℕ) (now : Time) (run : RunRow) : Bool :=
  decide (run.runId = runId) && decide (run.leaseGeneration = leaseGeneration)
    && run.isActive && run.leaseOpen now

/-- The run after its completion. -/
def RunRow.complete (status : RunStatus) (executionError : Option String) (now : Time)
    (run : RunRow) : RunRow :=
  { run with
    runStatus := status
    completedAt := some now
    executionError }

/-- The run after the store has advanced it. -/
def RunRow.succeed (now : Time) (run : RunRow) : RunRow :=
  { run with
    runStatus := .succeeded
    completedAt := some now }

/-! ### Rows to insert -/

/-- The hashes of the configuration a run was made with. -/
def configHashes (catalog : Catalog) (run : RunRow) : List (String × String) := [
  ("source_descriptor_hash", (catalog.snapshotContentSha256 run.snapshotId).getD ""),
  ("ruleset_hash", (catalog.rulesetConfigHash run.rulesetId).getD ""),
  ("policy_hash", (catalog.policyConfigHash run.policyId).getD ""),
  ("outlier_config_hash", run.outlierConfigHash)]

/-- The row of an assessment. -/
def assessmentRow (hashes : List (String × String)) (a : ImmutableAssessment α) :
    AssessmentRow α where
  assessmentId := a.assessmentId
  tenantId := a.tenantId
  runId := a.runId
  snapshotId := a.snapshotId
  dqScore := a.dqScore
  publicationStatus := a.publicationStatus
  coverageRatio := a.coverageRatio
  confidenceStatus := a.confidenceStatus
  qualityGate := a.qualityGate
  configHashes := hashes
  assessmentHash := a.assessmentHash
  publishedAt := a.createdAt

/-- The row of a dimension result. -/
def dimensionRow (upper : String → String) (a : ImmutableAssessment α) (d : DimensionResult α) :
    DimensionRow α where
  tenantId := a.tenantId
  assessmentId := a.assessmentId
  dimension := upper d.dimension
  -- the status of a dimension is told by its score
  measurementStatus := if d.dimensionScore.isSome then .measured else .notMeasurable
  dimensionScore := d.dimensionScore
  dimensionWeight := d.dimensionWeight
  totalRules := d.ruleResults.length
  measuredRules := d.ruleResults.countP (·.measurementStatus == .measured)
  coverageRatio := d.coverageRatio

/-- The counts stored for a result; a result without counts has its violations as
failed records. -/
def storedCounts (r : QualityRuleResult α) : RuleCounts :=
  match r.counts with
  | some counts => counts
  | none =>
    if r.violationsCount > 0 then
      { failed := r.violationsCount, totalObserved := r.violationsCount }
    else {}

/-- Without counts the stored ones are the violations. -/
theorem storedCounts_of_none {r : QualityRuleResult α} (h : r.counts = none) :
    storedCounts r = { failed := r.violationsCount, totalObserved := r.violationsCount } := by
  rw [storedCounts, h]
  dsimp only
  split
  · rfl
  · next h_zero => rw [Nat.eq_zero_of_not_pos h_zero]

/-- The source kind stored for a result. -/
def storedSourceKind (r : QualityRuleResult α) : String :=
  if r.sourceKind = "" then (if r.isAdvisory then "OUTLIER" else "RULE") else r.sourceKind

/-- The prefix of the rule ids of outlier results. -/
def outlierPrefix : String := "outlier_iqr_"

/-- The target column stored for a result. -/
def storedTargetColumn (r : QualityRuleResult α) : String :=
  match r.targetColumn with
  | some c => if c = "" then fallback else c
  | none => fallback
where
  fallback : String :=
    if outlierPrefix.toList.isPrefixOf r.ruleId.toList then
      String.ofList (r.ruleId.toList.drop outlierPrefix.length)
    else "column"

/-- The configuration hash stored for a result. -/
def storedConfigHash (sha256 : String → String) (r : QualityRuleResult α) : String :=
  match r.ruleConfigHash with
  | some h => if h = "" then fallback else h
  | none => fallback
where
  fallback : String :=
    if storedSourceKind r = "OUTLIER" then sha256 ("OUTLIER:" ++ storedTargetColumn r)
    else sha256 (r.ruleId ++ ":" ++ storedTargetColumn r ++ ":" ++ r.dimension)

/-- The row of a rule result. -/
def resultRow (rt : StoreRuntime) (a : ImmutableAssessment α) (rulesetId : Option Uuid)
    (evidence : EvidencePayload) (r : QualityRuleResult α) : ResultRow α where
  tenantId := a.tenantId
  runId := a.runId
  -- outlier results have no rule
  ruleId := if storedSourceKind r = "RULE" then Uuid.ofText r.ruleId else none
  rulesetId := if storedSourceKind r = "RULE" then rulesetId else none
  ruleConfigHash := storedConfigHash rt.sha256 r
  sourceKind := storedSourceKind r
  targetColumn := storedTargetColumn r
  dimension := rt.upper r.dimension
  measurementStatus := r.measurementStatus
  passedCount := (storedCounts r).passed
  failedCount := (storedCounts r).failed
  missingCount := (storedCounts r).missing
  miscastCount := (storedCounts r).miscast
  notApplicableCount := (storedCounts r).notApplicable
  totalObserved := (storedCounts r).totalObserved
  computedScore := r.computedScore
  isAdvisory := r.isAdvisory
  isRequired := r.isRequired
  gateEnabled := r.gateEnabled
  scoreEnabled := r.scoreEnabled
  -- empty evidence is stored as NULL
  evidencePayload := if evidence.isEmpty then none else some evidence
  violationsCount := some r.violationsCount

/-- The rows of the rule results, each with the evidence that the budget left by the
earlier ones admits. -/
def resultRows (rt : StoreRuntime) (a : ImmutableAssessment α) (rulesetId : Option Uuid)
    (usedBytes : ℕ) : List (QualityRuleResult α) → List (ResultRow α)
  | [] => []
  | r :: rs =>
    -- the budget of the assessment is used up result by result
    let evidence := rt.prepareBoundedEvidencePayload r.evidenceSamples r.errorMessage
      (min maxEvidenceBytes (maxEvidenceBytes - usedBytes))
    resultRow rt a rulesetId evidence r ::
      resultRows rt a rulesetId (usedBytes + rt.encodedSize evidence) rs

/-- Every result has its row, with some evidence. -/
theorem forall₂_resultRows (rt : StoreRuntime) (a : ImmutableAssessment α)
    (rulesetId : Option Uuid) (usedBytes : ℕ) (results : List (QualityRuleResult α)) :
    List.Forall₂ (fun r row => ∃ evidence, row = resultRow rt a rulesetId evidence r) results
      (resultRows rt a rulesetId usedBytes results) := by
  induction results generalizing usedBytes with
  | nil => exact List.Forall₂.nil
  | cons r rs ih => exact List.Forall₂.cons ⟨_, rfl⟩ (ih _)

/-- The outbox entry of an assessment. -/
def outboxEvent (a : ImmutableAssessment α) (now : Time) : OutboxEvent α where
  tenantId := a.tenantId
  assessmentId := a.assessmentId
  runId := a.runId
  dqScore := a.dqScore
  publicationStatus := a.publicationStatus
  qualityGate := a.qualityGate
  assessmentHash := a.assessmentHash
  createdAt := now

/-- The run event of a stored assessment. -/
def succeededEvent (a : ImmutableAssessment α) (attemptCount leaseGeneration : ℕ) (now : Time) :
    RunEvent where
  tenantId := a.tenantId
  runId := a.runId
  eventType := "RUN_SUCCEEDED"
  attemptCount := attemptCount
  leaseGeneration := some leaseGeneration
  eventPayload := [("assessment_id", a.assessmentId.str)]
  createdAt := now

/-! ### Saving -/

section Save

variable [Field α] [LinearOrder α]

/-- Persist an assessment, its dimensions and rule results and advance its run, in one
transaction. -/
def saveAssessmentAtomic (rt : StoreRuntime) (catalog : Catalog) (db : Database α)
    (a : ImmutableAssessment α) (ruleResults : List (QualityRuleResult α))
    (leaseGeneration : ℕ) : Except DbError (Database α) := do
  -- 1. lease fencing check and run status advancement
  let owned := RunRow.ownedBy a.runId leaseGeneration db.now
  if db.runs.rowCount owned = 0 then
    throw (.leaseFencing ("Lease fencing error: attempt gen " ++ toString leaseGeneration
      ++ " failed for run " ++ a.runId.str))
  let db := { db with runs := db.runs.updateWhere owned (RunRow.succeed db.now) fun _ => rfl }
  let run := db.runs.find? a.runId
  -- 2. the immutable assessment
  let hashes := match run with
    | some run => configHashes catalog run
    | none => [("assessment_hash", a.assessmentHash)]
  let db ← db.insertAssessment catalog (assessmentRow hashes a)
  -- 3. dimension results
  let db ← a.dimensionResults.foldlM (fun db d => db.insertDimension (dimensionRow rt.upper a d)) db
  -- 4. canonical quality results
  let db ← (resultRows rt a (run.map (·.rulesetId)) 0 ruleResults).foldlM
    (fun db row => db.insertResult catalog rt.storedSize row) db
  -- 5. and 6. outbox and run event
  let db := { db with outbox := db.outbox ++ [outboxEvent a db.now] }
  return db.insertEvent
    (succeededEvent a ((run.map (·.attemptCount)).getD 1) leaseGeneration db.now)

end Save

/-! ### What a save does -/

/-- An owned run is the run that was asked for. -/
theorem ownedBy_runId {runId : Uuid} {leaseGeneration : ℕ} {now : Time} {run : RunRow}
    (h : run.ownedBy runId leaseGeneration now = true) : run.runId = runId := by
  simp only [RunRow.ownedBy, Bool.and_eq_true, decide_eq_true_eq] at h
  exact h.1.1.1

section SaveSpec

variable [Field α] [LinearOrder α]

/-- What an inserted assessment has passed. -/
theorem insertAssessment_ok {catalog : Catalog} {db db' : Database α} {row : AssessmentRow α}
    (h : db.insertAssessment catalog row = .ok db') :
    row.passesChecks = true ∧ (∀ a ∈ db.assessments.rows, a.runId ≠ row.runId) ∧
      ∃ assessments, db.assessments.insert row = some assessments ∧
        db' = { db with assessments } := by
  unfold Database.insertAssessment at h
  split at h
  · cases h
  next h_checks =>
  split at h
  · cases h
  split at h
  · cases h
  next h_unique =>
  split at h
  · next assessments h_insert =>
    refine ⟨by simpa using h_checks, ?_, assessments, h_insert, (Except.ok.inj h).symm⟩
    simpa using h_unique
  · cases h

/-- An inserted dimension is a new row. -/
theorem insertDimension_ok {db db' : Database α} {row : DimensionRow α}
    (h : db.insertDimension row = .ok db') :
    db' = { db with dimensionResults := db.dimensionResults ++ [row] } ∧
      row.passesChecks = true := by
  unfold Database.insertDimension at h
  split at h
  · cases h
  next h_checks =>
  split at h
  · cases h
  exact ⟨(Except.ok.inj h).symm, by simpa using h_checks⟩

/-- An inserted result is a new row. -/
theorem insertResult_ok {catalog : Catalog} {storedSize : EvidencePayload → ℕ}
    {db db' : Database α} {row : ResultRow α}
    (h : db.insertResult catalog storedSize row = .ok db') :
    db' = { db with qualityResults := db.qualityResults ++ [row] } ∧
      row.passesChecks storedSize = true := by
  unfold Database.insertResult at h
  split at h
  · cases h
  split at h
  · cases h
  next h_checks =>
  split at h
  · cases h
  exact ⟨(Except.ok.inj h).symm, by simpa using h_checks⟩

/-- The dimensions are inserted one after the other. -/
theorem insertDimensions_ok {β : Type} (f : β → DimensionRow α) {l : List β}
    {db db' : Database α}
    (h : l.foldlM (fun db d => db.insertDimension (f d)) db = .ok db') :
    db' = { db with dimensionResults := db.dimensionResults ++ l.map f } := by
  refine foldlM_rule (R := fun db l db' =>
    db' = { db with dimensionResults := db.dimensionResults ++ l.map f }) ?_ ?_ h
  · intro db
    rw [List.map_nil, List.append_nil]
  · rintro db d db₁ l db' h_step rfl
    obtain ⟨rfl, -⟩ := insertDimension_ok h_step
    rw [List.map_cons, List.append_assoc, List.singleton_append]

/-- The results are inserted one after the other. -/
theorem insertResults_ok {catalog : Catalog} {storedSize : EvidencePayload → ℕ}
    {rows : List (ResultRow α)} {db db' : Database α}
    (h : rows.foldlM (fun db row => db.insertResult catalog storedSize row) db = .ok db') :
    db' = { db with qualityResults := db.qualityResults ++ rows } ∧
      ∀ row ∈ rows, row.passesChecks storedSize = true := by
  refine foldlM_rule (R := fun db rows db' =>
    db' = { db with qualityResults := db.qualityResults ++ rows } ∧
      ∀ row ∈ rows, row.passesChecks storedSize = true) ?_ ?_ h
  · intro db
    refine ⟨by rw [List.append_nil], fun row h_row => ?_⟩
    cases h_row
  · rintro db row db₁ rows db' h_step ⟨rfl, h_rows⟩
    obtain ⟨rfl, h_row⟩ := insertResult_ok h_step
    refine ⟨by rw [List.append_assoc, List.singleton_append], ?_⟩
    exact List.forall_mem_cons.mpr ⟨h_row, h_rows⟩

/-- What a save that succeeds has found and done. -/
structure Saved (rt : StoreRuntime) (catalog : Catalog) (db : Database α)
    (a : ImmutableAssessment α) (ruleResults : List (QualityRuleResult α))
    (leaseGeneration : ℕ) (run : RunRow) (db' : Database α) : Prop where
  found : db.runs.find? a.runId = some run
  owned : run.ownedBy a.runId leaseGeneration db.now = true
  runs : ∀ k, db'.runs.find? k =
    if k = a.runId then some (run.succeed db.now) else db.runs.find? k
  assessments : db.assessments.insert (assessmentRow (configHashes catalog run) a) =
    some db'.assessments
  unique : ∀ row ∈ db.assessments.rows, row.runId ≠ a.runId
  dimensions : db'.dimensionResults =
    db.dimensionResults ++ a.dimensionResults.map (dimensionRow rt.upper a)
  results : db'.qualityResults =
    db.qualityResults ++ resultRows rt a (some run.rulesetId) 0 ruleResults
  results_checked : ∀ row ∈ resultRows rt a (some run.rulesetId) 0 ruleResults,
    row.passesChecks rt.storedSize = true
  events : db'.runEvents =
    db.runEvents ++ [succeededEvent a run.attemptCount leaseGeneration db.now]
  now : db'.now = db.now

/-- **Specification of a save.** -/
theorem saveAssessmentAtomic_ok {rt : StoreRuntime} {catalog : Catalog} {db db' : Database α}
    {a : ImmutableAssessment α} {ruleResults : List (QualityRuleResult α)} {leaseGeneration : ℕ}
    (h : saveAssessmentAtomic rt catalog db a ruleResults leaseGeneration = .ok db') :
    ∃ run, Saved rt catalog db a ruleResults leaseGeneration run db' := by
  unfold saveAssessmentAtomic at h
  -- the run must still be owned under the generation
  by_cases h_count : db.runs.rowCount (RunRow.ownedBy a.runId leaseGeneration db.now) = 0
  · rw [if_pos h_count] at h
    cases h
  rw [if_neg h_count] at h
  -- the update has selected the row of the run, which the later statements read
  obtain ⟨run, h_found, h_owned⟩ :=
    Table.exists_of_rowCount_ne_zero (fun _ => ownedBy_runId) h_count
  have h_runs := Table.find?_updateWhere_of_key (f := RunRow.succeed db.now) (fun _ => rfl)
    (fun _ => ownedBy_runId) h_found h_owned
  generalize db.runs.updateWhere (RunRow.ownedBy a.runId leaseGeneration db.now)
    (RunRow.succeed db.now) (fun _ => rfl) = runs at h h_runs
  have h_run : runs.find? a.runId = some (run.succeed db.now) := by
    rw [h_runs, if_pos rfl]
  simp only [h_run, Option.map_some, Option.getD_some, bind, Except.bind] at h
  -- the three kinds of insertions, one after the other
  split at h
  · cases h
  next db₁ h_assessment =>
  obtain ⟨-, h_unique, assessments, h_insert, rfl⟩ := insertAssessment_ok h_assessment
  split at h
  · cases h
  next db₂ h_dims =>
  obtain rfl := insertDimensions_ok (dimensionRow rt.upper a) h_dims
  split at h
  · cases h
  next db₃ h_results =>
  obtain ⟨rfl, h_checked⟩ := insertResults_ok h_results
  obtain rfl := Except.ok.inj h
  exact ⟨run, {
    found := h_found
    owned := h_owned
    runs := h_runs
    assessments := h_insert
    unique := h_unique
    dimensions := rfl
    results := rfl
    results_checked := h_checked
    events := rfl
    now := rfl }⟩

end SaveSpec

/-! ### Reading -/

/-- The row of an assessment id, for a tenant if one is given. -/
def Database.findAssessment (db : Database α) (assessmentId : Uuid) (tenantId : Option Uuid) :
    Option (AssessmentRow α) :=
  (db.assessments.find? assessmentId).filter fun row => tenantId.all (· = row.tenantId)

section Read

variable [One α]

/-- The rule result of a row. The fields that have no column get their defaults. -/
def readResult (row : ResultRow α) : QualityRuleResult α where
  ruleId :=
    match row.ruleId with
    | some id => id.str
    | none =>
      if row.sourceKind = "OUTLIER" ∧ row.targetColumn ≠ "" then
        outlierPrefix ++ row.targetColumn
      else "unknown"
  dimension := row.dimension
  measurementStatus := row.measurementStatus
  counts := some {
    passed := row.passedCount.toNat
    failed := row.failedCount.toNat
    missing := row.missingCount.toNat
    miscast := row.miscastCount.toNat
    notApplicable := row.notApplicableCount.toNat
    totalObserved := row.totalObserved.toNat }
  computedScore := row.computedScore
  isAdvisory := row.isAdvisory
  isRequired := row.isRequired
  gateEnabled := row.gateEnabled
  scoreEnabled := row.scoreEnabled
  contributionWeight := 1
  -- the payload has no entry for the violations, so that they are recomputed
  violationsCount := (row.failedCount + row.miscastCount).toNat
  sourceKind := if row.sourceKind = "" then "RULE" else row.sourceKind
  targetColumn := some row.targetColumn
  evidenceSamples := row.evidencePayload.bind (·.evidenceSamples)
  errorMessage := row.evidencePayload.bind (·.errorMessage)
  ruleConfigHash := some row.ruleConfigHash

/-- The rule results of an assessment. -/
def getRuleResults (scan : Scan) (db : Database α) (assessmentId : Uuid)
    (tenantId : Option Uuid) : List (QualityRuleResult α) :=
  match db.findAssessment assessmentId tenantId with
  | none => []
  | some a => (scan.order (db.qualityResults.filter (·.runId = a.runId))).map readResult

/-- The dimension result of a row; its coverage is the coverage of the assessment. -/
def readDimension (upper : String → String) (coverageRatio : Option α)
    (ruleResults : List (QualityRuleResult α)) (row : DimensionRow α) : DimensionResult α where
  dimension := row.dimension
  dimensionScore := row.dimensionScore
  coverageRatio := coverageRatio
  ruleResults := ruleResults.filter fun r => upper r.dimension = upper row.dimension
  dimensionWeight := row.dimensionWeight

/-- The assessment of an id with its dimensions. -/
def getAssessment (upper : String → String) (scan : Scan) (db : Database α)
    (assessmentId : Uuid) (tenantId : Option Uuid) : Option (ImmutableAssessment α) :=
  (db.findAssessment assessmentId tenantId).map fun row => {
    assessmentId := row.assessmentId
    tenantId := row.tenantId
    runId := row.runId
    snapshotId := row.snapshotId
    dqScore := row.dqScore
    publicationStatus := row.publicationStatus
    coverageRatio := row.coverageRatio
    qualityGate := row.qualityGate
    -- the rows come in the order of the scan
    dimensionResults :=
      (scan.order (db.dimensionResults.filter (·.assessmentId = assessmentId))).map
        (readDimension upper row.coverageRatio
          (getRuleResults scan db row.assessmentId (some row.tenantId)))
    assessmentHash := row.assessmentHash
    createdAt := row.publishedAt
    confidenceStatus :=
      -- an empty status reads as not applicable
      if row.confidenceStatus = "" then "NOT_APPLICABLE" else row.confidenceStatus }

end Read

end DqScoring
