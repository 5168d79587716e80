import DqScoring.Privacy.ProtectionService

/-!
# Privacy scan jobs

`services/privacy_scan_service.py` and the transactions of
`workers/privacy_scan_worker.py`. A worker claims a job, reads its snapshot, scans the
canonical Parquet with no transaction open, and then publishes or fails the job, fenced by
its lease. What the scan found, and whether it raised, are parameters of these requests.

The statement that claims a job skips the rows that others have locked, so which candidate it
takes depends on them: a request names the row, and checks it once it is locked.
-/

namespace DqScoring

open Framework

/-- `MAX_ATTEMPTS`. -/
def maxScanAttempts : ℕ := 3

/-- The fixed error codes of a scan. -/
inductive ScanErrorCode where
  | ruleInvalid | reimportRequired | objectChanged | storageUnavailable | limitExceeded | scanFailed
  deriving DecidableEq, Repr

namespace ScanErrorCode

/-- The text of an error code. -/
def text : ScanErrorCode → String
  | ruleInvalid => "PRIVACY_RULE_INVALID"
  | reimportRequired => "SNAPSHOT_REIMPORT_REQUIRED"
  | objectChanged => "OBJECT_CHANGED"
  | storageUnavailable => "STORAGE_UNAVAILABLE"
  | limitExceeded => "PRIVACY_SCAN_LIMIT_EXCEEDED"
  | scanFailed => "PRIVACY_SCAN_FAILED"

/-- `_TRANSIENT_CODES`. -/
def isTransient (code : ScanErrorCode) : Bool :=
  decide (code = storageUnavailable) || decide (code = scanFailed)

end ScanErrorCode

/-- `CreatePrivacyScan`: every rule, or a preview of one revision. -/
inductive ScanSelection where
  | apply
  | preview (ruleId : RuleId) (revision : ℕ)

namespace ScanSelection

/-- The purpose of the scan. -/
def purpose : ScanSelection → ScanPurpose
  | apply => .apply
  | preview _ _ => .preview

/-- The rules of a job are not those of the selection. -/
def conflictsWith (pinned : List PrivacyDetectorRule) : ScanSelection → Bool
  | apply => false
  | preview ruleId revision =>
    !pinned.any fun r => decide (r.ruleId = ruleId) && decide (r.revision = revision)

end ScanSelection

/-- A job as `claim_next_job` returns it. -/
structure ScanClaim where
  scanId : Uuid
  snapshotId : Uuid
  purpose : ScanPurpose
  pinnedRules : List PrivacyDetectorRule
  configVersion : ℕ
  leaseGeneration : ℕ
  attemptCount : ℕ
  deriving DecidableEq

/-! ### The row of a job -/

namespace PrivacyScanJob

/-- `state = 'QUEUED' OR (state = 'RUNNING' AND lease_expires_at < now())`. -/
def isClaimable (now : Time) (job : PrivacyScanJob) : Bool :=
  decide (job.state = .queued)
    || (decide (job.state = .running) && job.leaseExpiresAt.any fun t => decide (t < now))

/-- The lease of a worker is in force. -/
def isFenced (workerId : String) (generation : ℕ) (now : Time) (job : PrivacyScanJob) : Bool :=
  decide (job.state = .running) && decide (job.leaseOwner = some workerId)
    && decide (job.leaseGeneration = generation)
    && job.leaseExpiresAt.any fun t => decide (now ≤ t)

/-- The job after a claim. -/
def claim (workerId : String) (expiresAt : Time) (job : PrivacyScanJob) : PrivacyScanJob :=
  { job with
    state := .running, leaseOwner := some workerId, leaseGeneration := job.leaseGeneration + 1,
    attemptCount := job.attemptCount + 1, leaseExpiresAt := some expiresAt }

/-- The job after a heartbeat. -/
def extend (expiresAt : Time) (job : PrivacyScanJob) : PrivacyScanJob :=
  { job with leaseExpiresAt := some expiresAt }

/-- The job after its publication. -/
def complete (job : PrivacyScanJob) : PrivacyScanJob :=
  { job with state := .complete, leaseOwner := none, leaseExpiresAt := none, errorCode := none }

/-- The job after a transient failure. -/
def requeue (job : PrivacyScanJob) : PrivacyScanJob :=
  { job with state := .queued, leaseOwner := none, leaseExpiresAt := none }

/-- The job after its failure. -/
def fail (code : ScanErrorCode) (job : PrivacyScanJob) : PrivacyScanJob :=
  { job with
    state := .failed, errorCode := some code.text, leaseOwner := none, leaseExpiresAt := none }

theorem claim_scanId (workerId : String) (expiresAt : Time) (job : PrivacyScanJob) :
    (job.claim workerId expiresAt).scanId = job.scanId := rfl

theorem extend_scanId (expiresAt : Time) (job : PrivacyScanJob) :
    (job.extend expiresAt).scanId = job.scanId := rfl

theorem complete_scanId (job : PrivacyScanJob) : job.complete.scanId = job.scanId := rfl

theorem requeue_scanId (job : PrivacyScanJob) : job.requeue.scanId = job.scanId := rfl

theorem fail_scanId (code : ScanErrorCode) (job : PrivacyScanJob) :
    (job.fail code).scanId = job.scanId := rfl

/-- What a worker keeps of the job it claims. -/
def toClaim (job : PrivacyScanJob) : ScanClaim where
  scanId := job.scanId
  snapshotId := job.snapshotId
  purpose := job.purpose
  pinnedRules := job.pinnedRules
  configVersion := job.configVersion
  leaseGeneration := job.leaseGeneration
  attemptCount := job.attemptCount

end PrivacyScanJob

/-! ### Statements -/

namespace Workspace

/-- `INSERT INTO privacy_scan_jobs`: refused by `uq_privacy_scan_jobs_active`. -/
def insertJob (job : PrivacyScanJob) (db : Workspace) : Option Workspace := do
  let rows ← db.jobs.insert job
  if rows.HasUniqueIndex activeJobKey then return { db with jobs := rows } else none

/-- UPDATE a job; no update here adds a row to the index of active jobs. -/
def updateJob (scanId : Uuid) (f : PrivacyScanJob → PrivacyScanJob)
    (hf : ∀ j, (f j).scanId = j.scanId) (db : Workspace) : Workspace :=
  { db with jobs := db.jobs.update scanId f hf }

/-- The key of a finding in the index `uq_findings_detector`. -/
def detectorKey (f : SensitiveDataFinding) :
    Option (Uuid × String × String × String × String) :=
  if f.scanId = none then
    some (f.snapshotId, f.findingId.columnName, f.findingId.path, f.findingId.detectorCode,
      f.findingId.detectorRevision)
  else none

/-- `INSERT INTO sensitive_data_findings`. -/
def insertFinding (db : Workspace) (f : SensitiveDataFinding) : Option Workspace := do
  let rows ← db.findings.insert f
  if rows.HasUniqueIndex scanRuleKey ∧ rows.HasUniqueIndex detectorKey then
    return { db with findings := rows }
  else none

/-- INSERT some findings. -/
def insertFindings (findings : List SensitiveDataFinding) (db : Workspace) : Option Workspace :=
  findings.foldlM insertFinding db

/-- The active job of a snapshot for a purpose. -/
def activeJob (db : Workspace) (snapshotId : Uuid) (purpose : ScanPurpose) :
    Option PrivacyScanJob :=
  db.jobs.rows.find? fun j => decide (j.snapshotId = snapshotId) && decide (j.purpose = purpose)
    && j.state.isActive

/-- The decisions on the findings of a scan. -/
def decisions (db : Workspace) (scanId : Uuid) : List SensitiveDataFinding :=
  db.findings.rows.filter fun f => decide (f.scanId = some scanId)
    && (decide (f.status = .confirmed) || decide (f.status = .dismissed)) && f.ruleId.isSome

end Workspace

/-! ### Submission -/

/-- What `create_scan` returns: the active job that there is, or the new one. -/
inductive ScanSubmission where
  | inProgress (job : PrivacyScanJob)
  | queued (job : PrivacyScanJob)
  deriving DecidableEq

/-- `get_scan`. -/
def getScan (scanId : Uuid) : WorkspaceTxn PrivacyScanJob := do
  match ← .select fun db => db.jobs.find? scanId with
  | none => .raise ⟨404, "RESOURCE_NOT_FOUND"⟩
  | some job => return job

/-- The pin of the selected rules: a preview scans for its revision as if it was enabled. -/
def pinSelection (pin : PinnedPrivacyRules) : ScanSelection → WorkspaceTxn PinnedPrivacyRules
  | .apply => pure pin
  | .preview ruleId revision => do
    match ← .select fun db => db.rules.find? fun r =>
        decide (r.ruleId = ruleId) && decide (r.revision = revision) with
    | none => .raise ⟨404, "RESOURCE_NOT_FOUND"⟩
    | some rule => return ⟨[{ rule with enabled := true }], pin.configVersion⟩

/-- The row of a new job. -/
def queuedJob (scanId snapshotId : Uuid) (purpose : ScanPurpose) (pin : PinnedPrivacyRules)
    (now : Time) : PrivacyScanJob where
  scanId := scanId
  snapshotId := snapshotId
  purpose := purpose
  pinnedRules := pin.rules
  configVersion := pin.configVersion
  createdAt := now

/-- An APPLY scan changes the protection of its asset. -/
def whenApply (purpose : ScanPurpose) (change : WorkspaceTxn Unit) : WorkspaceTxn Unit :=
  if purpose = .apply then change else return ()

/-- INSERT a job. -/
def queueScan (job : PrivacyScanJob) (assetId : Uuid) : WorkspaceTxn ScanSubmission := do
  .exec (Workspace.insertJob job)
  whenApply job.purpose (bumpRevision assetId)
  let row ← getScan job.scanId
  return .queued row

/-- `create_scan`; the identifier of a new job is that of `uuid4()`. -/
def createScan (snapshotId : Uuid) (selection : ScanSelection) (scanId : Uuid) (now : Time) :
    WorkspaceTxn ScanSubmission := do
  match ← .select fun db => db.snapshots.find? snapshotId with
  | none => .raise ⟨404, "RESOURCE_NOT_FOUND"⟩
  | some snapshot =>
    -- the asset is locked, then its version
    .forUpdate (.asset snapshot.assetId)
    let _version ← lockRevision snapshot.assetId
    match ← .select fun db => db.activeJob snapshotId selection.purpose with
    | some existing =>
      -- the same rules are answered, others refused
      if selection.conflictsWith existing.pinnedRules then
        .raise ⟨409, "PRIVACY_SCAN_IN_PROGRESS"⟩
      else do
        let row ← getScan existing.scanId
        return .inProgress row
    | none =>
      -- the rules are pinned as they are now
      ensureInitialized
      let pin ← loadPinnedRules
      let pin ← pinSelection pin selection
      queueScan (queuedJob scanId snapshotId selection.purpose pin now) snapshot.assetId

/-! ### The worker -/

/-- `claim_next_job`, for the candidate it takes. -/
def claimNextJob (workerId : String) (scanId : Uuid) (now leaseSeconds : Time) :
    WorkspaceTxn (Option ScanClaim) := do
  .forUpdate (.job scanId)
  -- the candidate is read again under its lock
  match ← .select fun db => (db.jobs.find? scanId).filter (PrivacyScanJob.isClaimable now) with
  | none => return none
  | some job =>
    .exec fun db => some (db.updateJob scanId (PrivacyScanJob.claim workerId (now + leaseSeconds))
      (PrivacyScanJob.claim_scanId workerId (now + leaseSeconds)))
    return some (job.claim workerId (now + leaseSeconds)).toClaim

/-- UPDATE a job while the lease of a worker is in force, and say whether it was. -/
def updateFenced (workerId : String) (scanId : Uuid) (generation : ℕ) (now : Time)
    (f : PrivacyScanJob → PrivacyScanJob) (hf : ∀ j, (f j).scanId = j.scanId) :
    WorkspaceTxn Bool := do
  .forUpdate (.job scanId)
  let isFenced ← .select fun db =>
    -- the guard of the UPDATE
    (db.jobs.find? scanId).any (PrivacyScanJob.isFenced workerId generation now)
  if isFenced then
    .exec fun db => some (db.updateJob scanId f hf)
    return true
  else return false

/-- `heartbeat`. -/
def scanHeartbeat (workerId : String) (scanId : Uuid) (generation : ℕ) (now leaseSeconds : Time) :
    WorkspaceTxn Bool :=
  updateFenced workerId scanId generation now (PrivacyScanJob.extend (now + leaseSeconds))
    (PrivacyScanJob.extend_scanId (now + leaseSeconds))

/-- The first transaction of `process_job`: the snapshot to scan. -/
def loadSnapshot (claim : ScanClaim) : WorkspaceTxn (Option DatasetSnapshot) :=
  .select fun db => db.snapshots.find? claim.snapshotId

/-- `_lock_fenced`. -/
def lockFenced (workerId : String) (claim : ScanClaim) (now : Time) :
    WorkspaceTxn (Option Uuid) := do
  match ← .select fun db => db.snapshots.find? claim.snapshotId with
  | none => return none
  | some snapshot =>
    -- in the order of every writer: asset, version, job
    .forUpdate (.asset snapshot.assetId)
    let _version ← lockRevision snapshot.assetId
    .forUpdate (.job claim.scanId)
    let isFenced ← .select fun db => (db.jobs.find? claim.scanId).any
      (PrivacyScanJob.isFenced workerId claim.leaseGeneration now)
    if isFenced then return some snapshot.assetId else return none

/-- A decision is on the same rule, column and path. -/
def isDecisionOn (f : ScanFinding) (d : SensitiveDataFinding) : Bool :=
  f.ruleId.isSome && decide (d.ruleId = f.ruleId) && decide (d.ruleRevision = f.ruleRevision)
    && decide (d.findingId.columnName = f.columnName) && decide (d.findingId.path = f.path)

/-- The row of a finding, with the decision on it in the previous scan. -/
def findingRow (scopeId snapshotId : Uuid) (scanId : Option Uuid)
    (decision : Option SensitiveDataFinding) (f : ScanFinding) : SensitiveDataFinding where
  -- one finding per column, path and detector of a scan
  findingId := ⟨scopeId, f.columnName, f.path, f.detectorCode, f.detectorRevision⟩
  snapshotId := snapshotId
  scanId := scanId
  category := f.category
  -- a decision of an earlier snapshot is taken over
  status := (decision.map SensitiveDataFinding.status).getD .detected
  matchedCount := f.matchedCount
  observedCount := f.observedCount
  method := f.method
  ruleId := f.ruleId
  ruleRevision := f.ruleRevision
  reviewReason := decision.bind SensitiveDataFinding.reviewReason
  reviewedBy := decision.bind SensitiveDataFinding.reviewedBy

/-- The findings of a job, with the decisions of the previous scan. -/
def scanFindingRows (claim : ScanClaim) (decisions : List SensitiveDataFinding)
    (findings : List ScanFinding) : List SensitiveDataFinding :=
  findings.map fun f => findingRow claim.scanId claim.snapshotId (some claim.scanId)
    (decisions.reverse.find? (isDecisionOn f)) f

/-- The decisions of the previous complete scan. -/
def previousDecisions (claim : ScanClaim) : WorkspaceTxn (List SensitiveDataFinding) := do
  match ← .select fun db => db.latestJob claim.snapshotId fun j =>
      decide (j.purpose = .apply) && decide (j.state = .complete)
        && decide (j.scanId ≠ claim.scanId) with
  | none => return []
  | some previous => .select fun db => db.decisions previous.scanId

/-- `_write_findings`. -/
def writeFindings (claim : ScanClaim) (assetId : Uuid) (findings : List ScanFinding) :
    WorkspaceTxn Unit := do
  let decisions ← previousDecisions claim
  .exec (Workspace.insertFindings (scanFindingRows claim decisions findings))
  bumpRevision assetId

/-- `_publish`. -/
def publish (workerId : String) (claim : ScanClaim) (findings : List ScanFinding) (now : Time) :
    WorkspaceTxn Bool := do
  -- nothing is written without the lease
  match ← lockFenced workerId claim now with
  | none => return false
  | some assetId =>
    whenApply claim.purpose (writeFindings claim assetId findings)
    .exec fun db => some (db.updateJob claim.scanId PrivacyScanJob.complete
      PrivacyScanJob.complete_scanId)
    return true

/-- The failure puts the job back into the queue. -/
def requeues (claim : ScanClaim) (code : ScanErrorCode) : Bool :=
  code.isTransient && decide (claim.attemptCount < maxScanAttempts)

/-- `_fail`. -/
def failScan (workerId : String) (claim : ScanClaim) (code : ScanErrorCode) (now : Time) :
    WorkspaceTxn Bool :=
  if requeues claim code then
    updateFenced workerId claim.scanId claim.leaseGeneration now PrivacyScanJob.requeue
      PrivacyScanJob.requeue_scanId
  else
    updateFenced workerId claim.scanId claim.leaseGeneration now (PrivacyScanJob.fail code)
      (PrivacyScanJob.fail_scanId code)

end DqScoring
