import DqScoring.Common.PrivacyRules
import DqScoring.Core.Entities
import DqScoring.Framework.Table

/-!
# The workspace of a tenant

The tables of datasets, imports and privacy for one tenant: row-level security and the
`tenant_id` condition of every statement keep tenants apart. Columns that no modelled
statement reads are left out, among them the stored previews and profiles, the digests of
rules and the audit events, which are written and never read.
-/

namespace DqScoring

open Framework

/-! ### Imports -/

/-- A stored file format. -/
inductive FileFormat where
  | csv | parquet | jsonl
  deriving DecidableEq, Repr

/-- The status of an upload session. -/
inductive SessionStatus where
  | initiated | uploading | staged | verifying | verified | rejected | failed | aborted | registered
  deriving DecidableEq, Repr

/-- The text of a status. -/
def SessionStatus.text : SessionStatus → String
  | initiated => "INITIATED"
  | uploading => "UPLOADING"
  | staged => "STAGED"
  | verifying => "VERIFYING"
  | verified => "VERIFIED"
  | rejected => "REJECTED"
  | failed => "FAILED"
  | aborted => "ABORTED"
  | registered => "REGISTERED"

/-- A version of a stored object. -/
structure StoredObject where
  bucket : String
  key : String
  versionId : String
  contentSha256 : String
  sizeBytes : ℕ
  deriving DecidableEq

/-- `source_descriptor`: the raw object and its canonical Parquet. -/
structure SourceDescriptor where
  raw : StoredObject
  format : FileFormat
  canonical : StoredObject
  deriving DecidableEq

/-- A column of a schema; `structural_encoding` is JSON or absent. -/
structure ColumnDefinition where
  name : String
  structured : Bool := false
  deriving DecidableEq

/-- A finding of a scan; a builtin detector without a rule has no rule identity. -/
structure ScanFinding where
  columnName : String
  path : String
  category : SensitiveCategory
  detectorCode : String
  detectorRevision : String
  matchedCount : ℕ
  observedCount : ℕ
  method : DetectionMethod
  ruleId : Option RuleId
  ruleRevision : Option ℕ
  deriving DecidableEq

/-- `sensitive_scan` of a manifest. -/
structure SensitiveScan where
  status : String
  findings : List ScanFinding
  sensitiveColumns : List String
  configVersion : Option ℕ := none
  deriving DecidableEq

/-- A recorded part of an upload. -/
structure UploadPart where
  partNumber : ℕ
  etag : String
  sha256 : String
  sizeBytes : ℕ
  deriving DecidableEq

/-- `manifest` of a session or a snapshot; a key that is absent or null is `none`, or empty. -/
structure Manifest where
  requestFingerprint : Option String := none
  parts : List UploadPart := []
  sourceDescriptor : Option SourceDescriptor := none
  columns : Option (List ColumnDefinition) := none
  exactRowCount : Option ℕ := none
  warnings : List String := []
  sensitiveScan : Option SensitiveScan := none
  privacyRules : List PrivacyDetectorRule := []
  privacyConfigVersion : Option ℕ := none
  policyVersion : Option ℕ := none
  errorCode : Option String := none
  columnNamesMapping : Option (List String) := none
  parentSnapshotId : Option Uuid := none
  deriving DecidableEq

/-- A row of `dataset_upload_sessions`. -/
structure UploadSession where
  uploadId : Uuid
  createdBy : Uuid
  clientRequestId : Uuid
  assetId : Option Uuid
  assetName : Option String
  format : FileFormat
  sizeBytes : ℕ
  multipartId : Option String
  status : SessionStatus
  expiresAt : Option Time
  manifest : Manifest
  errorReason : Option String := none
  leaseOwner : Option String := none
  leaseGeneration : ℕ := 0
  leaseExpiresAt : Option Time := none
  attemptCount : ℕ := 0
  registeredSnapshotId : Option Uuid := none
  deriving DecidableEq

/-! ### Assets -/

/-- A row of `data_assets`. -/
structure DataAsset where
  assetId : Uuid
  assetName : String
  slug : String
  format : FileFormat
  currentSnapshotId : Option Uuid := none
  versionCount : ℕ := 0
  deriving DecidableEq

/-- Where the data of a snapshot came from. -/
inductive SourceKind where
  | localFile | objectFile
  deriving DecidableEq, Repr

/-- A row of `dataset_snapshots`, which never changes. -/
structure DatasetSnapshot where
  snapshotId : Uuid
  assetId : Uuid
  versionNumber : ℕ
  parentSnapshotId : Option Uuid := none
  sourceKind : SourceKind
  sourceDescriptor : SourceDescriptor
  contentSha256 : String
  columns : List ColumnDefinition
  totalRows : ℕ
  manifest : Manifest
  deriving DecidableEq

/-! ### Privacy -/

/-- What a scan is for. -/
inductive ScanPurpose where
  | apply | preview
  deriving DecidableEq, Repr

/-- The state of a scan job. -/
inductive JobState where
  | queued | running | complete | failed
  deriving DecidableEq, Repr

/-- The text of a state. -/
def JobState.text : JobState → String
  | queued => "QUEUED"
  | running => "RUNNING"
  | complete => "COMPLETE"
  | failed => "FAILED"

/-- The job is in the index of active jobs. -/
def JobState.isActive : JobState → Bool
  | queued => true
  | running => true
  | complete => false
  | failed => false

/-- A row of `privacy_scan_jobs`. -/
structure PrivacyScanJob where
  scanId : Uuid
  snapshotId : Uuid
  purpose : ScanPurpose
  state : JobState := .queued
  pinnedRules : List PrivacyDetectorRule
  configVersion : ℕ
  createdAt : Time
  leaseOwner : Option String := none
  leaseGeneration : ℕ := 0
  leaseExpiresAt : Option Time := none
  attemptCount : ℕ := 0
  errorCode : Option String := none
  deriving DecidableEq

/-- The status of a finding. -/
inductive FindingStatus where
  | detected | confirmed | dismissed
  deriving DecidableEq, Repr

/-- `generate_finding_id`: what the version-5 UUID of a finding is made of. -/
structure FindingId where
  /-- The scan, or the snapshot of an import without a scan. -/
  scopeId : Uuid
  columnName : String
  path : String
  detectorCode : String
  detectorRevision : String
  deriving DecidableEq

/-- A row of `sensitive_data_findings`. -/
structure SensitiveDataFinding where
  findingId : FindingId
  snapshotId : Uuid
  scanId : Option Uuid
  category : SensitiveCategory
  status : FindingStatus
  matchedCount : ℕ
  observedCount : ℕ
  method : DetectionMethod
  ruleId : Option RuleId
  ruleRevision : Option ℕ
  reviewReason : Option String := none
  reviewedBy : Option Uuid := none
  deriving DecidableEq

/-- A row of `asset_protection_revisions`. -/
structure ProtectionRevision where
  assetId : Uuid
  version : ℕ
  deriving DecidableEq

/-- The declared category of a column. -/
inductive DataCategory where
  | standardData
  | sensitive (category : SensitiveCategory)
  deriving DecidableEq, Repr

/-- A row of `asset_column_classifications`. -/
structure ColumnClassification where
  assetId : Uuid
  columnName : String
  category : DataCategory
  updatedBy : Uuid
  reason : String
  deriving DecidableEq

/-- The primary key of a classification. -/
def ColumnClassification.key (c : ColumnClassification) : Uuid × String := (c.assetId, c.columnName)

/-- A row of `data_protection_policies` with the strategy FULL_MASK, or another one. -/
structure DataProtectionPolicy where
  assetId : Uuid
  targetCategory : SensitiveCategory
  userRole : String
  fullMask : Bool
  deriving DecidableEq

/-- The unique key of a policy. -/
def DataProtectionPolicy.key (p : DataProtectionPolicy) : Uuid × SensitiveCategory × String :=
  (p.assetId, p.targetCategory, p.userRole)

/-! ### The workspace -/

/-- The tables of a tenant. `configVersion` is its row of `privacy_detector_configs`. -/
structure Workspace where
  sessions : Table UploadSession.uploadId
  assets : Table DataAsset.assetId
  snapshots : Table DatasetSnapshot.snapshotId
  jobs : Table PrivacyScanJob.scanId
  findings : Table SensitiveDataFinding.findingId
  revisions : Table ProtectionRevision.assetId
  classifications : Table ColumnClassification.key
  policies : Table DataProtectionPolicy.key
  configVersion : Option ℕ
  rules : List PrivacyDetectorRule

/-- A row lock, or an advisory one. -/
inductive RowLock where
  | session (uploadId : Uuid)
  | asset (assetId : Uuid)
  /-- The name of an asset that is being inserted. -/
  | assetName (assetName : String)
  | revision (assetId : Uuid)
  | job (scanId : Uuid)
  | finding (findingId : FindingId)
  | config
  /-- The advisory lock of `ensure_initialized`. -/
  | seeding
  /-- The advisory lock of `record_part`. -/
  | part (uploadId : Uuid) (partNumber : ℕ)
  deriving DecidableEq

namespace Workspace

/-- The snapshots of an asset. -/
def snapshotsOf (db : Workspace) (assetId : Uuid) : List DatasetSnapshot :=
  db.snapshots.rows.filter fun s => decide (s.assetId = assetId)

/-- The protection version of an asset: 0 while it has no row. -/
def protectionVersion (db : Workspace) (assetId : Uuid) : ℕ :=
  ((db.revisions.find? assetId).map ProtectionRevision.version).getD 0

/-- The key of a job in the index `uq_privacy_scan_jobs_active`. -/
def activeJobKey (job : PrivacyScanJob) : Option (Uuid × ScanPurpose) :=
  if job.state.isActive then some (job.snapshotId, job.purpose) else none

/-- The key of a snapshot in the index `uq_snapshots_object_file_sha`. -/
def objectFileKey (s : DatasetSnapshot) : Option (Uuid × String) :=
  if s.sourceKind = .objectFile then some (s.assetId, s.contentSha256) else none

/-- The key of a snapshot in the constraint on version numbers. -/
def versionKey (s : DatasetSnapshot) : Option (Uuid × ℕ) := some (s.assetId, s.versionNumber)

/-- The key of a session in the index `uq_upload_sessions_client_request`. -/
def clientRequestKey (s : UploadSession) : Option (Uuid × Uuid) :=
  some (s.createdBy, s.clientRequestId)

/-- The key of a finding in the index `uq_findings_scan_rule`. -/
def scanRuleKey (f : SensitiveDataFinding) : Option (Uuid × String × String × RuleId × ℕ) :=
  match f.scanId, f.ruleId, f.ruleRevision with
  | some scanId, some ruleId, some revision =>
    some (scanId, f.findingId.columnName, f.findingId.path, ruleId, revision)
  | _, _, _ => none

end Workspace

end DqScoring
