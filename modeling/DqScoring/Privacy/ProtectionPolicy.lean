import DqScoring.Workspace.Discipline
import Mathlib.Data.Prod.Lex

/-!
# The protected columns of a snapshot

`services/privacy_policy.py`. What a request for the protection of a snapshot reads are five
statements, and a transaction that commits between two of them is seen by the later ones
only; `snapshotProtection` puts together what they read.
-/

namespace DqScoring

open Framework

/-- A column in a `SnapshotProtection`. -/
structure ColumnProtection where
  columnName : String
  declaredCategory : Option DataCategory
  detectedCategories : List SensitiveCategory
  effectiveCategories : List SensitiveCategory
  isProtected : Bool
  conflict : Bool
  reason : Option String
  deriving DecidableEq

/-- `SnapshotProtection`. -/
structure SnapshotProtection where
  assetId : Uuid
  policyVersion : ℕ
  scanStatus : String
  scanStale : Bool
  columns : List ColumnProtection
  deriving DecidableEq

/-- `protected_columns`. -/
def SnapshotProtection.protectedColumns (p : SnapshotProtection) : List String :=
  (p.columns.filter ColumnProtection.isProtected).map ColumnProtection.columnName

/-- The sensitive categories, in the order of their names. -/
def sensitiveCategories : List SensitiveCategory :=
  [.basicPersonalData, .confidentialBusinessData, .sensitivePersonalData]

namespace Workspace

/-- The order of jobs by `(created_at, scan_id)`. -/
instance jobOrder : LinearOrder (Lex (Time × ℕ)) :=
  @Prod.Lex.instLinearOrder Time ℕ Int.instLinearOrder Nat.instLinearOrder

instance jobPreorder : Preorder (Lex (Time × ℕ)) := jobOrder.toPreorder

/-- The latest job of a snapshot that a condition selects:
`ORDER BY created_at DESC, scan_id DESC LIMIT 1`. -/
def latestJob (db : Workspace) (snapshotId : Uuid) (p : PrivacyScanJob → Bool) :
    Option PrivacyScanJob :=
  (db.jobs.rows.filter fun j => decide (j.snapshotId = snapshotId) && p j).argmax fun j =>
    toLex (j.createdAt, j.scanId.value)

/-- The latest APPLY job of a snapshot. -/
def latestApplyJob (db : Workspace) (snapshotId : Uuid) : Option PrivacyScanJob :=
  db.latestJob snapshotId fun j => decide (j.purpose = .apply)

/-- The latest complete APPLY job of a snapshot. -/
def latestCompleteJob (db : Workspace) (snapshotId : Uuid) : Option PrivacyScanJob :=
  db.latestJob snapshotId fun j => decide (j.purpose = .apply) && decide (j.state = .complete)

/-- `ACTIVE_FINDINGS_SQL`: confirmed, or of the latest complete scan; a finding without a scan is
one of these while there is no complete scan. -/
def isActiveFinding (db : Workspace) (f : SensitiveDataFinding) : Bool :=
  decide (f.status = .confirmed)
    || decide (f.scanId = (db.latestCompleteJob f.snapshotId).map PrivacyScanJob.scanId)

/-- The detected categories of the columns of a snapshot. -/
def detectedCategories (db : Workspace) (snapshotId : Uuid) : List (String × SensitiveCategory) :=
  (db.findings.rows.filter fun f => decide (f.snapshotId = snapshotId)
    && decide (f.status ≠ .dismissed) && db.isActiveFinding f).map fun f =>
      (f.findingId.columnName, f.category)

/-- The declared categories of the columns of an asset, with their reasons. -/
def declarations (db : Workspace) (assetId : Uuid) : List (String × DataCategory × String) :=
  (db.classifications.rows.filter fun c => decide (c.assetId = assetId)).map fun c =>
    (c.columnName, c.category, c.reason)

end Workspace

/-- `_scan_state`: the latest APPLY job, otherwise the scan that the manifest records. -/
def scanState (snapshotId : Uuid) (manifest : Manifest) : WorkspaceTxn (String × Bool) := do
  match ← .select fun db => (db.latestApplyJob snapshotId).map fun j =>
    -- the state of the latest scan that applies
      (j.state, decide (j.configVersion ≠ db.configVersion.getD 0)) with
  | some (state, isOther) => return (state.text, isOther && decide (state = .complete))
  | none =>
    -- otherwise what the manifest says
    match manifest.sensitiveScan with
    | none => return ("UNAVAILABLE", false)
    | some scan =>
      if scan.status ≠ "COMPLETE" then return ("UNAVAILABLE", false)
      else
        match scan.configVersion with
        -- a scan without a version is taken as current
        | none => return ("COMPLETE", false)
        | some pinned =>
          let current ← .select Workspace.configVersion
          return ("COMPLETE", current.any fun version => decide (version ≠ pinned))

/-- What is known of a column. -/
def columnProtection (declarations : List (String × DataCategory × String))
    (detected : List (String × SensitiveCategory)) (isVerified : Bool) (name : String) :
    ColumnProtection :=
  let declaration := declarations.lookup name
  -- what the findings and the declaration say, together
  let findings := sensitiveCategories.filter fun c => decide ((name, c) ∈ detected)
  let isEffective c := decide (c ∈ findings)
    || decide (declaration.map Prod.fst = some (DataCategory.sensitive c))
  let effective := sensitiveCategories.filter isEffective
  { columnName := name
    declaredCategory := declaration.map Prod.fst
    detectedCategories := findings
    effectiveCategories := effective
    -- nothing is exposed before a scan has verified the column
    isProtected := !effective.isEmpty || !isVerified
    -- a declaration as standard data against a finding
    conflict := decide (declaration.map Prod.fst = some .standardData) && !findings.isEmpty
    reason := declaration.map Prod.snd }

/-- What `resolve_snapshot_protection` makes of the rows it has read. -/
def snapshotProtection (row : DatasetSnapshot) (version : ℕ)
    (declarations : List (String × DataCategory × String))
    (detected : List (String × SensitiveCategory)) (scan : String × Bool) : SnapshotProtection where
  assetId := row.assetId
  policyVersion := version
  scanStatus := scan.1
  scanStale := scan.2
  columns := row.columns.map fun c =>
    columnProtection declarations detected (decide (scan.1 = "COMPLETE") && !scan.2) c.name

/-- `resolve_snapshot_protection`. -/
def resolveSnapshotProtection (snapshotId : Uuid) : WorkspaceTxn SnapshotProtection := do
  match ← .select fun db => db.snapshots.find? snapshotId with
  | none => .raise ⟨404, "RESOURCE_NOT_FOUND"⟩
  | some row =>
    let version ← .select fun db => db.protectionVersion row.assetId
    let declarations ← .select fun db => db.declarations row.assetId
    let detected ← .select fun db => db.detectedCategories snapshotId
    let scan ← scanState snapshotId row.manifest
    return snapshotProtection row version declarations detected scan

/-! ### Reading -/

theorem readsOnly_scanState (snapshotId : Uuid) (manifest : Manifest) :
    (scanState snapshotId manifest).ReadsOnly := by
  refine (Txn.readsOnly_select _).bind fun job => ?_
  cases job with
  | some job => trivial
  | none =>
    cases manifest.sensitiveScan with
    | none => trivial
    | some scan =>
      show Txn.ReadsOnly (ite _ _ _)
      split
      · trivial
      · cases scan.configVersion with
        | none => trivial
        | some pinned => exact (Txn.readsOnly_select _).bind fun _ => trivial

theorem readsOnly_resolveSnapshotProtection (snapshotId : Uuid) :
    (resolveSnapshotProtection snapshotId).ReadsOnly := by
  refine (Txn.readsOnly_select _).bind fun row => ?_
  cases row with
  | none => trivial
  | some row =>
    refine (Txn.readsOnly_select _).bind fun _ => (Txn.readsOnly_select _).bind fun _ => ?_
    exact (Txn.readsOnly_select _).bind fun _ =>
      (readsOnly_scanState snapshotId row.manifest).bind fun _ => trivial

end DqScoring
