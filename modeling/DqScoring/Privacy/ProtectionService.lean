import DqScoring.Privacy.ProtectionPolicy
import DqScoring.Privacy.RuleService

/-!
# Declared protection

`services/column_classification_service.py` and the two updates of
`services/privacy_service.py`. Each locks the asset first, then the protection revision of
the asset, and counts the version up once. `lockRevision` and `bumpRevision` are those
steps, which the scans share.
-/

namespace DqScoring

open Framework

/-! ### Protection versions -/

/-- The next version. -/
def ProtectionRevision.bump (r : ProtectionRevision) : ProtectionRevision :=
  { r with version := r.version + 1 }

@[simp] theorem ProtectionRevision.bump_assetId (r : ProtectionRevision) :
    r.bump.assetId = r.assetId := rfl

namespace Workspace

/-- `INSERT INTO asset_protection_revisions … ON CONFLICT DO NOTHING`. -/
def ensureRevision (assetId : Uuid) (db : Workspace) : Workspace :=
  { db with revisions := db.revisions.insertIfAbsent ⟨assetId, 0⟩ }

/-- `UPDATE asset_protection_revisions SET version = version + 1`. -/
def bumpRevision (assetId : Uuid) (db : Workspace) : Workspace :=
  { db with
    revisions := db.revisions.update assetId ProtectionRevision.bump
      ProtectionRevision.bump_assetId }

/-- The protection revisions once the version of an asset is counted up. -/
def bumped (db : Workspace) (assetId : Uuid) : Table ProtectionRevision.assetId :=
  ((db.ensureRevision assetId).bumpRevision assetId).revisions

/-- Creating the revision row changes no version. -/
theorem find?_ensureRevision (db : Workspace) (assetId id : Uuid) :
    (db.ensureRevision assetId).revisions.find? id
      = if id = assetId then some ⟨assetId, db.protectionVersion assetId⟩
        else db.revisions.find? id := by
  rw [ensureRevision, Table.find?_insertIfAbsent]
  by_cases h : id = assetId
  · subst h
    rw [if_pos rfl, if_pos rfl, protectionVersion]
    cases h_find : db.revisions.find? id with
    | none => rfl
    | some r =>
      -- the row has the key it was found by
      have h_key : r.assetId = id := (Table.find?_eq_some_iff.mp h_find).2
      subst h_key
      rfl
  · rw [if_neg h, if_neg h]

/-- A bump counts one asset's version up. -/
theorem find?_bumped (db : Workspace) (assetId id : Uuid) :
    (db.bumped assetId).find? id
      = if id = assetId then some ⟨assetId, db.protectionVersion assetId + 1⟩
        else db.revisions.find? id := by
  rw [bumped, bumpRevision, Table.find?_update, find?_ensureRevision]
  by_cases h : id = assetId
  · rw [if_pos h, if_pos h, if_pos rfl]
    rfl
  · rw [if_neg h, if_neg h, find?_ensureRevision, if_neg h]

/-- Inserting the version 0 changes no version. -/
@[simp] theorem protectionVersion_ensureRevision (db : Workspace) (assetId id : Uuid) :
    (db.ensureRevision assetId).protectionVersion id = db.protectionVersion id := by
  rw [protectionVersion, find?_ensureRevision]
  by_cases h : id = assetId
  · subst h
    rw [if_pos rfl]
    rfl
  · rw [if_neg h]
    rfl

end Workspace

/-- Insert the version 0 of an asset that has none, lock the row and read it. -/
def lockRevision (assetId : Uuid) : WorkspaceTxn ℕ := do
  .exec fun db => some (db.ensureRevision assetId)
  .forUpdate (.revision assetId)
  match ← .select fun db => db.revisions.find? assetId with
  | none => .raise internalServerError
  | some revision => return revision.version

/-- Count the version of an asset up. -/
def bumpRevision (assetId : Uuid) : WorkspaceTxn Unit :=
  .exec fun db => some (db.bumpRevision assetId)

/-! ### Classifications -/

/-- `ClassificationChange`; without a category the declaration is deleted. -/
structure ClassificationChange where
  columnName : String
  category : Option DataCategory
  reason : String

/-- `UpdateClassificationsRequest`. -/
structure UpdateClassificationsRequest where
  snapshotId : Uuid
  expectedVersion : ℕ
  changes : List ClassificationChange

/-- A declaration with another category. -/
def ColumnClassification.declare (category : DataCategory) (updatedBy : Uuid) (reason : String)
    (c : ColumnClassification) : ColumnClassification :=
  { c with category := category, updatedBy := updatedBy, reason := reason }

theorem ColumnClassification.declare_key (category : DataCategory) (updatedBy : Uuid)
    (reason : String) (c : ColumnClassification) :
    (c.declare category updatedBy reason).key = c.key := rfl

/-- DELETE or upsert the declaration of one change. -/
def Workspace.classify (userId assetId : Uuid) (change : ClassificationChange) (db : Workspace) :
    Workspace :=
  { db with classifications :=
      match change.category with
      | none => db.classifications.deleteWhere fun c =>
        -- without a category the declaration is taken back
          decide (c.key = (assetId, change.columnName))
      | some category => db.classifications.insertOrUpdate
          ⟨assetId, change.columnName, category, userId, change.reason⟩
          (ColumnClassification.declare category userId change.reason)
          (ColumnClassification.declare_key category userId change.reason) }

/-- `update_classifications`. -/
def updateClassifications (userId assetId : Uuid) (payload : UpdateClassificationsRequest) :
    WorkspaceTxn SnapshotProtection := do
  .forUpdate (.asset assetId)
  match ← .select fun db => db.assets.find? assetId with
  | none => .raise ⟨404, "RESOURCE_NOT_FOUND"⟩
  | some _ =>
    match ← .select fun db => (db.snapshots.find? payload.snapshotId).filter
        fun s => decide (s.assetId = assetId) with
    | none => .raise ⟨404, "RESOURCE_NOT_FOUND"⟩
    | some snapshot =>
      if payload.changes.any fun change =>
          decide (change.columnName ∉ snapshot.columns.map ColumnDefinition.name) then
        .raise ⟨422, "INVALID_CLASSIFICATION_COLUMN"⟩
      else do
        let version ← lockRevision assetId
        if version ≠ payload.expectedVersion then .raise ⟨409, "POLICY_VERSION_CONFLICT"⟩
        else do
          .exec fun db => some (payload.changes.foldl (fun db c => db.classify userId assetId c) db)
          bumpRevision assetId
          -- `get_classifications`
          resolveSnapshotProtection payload.snapshotId

/-! ### Policies -/

/-- `ACTIVE_PROTECTION_ROLES`. -/
def activeProtectionRoles : List String :=
  ["WORKSPACE_ADMIN", "DATA_OWNER", "DATA_STEWARD", "DATA_ENGINEER", "BUSINESS_VIEWER",
    "VIEWER_UNPRIVILEGED"]

/-- What `get_asset_protection_policy` returns. -/
structure AssetProtectionPolicy where
  assetId : Uuid
  version : ℕ
  categories : List SensitiveCategory
  unsupportedPolicies : ℕ
  deriving DecidableEq

/-- The policy, with the strategy FULL_MASK. -/
def DataProtectionPolicy.toFullMask (p : DataProtectionPolicy) : DataProtectionPolicy :=
  { p with fullMask := true }

theorem DataProtectionPolicy.toFullMask_key (p : DataProtectionPolicy) :
    p.toFullMask.key = p.key := rfl

namespace Workspace

/-- The categories that an asset masks. -/
def policyCategories (db : Workspace) (assetId : Uuid) : List SensitiveCategory :=
  sensitiveCategories.filter fun c => db.policies.rows.any fun p =>
    decide (p.assetId = assetId) && p.fullMask && decide (p.targetCategory = c)

/-- DELETE the FULL_MASK policies of an asset. -/
def clearPolicies (assetId : Uuid) (db : Workspace) : Workspace :=
  { db with policies := db.policies.deleteWhere fun p => decide (p.assetId = assetId) &&
    p.fullMask }

/-- Upsert a FULL_MASK policy. -/
def addPolicy (assetId : Uuid) (category : SensitiveCategory) (role : String) (db : Workspace) :
    Workspace :=
  { db with
    policies := db.policies.insertOrUpdate ⟨assetId, category, role, true⟩
      DataProtectionPolicy.toFullMask DataProtectionPolicy.toFullMask_key }

/-- The policies of some categories, for every role. -/
def addPolicies (assetId : Uuid) (categories : List SensitiveCategory) (db : Workspace) :
    Workspace :=
  categories.foldl (fun db c =>
    activeProtectionRoles.foldl (fun db role => db.addPolicy assetId c role) db) db

end Workspace

/-- `get_asset_protection_policy`. -/
def getAssetProtectionPolicy (assetId : Uuid) : WorkspaceTxn AssetProtectionPolicy := do
  match ← .select fun db => db.assets.find? assetId with
  | none => .raise ⟨404, "Data asset not found"⟩
  | some _ =>
    -- the version, and what the policy masks
    let version ← .select fun db => db.protectionVersion assetId
    let categories ← .select fun db => db.policyCategories assetId
    let unsupported ← .select fun db => db.policies.rows.countP fun p =>
      decide (p.assetId = assetId) && !p.fullMask
    return ⟨assetId, version, categories, unsupported⟩

/-- `update_asset_protection_policy`. -/
def updateAssetProtectionPolicy (assetId : Uuid) (expectedVersion : ℕ)
    (categories : List SensitiveCategory) : WorkspaceTxn AssetProtectionPolicy := do
  .forUpdate (.asset assetId)
  match ← .select fun db => db.assets.find? assetId with
  | none => .raise ⟨404, "RESOURCE_NOT_FOUND"⟩
  | some _ =>
    let version ← lockRevision assetId
    if version ≠ expectedVersion then .raise ⟨409, "POLICY_VERSION_CONFLICT"⟩
    else do
      let _before ← getAssetProtectionPolicy assetId
      .exec fun db => some (db.clearPolicies assetId)
      .exec fun db => some (db.addPolicies assetId categories)
      bumpRevision assetId
      getAssetProtectionPolicy assetId

/-! ### Findings -/

/-- The finding after a decision. -/
def SensitiveDataFinding.review (newStatus : FindingStatus) (reason : String) (userId : Uuid)
    (f : SensitiveDataFinding) : SensitiveDataFinding :=
  { f with status := newStatus, reviewReason := some reason, reviewedBy := some userId }

theorem SensitiveDataFinding.review_findingId (newStatus : FindingStatus) (reason : String)
    (userId : Uuid) (f : SensitiveDataFinding) :
    (f.review newStatus reason userId).findingId = f.findingId := rfl

/-- What `update_finding_status` returns: the finding with its new status. -/
structure FindingDecision where
  finding : SensitiveDataFinding
  historical : Bool
  deriving DecidableEq

namespace Workspace

/-- The asset of a finding, through its snapshot. -/
def assetOfFinding (db : Workspace) (findingId : FindingId) : Option Uuid := do
  let finding ← db.findings.find? findingId
  let snapshot ← db.snapshots.find? finding.snapshotId
  return snapshot.assetId

/-- UPDATE a finding. -/
def decideFinding (findingId : FindingId) (newStatus : FindingStatus) (reason : String)
    (userId : Uuid) (db : Workspace) : Workspace :=
  { db with
    findings := db.findings.update findingId (SensitiveDataFinding.review newStatus reason userId)
      (SensitiveDataFinding.review_findingId newStatus reason userId) }

end Workspace

/-- `update_finding_status`. -/
def updateFindingStatus (userId : Uuid) (findingId : FindingId) (expectedStatus newStatus :
    FindingStatus) (reason : String) : WorkspaceTxn FindingDecision := do
  match ← .select fun db => db.assetOfFinding findingId with
  | none => .raise ⟨404, "RESOURCE_NOT_FOUND"⟩
  | some assetId =>
    -- lock order: asset, protection revision, finding
    .forUpdate (.asset assetId)
    let _version ← lockRevision assetId
    .forUpdate (.finding findingId)
    match ← .select fun db => (db.findings.find? findingId).map fun f =>
        (f, decide (newStatus = .confirmed)
          && decide (f.scanId ≠ (db.latestCompleteJob f.snapshotId).map PrivacyScanJob.scanId)) with
    | none => .raise ⟨404, "RESOURCE_NOT_FOUND"⟩
    | some (finding, historical) =>
      if finding.status ≠ expectedStatus then .raise ⟨409, "FINDING_STATUS_CONFLICT"⟩
      else do
        .exec fun db => some (db.decideFinding findingId newStatus reason userId)
        bumpRevision assetId
        return ⟨{ finding with status := newStatus }, historical⟩

end DqScoring
