import DqScoring.Common.PyValue
import DqScoring.Imports.Sessions
import DqScoring.Privacy.ScanJobs

/-!
# Registration

`services/dataset_import_service.py`, and the transaction of
`presentation/cli/migrate_local_snapshots.py` that creates a session which is verified
already and registers it. A registration that fails raises `ImportRegistrationError`: the
route catches it, so that its transaction commits, and the command does not.
-/

namespace DqScoring

open Framework

/-- `ImportRegistrationError`. -/
structure RegistrationError where
  errorCode : String
  detail : String
  deriving DecidableEq

/-- What a registration draws: the `uuid4()` of new rows, and the slug of a new asset. -/
structure RegistrationIds where
  assetId : Uuid
  slug : String
  snapshotId : Uuid
  scanId : Uuid

/-! ### Statements -/

/-- The asset after a new version. -/
def DataAsset.addVersion (snapshotId : Uuid) (a : DataAsset) : DataAsset :=
  { a with currentSnapshotId := some snapshotId, versionCount := a.versionCount + 1 }

theorem DataAsset.addVersion_assetId (snapshotId : Uuid) (a : DataAsset) :
    (a.addVersion snapshotId).assetId = a.assetId := rfl

namespace Workspace

/-- UPDATE an asset. -/
def updateAsset (assetId snapshotId : Uuid) (db : Workspace) : Workspace :=
  { db with
    assets := db.assets.update assetId (DataAsset.addVersion snapshotId)
      (DataAsset.addVersion_assetId snapshotId) }

/-- `COALESCE(MAX(version_number), 0) + 1`. -/
def nextVersion (db : Workspace) (assetId : Uuid) : ℕ :=
  ((db.snapshotsOf assetId).map DatasetSnapshot.versionNumber).foldr max 0 + 1

/-- The snapshot of an asset with the same raw data. -/
def duplicateOf (db : Workspace) (assetId : Uuid) (contentSha256 : String) :
    Option DatasetSnapshot :=
  (db.snapshotsOf assetId).find? fun s =>
    decide (s.contentSha256 = contentSha256) && decide (s.sourceKind = .objectFile)

/-- `INSERT INTO data_assets`. -/
def insertAsset (asset : DataAsset) (db : Workspace) : Option Workspace := do
  let rows ← db.assets.insert asset
  return { db with assets := rows }

/-- `INSERT INTO dataset_snapshots`: refused by the two unique indexes of an asset. -/
def insertSnapshot (snapshot : DatasetSnapshot) (db : Workspace) : Option Workspace := do
  let rows ← db.snapshots.insert snapshot
  if rows.HasUniqueIndex versionKey ∧ rows.HasUniqueIndex objectFileKey then
    return { db with snapshots := rows }
  else none

/-- `INSERT INTO sensitive_data_findings … ON CONFLICT DO NOTHING`. -/
def insertFindingIfAbsent (db : Workspace) (f : SensitiveDataFinding) : Workspace :=
  (db.insertFinding f).getD db

end Workspace

/-- The scan job of an import, complete from the start. -/
def importJob (scanId snapshotId : Uuid) (manifest : Manifest) (configVersion : ℕ) (now : Time) :
    PrivacyScanJob where
  scanId := scanId
  snapshotId := snapshotId
  -- the scan of the import is complete when it is registered
  purpose := .apply
  state := .complete
  pinnedRules := manifest.privacyRules
  configVersion := configVersion
  createdAt := now

/-- The scan of an import, if it was pinned to a configuration. -/
def importScanId (manifest : Manifest) (ids : RegistrationIds) : Option Uuid :=
  manifest.privacyConfigVersion.map fun _ => ids.scanId

/-- The rows of the findings of an import. -/
def importFindingRows (manifest : Manifest) (ids : RegistrationIds) : List SensitiveDataFinding :=
  let scanId := importScanId manifest ids
  ((manifest.sensitiveScan.map SensitiveScan.findings).getD []).map fun f =>
    findingRow (scanId.getD ids.snapshotId) ids.snapshotId scanId none
      { f with ruleRevision := if f.ruleId.isSome then f.ruleRevision else none }

/-- The row of a new snapshot. -/
def newSnapshot (session : UploadSession) (source : SourceDescriptor) (assetId : Uuid)
    (versionNumber : ℕ) (ids : RegistrationIds) : DatasetSnapshot where
  snapshotId := ids.snapshotId
  assetId := assetId
  versionNumber := versionNumber
  parentSnapshotId := session.manifest.parentSnapshotId
  -- the rest comes from the manifest of the session
  sourceKind := .objectFile
  sourceDescriptor := source
  contentSha256 := source.raw.contentSha256
  columns := session.manifest.columns.getD []
  totalRows := session.manifest.exactRowCount.getD 0
  manifest := session.manifest

theorem keepsUploadId_register (assetId snapshotId : Uuid) :
    KeepsUploadId (UploadSession.register assetId snapshotId) := fun _ => rfl

/-- INSERT the job of an import that was pinned to a configuration. -/
def Workspace.insertImportJob (manifest : Manifest) (ids : RegistrationIds) (now : Time)
    (db : Workspace) : Option Workspace :=
  match manifest.privacyConfigVersion with
  | none => some db
  | some version => db.insertJob (importJob ids.scanId ids.snapshotId manifest version now)

/-- Steps 5 to 7 of a registration, in the order of their statements. -/
def Workspace.addVersion (session : UploadSession) (snapshot : DatasetSnapshot)
    (ids : RegistrationIds) (now : Time) (db : Workspace) : Option Workspace := do
  let db ← db.insertSnapshot snapshot
  let db ← db.insertImportJob session.manifest ids now
  let db := (importFindingRows session.manifest ids).foldl insertFindingIfAbsent db
  let db := db.updateAsset snapshot.assetId ids.snapshotId
  return db.updateSession session.uploadId (UploadSession.register snapshot.assetId ids.snapshotId)
    (keepsUploadId_register snapshot.assetId ids.snapshotId)

/-! ### `register_snapshot` -/

/-- The snapshot of a session that is registered already. -/
def replayedSnapshot (session : UploadSession) : WorkspaceTxn (Option DatasetSnapshot) :=
  match session.status, session.registeredSnapshotId with
  | .registered, some snapshotId => .select fun db => db.snapshots.find? snapshotId
  | _, _ => return none

/-- The checks of a session that is to be registered, and its source. -/
def checkRegistration (acknowledgedWarnings : List String) (now : Time) (session : UploadSession) :
    Except RegistrationError SourceDescriptor :=
  -- in the order of the source: expiry, status, warnings, descriptor
  if session.isExpired now then .error ⟨"IMPORT_EXPIRED", "Import session has expired."⟩
  else if session.status ≠ .verified then
    .error ⟨"IMPORT_STATE_CONFLICT",
      "Session cannot be registered in status '" ++ session.status.text ++ "'."⟩
  else if "SINGLE_COLUMN_INPUT" ∈ session.manifest.warnings
      ∧ "SINGLE_COLUMN_INPUT" ∉ acknowledgedWarnings then
    .error ⟨"WARNING_ACKNOWLEDGMENT_REQUIRED",
      "SINGLE_COLUMN_INPUT requires explicit confirmation."⟩
  else
    match session.manifest.sourceDescriptor with
    | none => .error ⟨"MALFORMED_IMPORT", "Session manifest missing source_descriptor."⟩
    | some source => .ok source

/-- The row of a new asset. -/
def newAsset (session : UploadSession) (name : String) (ids : RegistrationIds) : DataAsset where
  assetId := ids.assetId
  assetName := pyStrip name
  slug := ids.slug
  format := session.format

/-- Resolve or create the asset. An INSERT of a name waits for one that is open. -/
def resolveAsset (session : UploadSession) (ids : RegistrationIds) :
    WorkspaceTxn (Except RegistrationError Uuid) := do
  match session.assetId with
  | some assetId =>
    -- the asset is locked, so that versions are added one at a time
    .forUpdate (.asset assetId)
    let isThere ← .select fun db => (db.assets.find? assetId).isSome
    if isThere then return .ok assetId
    else return .error ⟨"RESOURCE_NOT_FOUND", "Target Data Asset not found."⟩
  | none =>
    match session.assetName with
    | none => .raise internalServerError
    | some name =>
      let asset := newAsset session name ids
      -- the unique index on the name makes the insert wait
      .forUpdate (.assetName asset.assetName)
      let isTaken ← .select fun db =>
        db.assets.rows.any fun a => decide (a.assetName = asset.assetName)
      if isTaken then
        return .error ⟨"ASSET_NAME_CONFLICT",
          "Data Asset with name '" ++ asset.assetName ++ "' already exists."⟩
      else
        .forUpdate (.asset ids.assetId)
        .exec (Workspace.insertAsset asset)
        return .ok ids.assetId

/-- Return the snapshot with the same raw data, or add a version. -/
def addSnapshot (session : UploadSession) (source : SourceDescriptor) (assetId : Uuid)
    (ids : RegistrationIds) (now : Time) :
    WorkspaceTxn (Except RegistrationError DatasetSnapshot) := do
  match ← .select fun db => db.duplicateOf assetId source.raw.contentSha256 with
  | some existing =>
    -- the same file was imported before
    if existing.sourceDescriptor.canonical.contentSha256 = source.canonical.contentSha256 then
      .exec fun db => some (db.updateSession session.uploadId
        (UploadSession.register assetId existing.snapshotId)
        (keepsUploadId_register assetId existing.snapshotId))
      return .ok existing
    else
      return .error ⟨"REIMPORT_MAPPING_CONFLICT",
        "Same raw data already imported with different column mapping."⟩
  | none =>
    -- the next number is read under the lock of the asset
    let versionNumber ← .select fun db => db.nextVersion assetId
    let snapshot := newSnapshot session source assetId versionNumber ids
    .exec (Workspace.addVersion session snapshot ids now)
    return .ok snapshot

/-- `register_snapshot`. -/
def registerSnapshot (uploadId : Uuid) (acknowledgedWarnings : List String) (now : Time)
    (ids : RegistrationIds) : WorkspaceTxn (Except RegistrationError DatasetSnapshot) := do
  .forUpdate (.session uploadId)
  match ← .select fun db => db.sessions.find? uploadId with
  | none => return .error ⟨"RESOURCE_NOT_FOUND", "Import session not found."⟩
  | some session =>
    -- a registered session answers with its snapshot
    match ← replayedSnapshot session with
    | some snapshot => return .ok snapshot
    | none =>
      match checkRegistration acknowledgedWarnings now session with
      | .error e => return .error e
      | .ok source =>
        match ← resolveAsset session ids with
        | .error e => return .error e
        | .ok assetId => addSnapshot session source assetId ids now

/-! ### The migration of a legacy snapshot -/

/-- What the command migrates: the legacy snapshot and the inspection of its file. -/
structure LegacyMigration where
  uploadId : Uuid
  clientRequestId : Uuid
  userId : Uuid
  assetId : Uuid
  legacySnapshotId : Uuid
  format : FileFormat
  inspection : ImportInspection

/-- The session that the command creates. Its manifest names no privacy configuration. -/
def LegacyMigration.session (m : LegacyMigration) (now : Time) : UploadSession where
  -- the session is inserted verified, and registered at once
  uploadId := m.uploadId
  createdBy := m.userId
  clientRequestId := m.clientRequestId
  assetId := some m.assetId
  assetName := none
  format := m.format
  sizeBytes := m.inspection.raw.sizeBytes
  multipartId := none
  status := .verified
  expiresAt := some (now + sessionLifetime)
  manifest :=
    { sourceDescriptor := some (m.inspection.sourceDescriptor m.format)
      columns := some m.inspection.columns
      exactRowCount := some m.inspection.exactRowCount
      warnings := m.inspection.warnings
      sensitiveScan := some m.inspection.sensitiveScan
      parentSnapshotId := some m.legacySnapshotId }

/-- `migrate` for one legacy snapshot: create a verified session and register it. -/
def migrateSnapshot (m : LegacyMigration) (now : Time) (ids : RegistrationIds) :
    WorkspaceTxn DatasetSnapshot := do
  .forUpdate (.session m.uploadId)
  .exec (Workspace.insertSession (m.session now))
  match ← registerSnapshot m.uploadId m.inspection.warnings now ids with
  | .error _ => .raise internalServerError
  | .ok snapshot => return snapshot

end DqScoring
