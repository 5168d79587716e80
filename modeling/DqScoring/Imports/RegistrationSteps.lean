import DqScoring.Imports.Registration
import DqScoring.Imports.SessionSteps
import DqScoring.Privacy.ScanSteps

/-!
# What a registration commits

A registration holds the lock of its session, and of its asset or of the name and the row
of the asset it creates. The list of snapshots that it read is then the list at its commit:
the version it computed is the next one, and a duplicate it did not find is not there.

The command that migrates a legacy snapshot registers a session that its own transaction
has inserted; `SessionView` is what both callers know of the session while they register it.
-/

namespace DqScoring

open Framework

section Steps

variable {held : List RowLock} {db db' : Workspace}

/-! ### A new version -/

/-- What a new version changes. -/
structure VersionAdded (session : UploadSession) (snapshot : DatasetSnapshot)
    (ids : RegistrationIds) (now : Time) (db db' : Workspace) : Prop where
  snapshots : db.snapshots.insert snapshot = some db'.snapshots
  versionIndex : db'.snapshots.HasUniqueIndex Workspace.versionKey
  fileIndex : db'.snapshots.HasUniqueIndex Workspace.objectFileKey
  jobs : match session.manifest.privacyConfigVersion with
    | none => db'.jobs = db.jobs
    | some version =>
      db.jobs.insert (importJob ids.scanId ids.snapshotId session.manifest version now)
        = some db'.jobs ∧ db'.jobs.HasUniqueIndex Workspace.activeJobKey
  findingsStay : ∀ id row, db.findings.find? id = some row → db'.findings.find? id = some row
  findingsNew : ∀ row ∈ db'.findings.rows,
    row ∈ db.findings.rows ∨ row ∈ importFindingRows session.manifest ids
  findingsRows : ∃ rows, db'.findings.rows = db.findings.rows ++ rows ∧
    ∀ row ∈ rows, row ∈ importFindingRows session.manifest ids
  findingsIndex : db.findings.HasUniqueIndex Workspace.scanRuleKey →
    db'.findings.HasUniqueIndex Workspace.scanRuleKey
  eq : db' = ({ db with
    snapshots := db'.snapshots, jobs := db'.jobs, findings := db'.findings }.updateAsset
      snapshot.assetId ids.snapshotId).updateSession session.uploadId
        (UploadSession.register snapshot.assetId ids.snapshotId)
        (keepsUploadId_register snapshot.assetId ids.snapshotId)

/-- Findings that are inserted if they are free. -/
theorem insertFindingsIfAbsent_eq (findings : List SensitiveDataFinding) (db : Workspace) :
    ∃ rows, findings.foldl Workspace.insertFindingIfAbsent db = { db with findings := rows } ∧
      (∀ id row, db.findings.find? id = some row → rows.find? id = some row) ∧
      (∃ new, rows.rows = db.findings.rows ++ new ∧ ∀ row ∈ new, row ∈ findings) ∧
      (db.findings.HasUniqueIndex Workspace.scanRuleKey →
        rows.HasUniqueIndex Workspace.scanRuleKey) := by
  induction findings generalizing db with
  | nil =>
    refine ⟨db.findings, rfl, fun _ _ => id, ⟨[], (List.append_nil _).symm, ?_⟩, id⟩
    exact fun row h_row => by cases h_row
  | cons f findings ih =>
    rw [List.foldl_cons, Workspace.insertFindingIfAbsent]
    cases h_insert : db.insertFinding f with
    | none =>
      obtain ⟨rows, h_eq, h_stay, ⟨new, h_rows, h_new⟩, h_index⟩ := ih db
      refine ⟨rows, h_eq, h_stay, ⟨new, h_rows, fun row h_row => ?_⟩, h_index⟩
      exact List.mem_cons_of_mem f (h_new row h_row)
    | some db₁ =>
      obtain ⟨table, h_table, h_checked⟩ := Option.bind_eq_some_iff.mp h_insert
      split at h_checked
      · rename_i h_unique
        obtain rfl := Option.some.inj h_checked
        obtain ⟨rows, h_eq, h_stay, ⟨new, h_rows, h_new⟩, h_index⟩ :=
          ih { db with findings := table }
        refine ⟨rows, h_eq, fun id row h_row => ?_, ⟨f :: new, ?_, fun row h_row => ?_⟩,
          fun _ => h_index h_unique.1⟩
        · exact h_stay id row (find?_of_insert_of_find? h_table h_row)
        · rw [h_rows, show Workspace.findings { db with findings := table } = table from rfl,
            Table.rows_of_insert h_table, List.append_assoc, List.singleton_append]
        · rcases List.mem_cons.mp h_row with rfl | h_later
          · exact List.mem_cons_self
          · exact List.mem_cons_of_mem f (h_new row h_later)
      · cases h_checked

/-- What adding a version has inserted. -/
theorem versionAdded_of_addVersion {session : UploadSession} {snapshot : DatasetSnapshot}
    {ids : RegistrationIds} {now : Time}
    (h : db.addVersion session snapshot ids now = some db') :
    VersionAdded session snapshot ids now db db' := by
  obtain ⟨db₁, h_snapshot, h_later⟩ := Option.bind_eq_some_iff.mp h
  obtain ⟨db₂, h_job, h_last⟩ := Option.bind_eq_some_iff.mp h_later
  obtain ⟨snapshots, h_snapshots, h_checked⟩ := Option.bind_eq_some_iff.mp h_snapshot
  obtain ⟨findings, h_eq, h_stay, ⟨new, h_rows, h_new⟩, h_index⟩ :=
    insertFindingsIfAbsent_eq (importFindingRows session.manifest ids) db₂
  have h_members : ∀ row ∈ findings.rows,
      row ∈ db₂.findings.rows ∨ row ∈ importFindingRows session.manifest ids := by
    intro row h_row
    rw [h_rows, List.mem_append] at h_row
    exact h_row.imp_right (h_new row)
  split at h_checked
  · rename_i h_unique
    cases h_checked
    rw [h_eq] at h_last
    rw [Workspace.insertImportJob] at h_job
    have h_eq := (Option.some.inj h_last).symm
    split at h_job
    · rename_i h_config
      cases h_job
      rw [h_eq]
      refine ⟨h_snapshots, h_unique.1, h_unique.2, ?_, h_stay, h_members, ⟨new, h_rows, h_new⟩,
        h_index, rfl⟩
      rw [h_config]
      rfl
    · rename_i version h_config
      obtain ⟨jobs, h_jobs, h_active, rfl⟩ := insertJob_eq_some_iff.mp h_job
      rw [h_eq]
      refine ⟨h_snapshots, h_unique.1, h_unique.2, ?_, h_stay, h_members, ⟨new, h_rows, h_new⟩,
        h_index, rfl⟩
      rw [h_config]
      exact ⟨h_jobs, h_active⟩
  · cases h_checked

/-- The job table after a new version has the rows it had. -/
theorem VersionAdded.jobsStay {session : UploadSession} {snapshot : DatasetSnapshot}
    {ids : RegistrationIds} {now : Time} (h : VersionAdded session snapshot ids now db db')
    {id : Uuid} {job : PrivacyScanJob} (h_job : db.jobs.find? id = some job) :
    db'.jobs.find? id = some job := by
  have h_jobs := h.jobs
  cases h_config : session.manifest.privacyConfigVersion with
  | none =>
    rw [h_config] at h_jobs
    rw [show db'.jobs = db.jobs from h_jobs]
    exact h_job
  | some version =>
    rw [h_config] at h_jobs
    exact find?_of_insert_of_find? h_jobs.1 h_job

/-- Adding a version touches rows of the locked session and asset only. -/
theorem guarantee_addVersion {session : UploadSession} {snapshot : DatasetSnapshot}
    {ids : RegistrationIds} {now : Time} (h_inv : db.WellFormed)
    (h : VersionAdded session snapshot ids now db db')
    (h_session : .session session.uploadId ∈ held) (h_asset : .asset snapshot.assetId ∈ held)
    (h_there : (db.assets.find? snapshot.assetId).isSome) :
    workspaceDiscipline.guarantee held db db' := by
  -- the snapshot, its job, its findings and its asset are written one after the other
  have h_snapshots := guarantee_insertSnapshot h_inv h.snapshots h_there h_asset
  have h_jobs : workspaceDiscipline.guarantee held db
      { db with snapshots := db'.snapshots, jobs := db'.jobs } :=
    h_snapshots.trans (guarantee_jobs h_snapshots.inv
      (fun id row h_row => ⟨row, h.jobsStay h_row, rfl, rfl, rfl, rfl, rfl⟩)
      fun id _ row h_row => h.jobsStay h_row)
  have h_findings : workspaceDiscipline.guarantee held db
      { db with snapshots := db'.snapshots, jobs := db'.jobs, findings := db'.findings } :=
    h_jobs.trans (guarantee_findings h_jobs.inv
      (fun id row h_row => ⟨row, h.findingsStay id row h_row, rfl⟩)
      fun id _ row h_row => h.findingsStay id row h_row)
  have h_assets : workspaceDiscipline.guarantee held db
      ({ db with snapshots := db'.snapshots, jobs := db'.jobs,
                 findings := db'.findings }.updateAsset
        snapshot.assetId ids.snapshotId) :=
    h_findings.trans (guarantee_assets h_findings.inv ?_ ?_ ?_)
  · -- the session is linked last
    rw [h.eq]
    exact h_assets.trans (guarantee_updateSession h_assets.inv h_session
      (keepsUploadId_register snapshot.assetId ids.snapshotId))
  · intro id h_some
    rw [Table.find?_update]
    by_cases h_id : id = snapshot.assetId
    · rw [if_pos h_id, Option.isSome_map]
      exact h_there
    · rw [if_neg h_id]
      exact h_some
  · intro id h_id row h_row
    rw [Table.find?_update, if_neg]
    · exact h_row
    · rintro rfl
      exact h_id h_asset
  · -- the update keeps the names
    intro name _ h_free row h_row
    obtain ⟨row₀, h_row₀, rfl⟩ := List.mem_map.mp h_row
    split
    · exact h_free row₀ h_row₀
    · exact h_free row₀ h_row₀

/-! ### The snapshot of a resolved asset -/

variable {w : Workspace → Option Workspace} {uploadId assetId : Uuid} {session : UploadSession}
  {source : SourceDescriptor} {ids : RegistrationIds} {now : Time}

/-- What `addSnapshot` does to the workspace that it sees. -/
inductive SnapshotAdded (session : UploadSession) (source : SourceDescriptor) (assetId : Uuid)
    (ids : RegistrationIds) (now : Time) (db : Workspace) :
    Except RegistrationError DatasetSnapshot → Workspace → Prop
  | conflict (existing) : db.duplicateOf assetId source.raw.contentSha256 = some existing →
      existing.sourceDescriptor.canonical.contentSha256 ≠ source.canonical.contentSha256 →
      SnapshotAdded session source assetId ids now db
        (.error ⟨"REIMPORT_MAPPING_CONFLICT",
          "Same raw data already imported with different column mapping."⟩) db
  | duplicate (existing) : db.duplicateOf assetId source.raw.contentSha256 = some existing →
      existing.sourceDescriptor.canonical.contentSha256 = source.canonical.contentSha256 →
      SnapshotAdded session source assetId ids now db (.ok existing)
        (db.updateSession session.uploadId (UploadSession.register assetId existing.snapshotId)
          (keepsUploadId_register assetId existing.snapshotId))
  | created (db' : Workspace) : db.duplicateOf assetId source.raw.contentSha256 = none →
      VersionAdded session
        (newSnapshot session source assetId (db.nextVersion assetId) ids) ids now db db' →
      SnapshotAdded session source assetId ids now db
        (.ok (newSnapshot session source assetId (db.nextVersion assetId) ids)) db'

/-- What is known of an asset that is resolved, while its lock is held. -/
structure AssetView (held : List RowLock) (assetId : Uuid) (w : Workspace → Option Workspace)
    (db : Workspace) : Prop where
  guarantee : ∀ {db₁ v}, workspaceDiscipline.rely held db db₁ → w db₁ = some v →
    workspaceDiscipline.guarantee held db₁ v
  there : ∀ {db₁ v}, workspaceDiscipline.rely held db db₁ → w db₁ = some v →
    (v.assets.find? assetId).isSome
  snapshots : ∀ {db₁ db₂ v₁ v₂}, workspaceDiscipline.rely held db db₁ →
    workspaceDiscipline.rely held db₁ db₂ → w db₁ = some v₁ → w db₂ = some v₂ →
    v₂.snapshotsOf assetId = v₁.snapshotsOf assetId

/-- Duplicates are looked up among the asset's snapshots. -/
theorem duplicateOf_congr (h : db'.snapshotsOf assetId = db.snapshotsOf assetId) (sha : String) :
    db'.duplicateOf assetId sha = db.duplicateOf assetId sha := by
  rw [Workspace.duplicateOf, Workspace.duplicateOf, h]

/-- The next version is counted among the asset's snapshots. -/
theorem nextVersion_congr (h : db'.snapshotsOf assetId = db.snapshotsOf assetId) :
    db'.nextVersion assetId = db.nextVersion assetId := by
  rw [Workspace.nextVersion, Workspace.nextVersion, h]

/-- The end of a registration. What `P` says is known from before. -/
theorem wp_addSnapshot {P : Workspace → Workspace → Prop} (h_view : AssetView held assetId w db)
    (h_session : .session session.uploadId ∈ held) (h_asset : .asset assetId ∈ held)
    (h_P : ∀ db₁ v, workspaceDiscipline.rely held db db₁ → w db₁ = some v → P db₁ v) :
    workspaceDiscipline.wp (addSnapshot session source assetId ids now)
      (workspaceDiscipline.commits fun answer db db' => ∃ v, P db v ∧
        SnapshotAdded session source assetId ids now v answer db') held w db := by
  rw [addSnapshot, Discipline.wp_bind, Discipline.wp_select]
  intro db₁ h₁ v₁ h_v₁
  cases h_duplicate : v₁.duplicateOf assetId source.raw.contentSha256 with
  | some existing =>
    -- the content is registered already
    show workspaceDiscipline.wp (ite _ _ _) _ _ _ _
    split
    · -- the canonical form agrees, so the session is linked to the snapshot that is there
      rename_i h_canonical
      intro db₂ h₂ db' h_db'
      obtain ⟨v₂, h_v₂, h_eq⟩ := Option.bind_eq_some_iff.mp h_db'
      obtain rfl := Option.some.inj h_eq
      have h_guarantee := h_view.guarantee (h₁.trans h₂) h_v₂
      refine ⟨h_guarantee.trans (guarantee_updateSession h_guarantee.inv h_session
        (keepsUploadId_register assetId existing.snapshotId)), v₂, h_P db₂ v₂ (h₁.trans h₂) h_v₂,
          .duplicate existing ?_ h_canonical⟩
      rw [duplicateOf_congr (h_view.snapshots h₁ h₂ h_v₁ h_v₂), h_duplicate]
    · -- another canonical form of the same content is refused
      rename_i h_canonical
      intro db₂ h₂ v₂ h_v₂
      refine ⟨h_view.guarantee (h₁.trans h₂) h_v₂, v₂, h_P db₂ v₂ (h₁.trans h₂) h_v₂,
        .conflict existing ?_ h_canonical⟩
      rw [duplicateOf_congr (h_view.snapshots h₁ h₂ h_v₁ h_v₂), h_duplicate]
  | none =>
    -- the content is new
    simp only [Discipline.wp_bind, Discipline.wp_select, Discipline.wp_exec]
    intro db₂ h₂ v₂ h_v₂ db₃ h₃ db' h_db'
    obtain ⟨v₃, h_v₃, h_added⟩ := Option.bind_eq_some_iff.mp h_db'
    have h_rely₂ := h₁.trans h₂
    have h_guarantee := h_view.guarantee (h_rely₂.trans h₃) h_v₃
    -- the version that was computed is the next one of the workspace at the commit
    have h_next := nextVersion_congr (h_view.snapshots h_rely₂ h₃ h_v₂ h_v₃)
    have h_version := versionAdded_of_addVersion h_added
    rw [← h_next] at h_version
    refine ⟨h_guarantee.trans (guarantee_addVersion h_guarantee.inv h_version h_session h_asset
      (h_view.there (h_rely₂.trans h₃) h_v₃)), v₃, h_P db₃ v₃ (h_rely₂.trans h₃) h_v₃, ?_⟩
    show SnapshotAdded session source assetId ids now v₃
      (.ok (newSnapshot session source assetId (v₂.nextVersion assetId) ids)) db'
    rw [← h_next]
    refine .created db' ?_ h_version
    rw [duplicateOf_congr (h_view.snapshots h₁ (h₂.trans h₃) h_v₁ h_v₃), h_duplicate]

/-! ### The asset of a registration -/

/-- What `resolveAsset` does to the workspace that it sees. -/
inductive AssetResolved (session : UploadSession) (ids : RegistrationIds) (db : Workspace) :
    Except RegistrationError Uuid → Workspace → Prop
  | missing (assetId : Uuid) : session.assetId = some assetId → AssetResolved session ids db
      (.error ⟨"RESOURCE_NOT_FOUND", "Target Data Asset not found."⟩) db
  | taken (name) : session.assetId = none → session.assetName = some name →
      AssetResolved session ids db (.error ⟨"ASSET_NAME_CONFLICT",
        "Data Asset with name '" ++ pyStrip name ++ "' already exists."⟩) db
  | existing (assetId : Uuid) : session.assetId = some assetId → (db.assets.find? assetId).isSome →
      AssetResolved session ids db (.ok assetId) db
  | created (name rows) : session.assetId = none → session.assetName = some name →
      (∀ a ∈ db.assets.rows, a.assetName ≠ pyStrip name) →
      db.assets.insert (newAsset session name ids) = some rows →
      AssetResolved session ids db (.ok ids.assetId) { db with assets := rows }

/-- What is known of a session that is registered, while its lock is held. -/
structure SessionView (held : List RowLock) (uploadId : Uuid)
    (w : Workspace → Option Workspace) : Prop where
  frame : ∀ {db v}, w db = some v → v = { db with sessions := v.sessions }
  guarantee : ∀ {db v}, db.WellFormed → w db = some v → workspaceDiscipline.guarantee held db v
  stays : ∀ {db₁ db₂ v₁ v₂ row}, workspaceDiscipline.rely held db₁ db₂ → w db₁ = some v₁ →
    w db₂ = some v₂ → v₁.sessions.find? uploadId = some row → v₂.sessions.find? uploadId = some row

/-- The view of a locked session stays under more locks. -/
theorem SessionView.mono {held' : List RowLock} (h : SessionView held uploadId w)
    (h_sub : ∀ l ∈ held, l ∈ held') : SessionView held' uploadId w where
  frame := h.frame
  guarantee h_inv h_v := (h.guarantee h_inv h_v).mono h_sub
  stays h_rely := h.stays (h_rely.mono h_sub)

/-- A route registers a session that it has not written. -/
theorem sessionView_some (h_held : .session uploadId ∈ held) :
    SessionView held uploadId some where
  frame := by
    rintro db v ⟨⟩
    rfl
  guarantee := by
    rintro db v h_inv ⟨⟩
    exact .refl held h_inv
  stays := by
    rintro db₁ db₂ v₁ v₂ row h_rely ⟨⟩ ⟨⟩ h_row
    exact rely_session h_rely h_held h_row

/-- The command registers the session that it has inserted. -/
theorem sessionView_insertSession (session : UploadSession)
    (h_held : .session session.uploadId ∈ held) :
    SessionView held session.uploadId (Workspace.insertSession session) where
  frame := by
    intro db v h_v
    obtain ⟨rows, -, rfl⟩ := insertSession_eq_some h_v
    rfl
  guarantee := by
    intro db v h_inv h_v
    obtain ⟨rows, h_rows, rfl⟩ := insertSession_eq_some h_v
    refine guarantee_sessions h_inv fun id h_id row h_row => ?_
    rw [Table.find?_of_insert h_rows, if_neg]
    · exact h_row
    · rintro rfl
      exact h_id h_held
  stays := by
    intro db₁ db₂ v₁ v₂ row _ h_v₁ h_v₂ h_row
    obtain ⟨rows₁, h_rows₁, rfl⟩ := insertSession_eq_some h_v₁
    obtain ⟨rows₂, h_rows₂, rfl⟩ := insertSession_eq_some h_v₂
    have h_self : ∀ {db : Workspace} {rows}, db.sessions.insert session = some rows →
        rows.find? session.uploadId = some session := by
      intro db rows h_rows
      rw [Table.find?_of_insert h_rows, if_pos rfl]
    rw [show ({ db₁ with sessions := rows₁ } : Workspace).sessions = rows₁ from rfl,
      h_self h_rows₁] at h_row
    rw [← h_row]
    exact h_self h_rows₂

/-- The assets of the workspace that a registration sees are the committed ones. -/
theorem SessionView.assets_eq (h : SessionView held uploadId w) {v : Workspace}
    (h_v : w db = some v) : v.assets = db.assets := by
  rw [h.frame h_v]

theorem SessionView.snapshotsOf_eq (h : SessionView held uploadId w) {v : Workspace}
    (h_v : w db = some v) (assetId : Uuid) : v.snapshotsOf assetId = db.snapshotsOf assetId := by
  rw [h.frame h_v]
  rfl

/-- An asset that was there when its lock was taken is resolved. -/
theorem assetView_existing (h_view : SessionView held uploadId w) (h_inv : db.WellFormed)
    (h_held : .asset assetId ∈ held) (h_there : (db.assets.find? assetId).isSome) :
    AssetView held assetId w db where
  guarantee h₁ h_v := h_view.guarantee (h₁.inv h_inv) h_v
  there h₁ h_v := by
    rw [h_view.assets_eq h_v]
    exact h₁.grow.assets assetId h_there
  snapshots := by
    intro db₁ db₂ v₁ v₂ h₁ h₂ h_v₁ h_v₂
    obtain ⟨asset, h_asset⟩ := Option.isSome_iff_exists.mp (h₁.grow.assets assetId h_there)
    rw [h_view.snapshotsOf_eq h_v₂, h_view.snapshotsOf_eq h_v₁]
    exact (rely_asset h₂ h_held h_asset).2.1

/-- An asset that has no row has no snapshots. -/
theorem snapshotsOf_eq_nil (h_inv : db.WellFormed) (h_none : db.assets.find? assetId = none) :
    db.snapshotsOf assetId = [] := by
  rw [Workspace.snapshotsOf, List.filter_eq_nil_iff]
  intro s h_s h_asset
  have h_there := h_inv.assetOfSnapshot s h_s
  rw [of_decide_eq_true h_asset, h_none] at h_there
  cases h_there

/-- An asset that the registration inserts is resolved, and has no snapshots. -/
theorem assetView_created (asset : DataAsset) (h_view : SessionView held uploadId w)
    (h_inv : db.WellFormed) (h_held : .asset asset.assetId ∈ held)
    (h_name : .assetName asset.assetName ∈ held) :
    AssetView held asset.assetId (fun db => (w db).bind (Workspace.insertAsset asset)) db := by
  -- the asset is inserted behind the workspace as it is at the commit
  have h_insert : ∀ {db₁ v}, workspaceDiscipline.rely held db db₁ →
      (w db₁).bind (Workspace.insertAsset asset) = some v → ∃ v₁ rows, w db₁ = some v₁ ∧
        v₁.WellFormed ∧ v₁.assets.insert asset = some rows ∧ v = { v₁ with assets := rows } ∧
        workspaceDiscipline.guarantee held db₁ v₁ := by
    intro db₁ v h₁ h_v
    obtain ⟨v₁, h_v₁, h_inserted⟩ := Option.bind_eq_some_iff.mp h_v
    obtain ⟨rows, h_rows, h_eq⟩ := Option.bind_eq_some_iff.mp h_inserted
    have h_guarantee := h_view.guarantee (h₁.inv h_inv) h_v₁
    exact ⟨v₁, rows, h_v₁, h_guarantee.inv, h_rows, (Option.some.inj h_eq).symm, h_guarantee⟩
  -- a new asset has no snapshots
  have h_empty : ∀ {db₁ v}, workspaceDiscipline.rely held db db₁ →
      (w db₁).bind (Workspace.insertAsset asset) = some v → v.snapshotsOf asset.assetId = [] := by
    intro db₁ v h₁ h_v
    obtain ⟨v₁, rows, -, h_inv₁, h_rows, rfl, -⟩ := h_insert h₁ h_v
    have h_nil : v₁.snapshotsOf asset.assetId = [] :=
      snapshotsOf_eq_nil h_inv₁ (Table.find?_none_of_insert h_rows)
    exact h_nil
  refine ⟨fun h₁ h_v => ?_, fun h₁ h_v => ?_, fun h₁ h₂ h_v₁ h_v₂ => ?_⟩
  · -- the insert touches the new asset and its name, both of which are locked
    obtain ⟨v₁, rows, -, h_inv₁, h_rows, rfl, h_guarantee⟩ := h_insert h₁ h_v
    refine h_guarantee.trans (guarantee_assets h_inv₁ (fun id h_some => ?_)
      (fun id h_id row h_row => ?_) fun name h_id h_free row h_row => ?_)
    · rw [Table.find?_of_insert h_rows]
      split
      · rfl
      · exact h_some
    · rw [Table.find?_of_insert h_rows, if_neg]
      · exact h_row
      · rintro rfl
        exact h_id h_held
    · rw [Table.rows_of_insert h_rows, List.mem_append, List.mem_singleton] at h_row
      rcases h_row with h_old | rfl
      · exact h_free row h_old
      · rintro rfl
        exact h_id h_name
  · obtain ⟨v₁, rows, -, -, h_rows, rfl, -⟩ := h_insert h₁ h_v
    show (rows.find? asset.assetId).isSome
    rw [Table.find?_of_insert h_rows, if_pos rfl]
    rfl
  · rw [h_empty (h₁.trans h₂) h_v₂, h_empty h₁ h_v₁]

/-- The asset of a session is found and locked, or created. -/
theorem wp_resolveAsset {K : Except RegistrationError Uuid → List RowLock →
      (Workspace → Option Workspace) → Workspace → Prop}
    (h_view : SessionView held uploadId w) (h_inv : db.WellFormed)
    (h_error : ∀ e held' db', workspaceDiscipline.rely held db db' → (∀ l ∈ held, l ∈ held') →
      (∀ v, AssetResolved session ids v (.error e) v) → K (.error e) held' w db')
    (h_ok : ∀ assetId held' w' db', workspaceDiscipline.rely held db db' →
      (∀ l ∈ held, l ∈ held') → .asset assetId ∈ held' → AssetView held' assetId w' db' →
      (∀ db₁ v', workspaceDiscipline.rely held' db' db₁ → w' db₁ = some v' →
        ∃ v, w db₁ = some v ∧ AssetResolved session ids v (.ok assetId) v') →
      K (.ok assetId) held' w' db') :
    workspaceDiscipline.wp (resolveAsset session ids) K held w db := by
  rw [resolveAsset]
  cases h_assetId : session.assetId with
  | some assetId =>
    -- the session names its asset, which is locked and read
    have h_sub : ∀ l ∈ held, l ∈ RowLock.asset assetId :: held :=
      fun l hl => List.mem_cons_of_mem _ hl
    simp only [Discipline.wp_bind, Discipline.wp_forUpdate, Discipline.wp_select]
    intro db₁ h₁ db₂ h₂ v₂ h_v₂
    have h_rely₂ := h₁.trans (h₂.mono h_sub)
    show workspaceDiscipline.wp (ite _ _ _) _ _ _ _
    split
    · rename_i h_there
      rw [h_view.assets_eq h_v₂] at h_there
      refine h_ok assetId _ w db₂ h_rely₂ h_sub List.mem_cons_self
        (assetView_existing (h_view.mono h_sub) (h_rely₂.inv h_inv) List.mem_cons_self h_there)
          fun db₃ v₃ h₃ h_v₃ => ⟨v₃, h_v₃, .existing assetId h_assetId ?_⟩
      rw [h_view.assets_eq h_v₃]
      exact h₃.grow.assets assetId h_there
    · exact h_error _ _ db₂ h_rely₂ h_sub fun v => .missing assetId h_assetId
  | none =>
    -- the session asks for a new asset by name
    cases h_name : session.assetName with
    | none => exact Discipline.wp_raise _
    | some name =>
      have h_sub : ∀ l ∈ held, l ∈ RowLock.assetName (pyStrip name) :: held :=
        fun l hl => List.mem_cons_of_mem _ hl
      simp only [Discipline.wp_bind, Discipline.wp_forUpdate, Discipline.wp_select]
      intro db₁ h₁ db₂ h₂ v₂ h_v₂
      have h_rely₂ := h₁.trans (h₂.mono h_sub)
      show workspaceDiscipline.wp (ite _ _ _) _ _ _ _
      split
      · -- the name is taken
        exact h_error _ _ db₂ h_rely₂ h_sub fun v => .taken name h_assetId h_name
      · -- the name is free, and stays so under its lock
        rename_i h_taken
        simp only [Discipline.wp_bind, Discipline.wp_forUpdate, Discipline.wp_exec]
        intro db₃ h₃
        have h_free : ∀ a ∈ db₂.assets.rows, a.assetName ≠ pyStrip name := by
          intro a h_a h_eq
          refine h_taken (List.any_eq_true.mpr ⟨a, ?_, decide_eq_true h_eq⟩)
          rw [h_view.assets_eq h_v₂]
          exact h_a
        have h_rely₃ := h_rely₂.trans (h₃.mono h_sub)
        have h_sub' : ∀ l ∈ held,
            l ∈ RowLock.asset ids.assetId :: RowLock.assetName (pyStrip name) :: held :=
          fun l hl => List.mem_cons_of_mem _ (h_sub l hl)
        have h_asset := assetView_created (newAsset session name ids) (h_view.mono h_sub')
          (h_rely₃.inv h_inv) List.mem_cons_self (List.mem_cons_of_mem _ List.mem_cons_self)
        refine h_ok ids.assetId _ _ db₃ h_rely₃ h_sub' List.mem_cons_self h_asset
          fun db₄ v₄ h₄ h_v₄ => ?_
        obtain ⟨v, h_v, h_inserted⟩ := Option.bind_eq_some_iff.mp h_v₄
        obtain ⟨rows, h_rows, h_eq⟩ := Option.bind_eq_some_iff.mp h_inserted
        obtain rfl := Option.some.inj h_eq
        refine ⟨v, h_v, .created name rows h_assetId h_name ?_ h_rows⟩
        rw [h_view.assets_eq h_v]
        -- the name is locked, so it stays free until the commit
        have h_name_held : RowLock.assetName (pyStrip name) ∈
            RowLock.asset ids.assetId :: RowLock.assetName (pyStrip name) :: held :=
          List.mem_cons_of_mem _ List.mem_cons_self
        exact h₄.same _ h_name_held (h₃.same (.assetName (pyStrip name)) List.mem_cons_self h_free)

/-! ### The request -/

/-- What `register_snapshot` does to the workspace that it sees. -/
inductive Registered (uploadId : Uuid) (acknowledgedWarnings : List String) (now : Time)
    (ids : RegistrationIds) (db : Workspace) :
    Except RegistrationError DatasetSnapshot → Workspace → Prop
  | notFound : Registered uploadId acknowledgedWarnings now ids db
      (.error ⟨"RESOURCE_NOT_FOUND", "Import session not found."⟩) db
  | replayed (session : UploadSession) (snapshot) : db.sessions.find? uploadId = some session →
      session.status = .registered → session.registeredSnapshotId = some snapshot.snapshotId →
      db.snapshots.find? snapshot.snapshotId = some snapshot →
      Registered uploadId acknowledgedWarnings now ids db (.ok snapshot) db
  | refused (session : UploadSession) (e) : db.sessions.find? uploadId = some session →
      checkRegistration acknowledgedWarnings now session = .error e →
      Registered uploadId acknowledgedWarnings now ids db (.error e) db
  | assetRefused (session : UploadSession) (source : SourceDescriptor) (e) :
      db.sessions.find? uploadId = some session →
      checkRegistration acknowledgedWarnings now session = .ok source →
      AssetResolved session ids db (.error e) db →
      Registered uploadId acknowledgedWarnings now ids db (.error e) db
  | resolved (session : UploadSession) (source : SourceDescriptor) (assetId : Uuid) (dbA answer)
      (db' : Workspace) : db.sessions.find? uploadId = some session →
      checkRegistration acknowledgedWarnings now session = .ok source →
      AssetResolved session ids db (.ok assetId) dbA →
      SnapshotAdded session source assetId ids now dbA answer db' →
      Registered uploadId acknowledgedWarnings now ids db answer db'

/-- A repeated registration answers the snapshot of the first. -/
theorem wp_replayedSnapshot {K : Option DatasetSnapshot → List RowLock →
      (Workspace → Option Workspace) → Workspace → Prop}
    (h_none : ∀ db', workspaceDiscipline.rely held db db' → K none held w db')
    (h_some : ∀ db' v snapshot, workspaceDiscipline.rely held db db' → w db' = some v →
      session.status = .registered → session.registeredSnapshotId = some snapshot.snapshotId →
      v.snapshots.find? snapshot.snapshotId = some snapshot → K (some snapshot) held w db') :
    workspaceDiscipline.wp (replayedSnapshot session) K held w db := by
  rw [replayedSnapshot]
  split
  · rename_i snapshotId h_status h_registered
    intro db₁ h₁ v h_v
    cases h_find : v.snapshots.find? snapshotId with
    | none =>
      show K (v.snapshots.find? snapshotId) held w db₁
      rw [h_find]
      exact h_none db₁ h₁
    | some snapshot =>
      show K (v.snapshots.find? snapshotId) held w db₁
      rw [h_find]
      obtain ⟨-, rfl⟩ := Table.find?_eq_some_iff.mp h_find
      exact h_some db₁ v snapshot h₁ h_v h_status h_registered h_find
  · exact h_none db (.refl held db)

/-- What a registration reads under its locks is still true when it commits. -/
theorem wp_registerSnapshot (acknowledgedWarnings : List String) (h_inv : db.WellFormed)
    (h_view : SessionView (.session uploadId :: held) uploadId w) :
    workspaceDiscipline.wp (registerSnapshot uploadId acknowledgedWarnings now ids)
      (workspaceDiscipline.commits fun answer db db' => ∃ v, w db = some v ∧
        Registered uploadId acknowledgedWarnings now ids v answer db') held w db := by
  have h_sub : ∀ l ∈ held, l ∈ RowLock.session uploadId :: held :=
    fun l hl => List.mem_cons_of_mem _ hl
  simp only [registerSnapshot, Discipline.wp_bind, Discipline.wp_forUpdate, Discipline.wp_select]
  intro db₁ h₁ db₂ h₂ v₂ h_v₂
  have h_inv₂ := h₂.inv (h₁.inv h_inv)
  -- a rejection commits what was written before
  have h_refused : ∀ e held' db₃, workspaceDiscipline.rely (.session uploadId :: held) db₂ db₃ →
      (∀ l ∈ RowLock.session uploadId :: held, l ∈ held') →
      (∀ db₄ v, workspaceDiscipline.rely (.session uploadId :: held) db₂ db₄ → w db₄ = some v →
        Registered uploadId acknowledgedWarnings now ids v (.error e) v) →
      workspaceDiscipline.commits (fun answer db db' => ∃ v, w db = some v ∧
        Registered uploadId acknowledgedWarnings now ids v answer db') (.error e) held' w db₃ := by
    intro e held' db₃ h₃ h_sub' h_registered db₄ h₄ v₄ h_v₄
    have h_rely₄ := h₃.trans (h₄.mono h_sub')
    exact ⟨(h_view.guarantee (h_rely₄.inv h_inv₂) h_v₄).mono h_sub', v₄, h_v₄,
      h_registered db₄ v₄ h_rely₄ h_v₄⟩
  cases h_find : v₂.sessions.find? uploadId with
  | none =>
    exact h_refused _ _ db₂ (.refl _ _) (fun _ => id) fun _ _ _ _ => .notFound
  | some session =>
    -- the session is locked, so it is the one that was read
    have h_session : ∀ db₃ v, workspaceDiscipline.rely (.session uploadId :: held) db₂ db₃ →
        w db₃ = some v → v.sessions.find? uploadId = some session :=
      fun db₃ v h₃ h_v => h_view.stays h₃ h_v₂ h_v h_find
    show workspaceDiscipline.wp _ _ _ _ _
    rw [Discipline.wp_bind]
    refine wp_replayedSnapshot (fun db₃ h₃ => ?_)
      fun db₃ v₃ snapshot h₃ h_v₃ h_status h_registered h_snapshot => ?_
    · -- nothing was registered before, so the checks decide
      cases h_check : checkRegistration acknowledgedWarnings now session with
      | error e =>
        exact h_refused e _ db₃ h₃ (fun _ => id) fun db₄ v₄ h₄ h_v₄ =>
          .refused session e (h_session db₄ v₄ h₄ h_v₄) h_check
      | ok source =>
        rw [Discipline.wp_bind]
        -- the asset is found or created, and the version added under its lock
        refine wp_resolveAsset h_view (h₃.inv h_inv₂) (fun e held' db₄ h₄ h_sub' h_asset => ?_)
          fun assetId held' w' db₄ h₄ h_sub' h_held h_asset h_resolved => ?_
        · exact h_refused e held' db₄ (h₃.trans h₄) h_sub' fun db₅ v₅ h₅ h_v₅ =>
            .assetRefused session source e (h_session db₅ v₅ h₅ h_v₅) h_check (h_asset v₅)
        · obtain ⟨-, h_uploadId⟩ := Table.find?_eq_some_iff.mp h_find
          have h_session_held : .session session.uploadId ∈ held' := by
            rw [h_uploadId]
            exact h_sub' _ List.mem_cons_self
          -- session and asset are still what was read
          have h_known : ∀ db₅ v', workspaceDiscipline.rely held' db₄ db₅ → w' db₅ = some v' →
              ∃ v, w db₅ = some v ∧ v.sessions.find? uploadId = some session ∧
                AssetResolved session ids v (.ok assetId) v' := by
            intro db₅ v' h₅ h_v'
            obtain ⟨v, h_v, h_asset'⟩ := h_resolved db₅ v' h₅ h_v'
            have h_rely₅ := (h₃.trans h₄).trans (h₅.mono h_sub')
            exact ⟨v, h_v, h_session db₅ v h_rely₅ h_v, h_asset'⟩
          refine Discipline.wp_mono (fun answer held₅ w₅ db₅ h_commits db₆ h₆ db' h_db' => ?_)
            (wp_addSnapshot h_asset h_session_held h_held h_known)
          obtain ⟨h_guarantee, v', ⟨v, h_v, h_found, h_asset'⟩, h_done⟩ :=
            h_commits db₆ h₆ db' h_db'
          exact ⟨h_guarantee, v, h_v,
            .resolved session source assetId v' answer db' h_found h_check h_asset' h_done⟩
    · -- a registration of before is answered again
      intro db₄ h₄ v₄ h_v₄
      have h_rely₄ := h₃.trans h₄
      refine ⟨h_view.guarantee (h_rely₄.inv h_inv₂) h_v₄, v₄, h_v₄,
        .replayed session snapshot (h_session db₄ v₄ h_rely₄ h_v₄) h_status h_registered ?_⟩
      rw [h_view.frame h_v₃] at h_snapshot
      rw [h_view.frame h_v₄]
      exact h₄.grow.snapshots _ _ h_snapshot

/-- A registration commits one new version, the one that was registered before, or an error.
-/
theorem meets_registerSnapshot (uploadId : Uuid) (acknowledgedWarnings : List String) (now : Time)
    (ids : RegistrationIds) :
    workspaceDiscipline.Meets (registerSnapshot uploadId acknowledgedWarnings now ids)
      fun answer db db' => Registered uploadId acknowledgedWarnings now ids db answer db' := by
  intro db h_inv
  have h_view : SessionView [.session uploadId] uploadId some := sessionView_some List.mem_cons_self
  refine Discipline.wp_mono (fun answer held w db₁ h_commits db₂ h₂ db' h_db' => ?_)
    (wp_registerSnapshot acknowledgedWarnings h_inv h_view)
  obtain ⟨h_guarantee, v, h_v, h_registered⟩ := h_commits db₂ h₂ db' h_db'
  obtain rfl := Option.some.inj h_v
  exact ⟨h_guarantee, h_registered⟩

/-- What the migration of a legacy snapshot commits: its session, registered. -/
def SnapshotMigrated (m : LegacyMigration) (now : Time) (ids : RegistrationIds)
    (snapshot : DatasetSnapshot) (db db' : Workspace) : Prop :=
  ∃ rows, db.sessions.insert (m.session now) = some rows ∧
    Registered m.uploadId m.inspection.warnings now ids { db with sessions := rows }
      (.ok snapshot) db'

/-- A migration inserts one snapshot without a session. -/
theorem meets_migrateSnapshot (m : LegacyMigration) (now : Time) (ids : RegistrationIds) :
    workspaceDiscipline.Meets (migrateSnapshot m now ids)
      fun snapshot db db' => SnapshotMigrated m now ids snapshot db db' := by
  intro db h_inv
  simp only [migrateSnapshot, Discipline.wp_bind, Discipline.wp_forUpdate, Discipline.wp_exec]
  intro db₁ h₁
  have h_view : SessionView [.session m.uploadId, .session m.uploadId] m.uploadId
      (Workspace.insertSession (m.session now)) :=
    sessionView_insertSession (m.session now) List.mem_cons_self
  refine Discipline.wp_mono (fun answer held w db₂ h_commits => ?_)
    (wp_registerSnapshot m.inspection.warnings (h₁.inv h_inv) h_view)
  cases answer with
  | error e => exact Discipline.wp_raise _
  | ok snapshot =>
    intro db₃ h₃ db' h_db'
    obtain ⟨h_guarantee, v, h_v, h_registered⟩ := h_commits db₃ h₃ db' h_db'
    obtain ⟨rows, h_rows, rfl⟩ := insertSession_eq_some h_v
    exact ⟨h_guarantee, rows, h_rows, h_registered⟩

end Steps

end DqScoring
