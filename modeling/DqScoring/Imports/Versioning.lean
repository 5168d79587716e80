import DqScoring.Imports.SessionLifecycle

/-!
# The versions of an asset

A registration computes its version number, counts the asset up and looks for a duplicate
under the lock of the asset, so that what it read still holds when it commits
(`RegistrationSteps`). From this the versions of every asset are `1, …, n`, and no content
is stored twice. The lock of the session makes a replay answer with the same snapshot.
-/

namespace DqScoring

open Framework Relation

/-! ### Events -/

/-- The session whose registration a request asks for. -/
def ImportRequest.registers : ImportRequest → Option Uuid
  | register uploadId _ _ _ => some uploadId
  | migrate m _ _ => some m.uploadId
  | _ => none

/-- The session and the snapshot of a registration that succeeded, or was replayed. -/
def registrationOf : WorkspaceEvent → Option (Uuid × DatasetSnapshot)
  | .committed _ (.importing request) (.importing (.registered (.ok snapshot))) =>
    request.registers.map fun uploadId => (uploadId, snapshot)
  | _ => none

/-! ### What a registration reads -/

/-- A session is registered as a snapshot. -/
def RegisteredAs (db : Workspace) (uploadId snapshotId : Uuid) : Prop :=
  ∃ session, db.sessions.find? uploadId = some session ∧ session.status = .registered ∧
    session.registeredSnapshotId = some snapshotId

/-- A session is one for an asset that exists already. -/
def TargetsAsset (db : Workspace) (uploadId assetId : Uuid) : Prop :=
  ∃ session, db.sessions.find? uploadId = some session ∧ session.assetId = some assetId

/-- A change that registers nothing. -/
structure KeepsVersions (db db' : Workspace) : Prop where
  assets : db'.assets = db.assets
  snapshots : db'.snapshots = db.snapshots
  registered : ∀ uploadId snapshotId,
    RegisteredAs db' uploadId snapshotId ↔ RegisteredAs db uploadId snapshotId
  targets : ∀ uploadId assetId, TargetsAsset db uploadId assetId → TargetsAsset db' uploadId assetId

section Changes

variable {db db' : Workspace} {uploadId assetId : Uuid}

/-- A move that touches none of the three tables keeps the versions. -/
theorem KeepsVersions.of_eq (h_assets : db'.assets = db.assets)
    (h_snapshots : db'.snapshots = db.snapshots) (h_sessions : db'.sessions = db.sessions) :
    KeepsVersions db db' := by
  refine ⟨h_assets, h_snapshots, fun _ _ => ?_, fun _ _ => ?_⟩
  · rw [RegisteredAs, RegisteredAs, h_sessions]
  · rw [TargetsAsset, TargetsAsset, h_sessions]
    exact id

/-- Only a registration moves a session to REGISTERED. -/
theorem SessionMove.was_registered {request : ImportRequest} {result : ImportResult}
    {session session' : UploadSession} (h : SessionMove request result session session')
    (h_other : request.registers = none) (h_status : session'.status = .registered) :
    session.status = .registered := by
  cases h with
  | recorded _ _ _ _ part =>
    by_cases h_initiated : session.status = .initiated
    · rw [UploadSession.recordPart, h_initiated] at h_status
      cases h_status
    · rwa [recordPart_status part h_initiated] at h_status
  | extended => exact h_status
  | processed _ _ _ _ _ ended => cases ended <;> cases h_status
  | registered => cases h_other
  | _ => cases h_status

/-- Only a registration gives a session its asset. -/
theorem SessionMove.assetId_eq {request : ImportRequest} {result : ImportResult}
    {session session' : UploadSession} (h : SessionMove request result session session')
    (h_other : request.registers = none) : session'.assetId = session.assetId := by
  cases h with
  | processed _ _ _ _ _ ended => cases ended <;> rfl
  | registered => cases h_other
  | _ => rfl

/-- An import request other than a registration keeps the versions. -/
theorem keepsVersions_of_sessionsChange {request : ImportRequest} {result : ImportResult}
    (h : SessionsChange db.sessions db'.sessions request result)
    (h_other : request.registers = none) (h_assets : db'.assets = db.assets)
    (h_snapshots : db'.snapshots = db.snapshots) : KeepsVersions db db' := by
  refine ⟨h_assets, h_snapshots, fun id snapshotId => ⟨?_, ?_⟩, fun id assetId => ?_⟩
  · -- a registered session was registered before
    rintro ⟨session', h_find', h_status', h_snapshot⟩
    cases h_find : db.sessions.find? id with
    | none =>
      -- a new session is not registered
      cases h with
      | migrated => cases h_other
      | created row _ _ h_insert h_new =>
        -- the created one is fresh
        rw [Table.find?_of_insert h_insert, h_find] at h_find'
        split at h_find'
        · obtain rfl := Option.some.inj h_find'
          rcases h_new with h_new | h_new <;> rw [h_new] at h_status' <;> cases h_status'
        · cases h_find'
      | kept _ _ h_eq =>
        rw [h_eq, h_find] at h_find'
        cases h_find'
      | moved row f _ _ hf h_row _ h_eq =>
        -- a move needs a session that is there
        rw [h_eq, Table.find?_update] at h_find'
        split at h_find'
        · rename_i h_id
          rw [← h_id, h_find] at h_row
          cases h_row
        · rw [h_find] at h_find'
          cases h_find'
    | some session =>
      -- registration is the only move to registered
      obtain ⟨session₁, h_find₁, h_same⟩ := h.find? h_find
      rw [h_find'] at h_find₁
      obtain rfl := Option.some.inj h_find₁
      rcases h_same with rfl | h_move
      · exact ⟨_, h_find, h_status', h_snapshot⟩
      · have h_status := h_move.was_registered h_other h_status'
        exact ⟨session, h_find, h_status, (h_move.registered_stays h_status).2 ▸ h_snapshot⟩
  · -- and stays registered with its snapshot
    rintro ⟨session, h_find, h_status, h_snapshot⟩
    obtain ⟨session', h_find', rfl | h_move⟩ := h.find? h_find
    · exact ⟨_, h_find', h_status, h_snapshot⟩
    · obtain ⟨h_status', h_eq⟩ := h_move.registered_stays h_status
      exact ⟨session', h_find', h_status', h_eq.trans h_snapshot⟩
  · -- the target stays, too
    rintro ⟨session, h_find, h_asset⟩
    obtain ⟨session', h_find', rfl | h_move⟩ := h.find? h_find
    · exact ⟨_, h_find', h_asset⟩
    · exact ⟨session', h_find', (h_move.assetId_eq h_other).trans h_asset⟩

/-- Only a registration changes assets or snapshots. -/
theorem tables_of_importPost {request : ImportRequest} {result : ImportResult}
    (h : ImportPost request result db db') (h_other : request.registers = none) :
    db'.assets = db.assets ∧ db'.snapshots = db.snapshots := by
  cases h with
  | created _ _ _ _ _ _ _ _ _ h_created =>
    cases h_created <;> rw [initialized_frame db] <;> exact ⟨rfl, rfl⟩
  | partUploaded _ _ _ _ _ _ _ h_uploaded => cases h_uploaded <;> exact ⟨rfl, rfl⟩
  | completed _ _ _ _ _ _ _ _ h_changed => rw [h_changed.frame]; exact ⟨rfl, rfl⟩
  | configured _ _ _ _ _ _ h_changed => rw [h_changed.frame]; exact ⟨rfl, rfl⟩
  | aborted _ _ _ _ _ h_changed => rw [h_changed.frame]; exact ⟨rfl, rfl⟩
  | claimed _ _ _ _ _ _ _ _ h_claimed => cases h_claimed <;> exact ⟨rfl, rfl⟩
  | extended _ _ _ _ _ _ _ _ _ h_updated => rw [h_updated.frame]; exact ⟨rfl, rfl⟩
  | processed _ _ _ _ _ _ _ _ h_processed =>
    rw [h_processed.fenced.frame, initialized_frame db]
    exact ⟨rfl, rfl⟩
  | registered => cases h_other
  | migrated => cases h_other

/-- The session that the command inserts is not registered yet. -/
theorem keepsVersions_insertSession {row : UploadSession} {rows : Table UploadSession.uploadId}
    (h_insert : db.sessions.insert row = some rows) (h_status : row.status ≠ .registered) :
    KeepsVersions db { db with sessions := rows } := by
  have h_old : ∀ {id session}, db.sessions.find? id = some session →
      rows.find? id = some session := fun h_find => find?_of_insert_of_find? h_insert h_find
  refine ⟨rfl, rfl, fun id snapshotId => ⟨?_, ?_⟩, fun id assetId => ?_⟩
  · rintro ⟨session, h_find, h_registered, h_snapshot⟩
    rw [show Workspace.sessions { db with sessions := rows } = rows from rfl,
      Table.find?_of_insert h_insert] at h_find
    split at h_find
    · obtain rfl := Option.some.inj h_find
      exact absurd h_registered h_status
    · exact ⟨session, h_find, h_registered, h_snapshot⟩
  · rintro ⟨session, h_find, h_rest⟩
    exact ⟨session, h_old h_find, h_rest⟩
  · rintro ⟨session, h_find, h_asset⟩
    exact ⟨session, h_old h_find, h_asset⟩

/-- A request registers nothing, or it is a registration. -/
theorem versions_of_post {request : WorkspaceRequest} {result : WorkspaceResult}
    (h : WorkspacePost request result db db') :
    (KeepsVersions db db' ∧ ∀ i, registrationOf (.committed i request result) = none) ∨
    ∃ uploadId acknowledgedWarnings now ids answer rows,
      KeepsVersions db { db with sessions := rows } ∧
      Registered uploadId acknowledgedWarnings now ids { db with sessions := rows } answer db' ∧
      ∀ i, registrationOf (.committed i request result)
        = answer.toOption.map fun snapshot => (uploadId, snapshot) := by
  have h_refl : KeepsVersions db db := .of_eq rfl rfl rfl
  -- only a registration adds a version
  cases h with
  | rule _ _ _ _ h_rule =>
    refine .inl ⟨.of_eq ?_ ?_ ?_, fun _ => rfl⟩ <;> rw [h_rule.frame]
  | scan _ _ _ _ h_scan =>
    refine .inl ⟨.of_eq ?_ ?_ ?_, fun _ => rfl⟩ <;> rw [h_scan.frame]
  | protection _ _ _ _ h_protection =>
    refine .inl ⟨.of_eq ?_ ?_ ?_, fun _ => rfl⟩ <;> rw [h_protection.frame]
  | importing request result _ _ h_import =>
    cases h_registers : request.registers with
    | none =>
      -- another import request keeps what is registered
      obtain ⟨h_assets, h_snapshots⟩ := tables_of_importPost h_import h_registers
      refine .inl ⟨keepsVersions_of_sessionsChange (sessionsChange_of_importPost h_import)
        h_registers h_assets h_snapshots, fun i => ?_⟩
      unfold registrationOf
      split
      · rename_i h_event
        cases h_event
        rw [h_registers]
        rfl
      · rfl
    | some uploadId =>
      -- the registration, alone or as part of the migration
      cases h_import with
      | registered _ acknowledgedWarnings now ids answer _ _ h_registered =>
        obtain rfl := Option.some.inj h_registers
        exact .inr ⟨_, acknowledgedWarnings, now, ids, answer, db.sessions, h_refl, h_registered,
          fun _ => by cases answer <;> rfl⟩
      | migrated m now ids snapshot _ _ h_migrated =>
        obtain ⟨rows, h_rows, h_registered⟩ := h_migrated
        have h_status : (m.session now).status ≠ .registered := fun h_eq => by cases h_eq
        exact .inr ⟨_, _, now, ids, _, _, keepsVersions_insertSession h_rows h_status, h_registered,
          fun _ => rfl⟩
      | _ => cases h_registers

end Changes

/-! ### What a registration does -/

section Registrations

variable {db db' : Workspace} {uploadId assetId : Uuid} {acknowledgedWarnings : List String}
  {now : Time} {ids : RegistrationIds} {answer : Except RegistrationError DatasetSnapshot}

/-- A duplicate is a snapshot of the asset with the same content. -/
theorem mem_of_duplicateOf {sha : String} {existing : DatasetSnapshot}
    (h : db.duplicateOf assetId sha = some existing) :
    existing ∈ db.snapshots.rows ∧ existing.assetId = assetId ∧ existing.contentSha256 = sha ∧
      existing.sourceKind = .objectFile := by
  have h_found := List.find?_some h
  rw [Bool.and_eq_true, decide_eq_true_eq, decide_eq_true_eq] at h_found
  obtain ⟨h_mem, h_asset⟩ := List.mem_filter.mp (List.mem_of_find?_eq_some h)
  exact ⟨h_mem, of_decide_eq_true h_asset, h_found⟩

/-- An asset that was created has no duplicates. -/
theorem eq_of_duplicateOf {session : UploadSession} {sha : String} {existing : DatasetSnapshot}
    {dbA : Workspace} (h_inv : db.WellFormed)
    (h_asset : AssetResolved session ids db (.ok assetId) dbA)
    (h : dbA.duplicateOf assetId sha = some existing) : dbA = db := by
  cases h_asset with
  | existing => rfl
  | created _ rows _ _ _ h_rows =>
    obtain ⟨h_mem, h_asset, -⟩ := mem_of_duplicateOf h
    have h_there := h_inv.assetOfSnapshot existing h_mem
    rw [h_asset, show ids.assetId = (newAsset session _ ids).assetId from rfl,
      Table.find?_none_of_insert h_rows] at h_there
    cases h_there

/-- A rejected registration changes nothing. -/
theorem Registered.eq_of_error (h_inv : db.WellFormed) {e : RegistrationError}
    (h : Registered uploadId acknowledgedWarnings now ids db (.error e) db') : db' = db := by
  cases h with
  | resolved _ _ _ _ _ _ _ _ h_asset h_added =>
    cases h_added with
    | conflict _ h_duplicate => exact eq_of_duplicateOf h_inv h_asset h_duplicate
  | _ => rfl

/-- The session of a registration that succeeds is registered as the snapshot of its answer. -/
theorem Registered.registeredAs {snapshot : DatasetSnapshot}
    (h : Registered uploadId acknowledgedWarnings now ids db (.ok snapshot) db') :
    RegisteredAs db' uploadId snapshot.snapshotId ∧
      db'.snapshots.find? snapshot.snapshotId = some snapshot := by
  have h_sessions := sessions_of_registered h
  refine ⟨?_, ?_⟩
  · rcases h_sessions with ⟨h_eq, h_answer⟩ | ⟨session, assetId, _, h_ok, h_find, -, h_eq⟩
    · rw [RegisteredAs, h_eq]
      exact h_answer snapshot rfl
    · obtain rfl := Except.ok.inj h_ok
      refine ⟨session.register assetId snapshot.snapshotId, ?_, rfl, rfl⟩
      rw [h_eq, Table.find?_update, if_pos rfl, h_find]
      rfl
  · cases h with
    | replayed _ _ _ _ _ h_snapshot => exact h_snapshot
    | resolved _ _ _ _ _ _ _ _ _ h_added =>
      cases h_added with
      | duplicate _ h_duplicate =>
        exact Table.find?_eq_some_iff.mpr ⟨(mem_of_duplicateOf h_duplicate).1, rfl⟩
      | created _ _ h_version =>
        exact (Table.find?_of_insert h_version.snapshots _).trans (if_pos rfl)

/-- A registration keeps the sessions that are registered already. -/
theorem Registered.keeps_registered
    (h : Registered uploadId acknowledgedWarnings now ids db answer db') {id snapshotId : Uuid}
    (h_registered : RegisteredAs db id snapshotId) : RegisteredAs db' id snapshotId := by
  obtain ⟨session, h_find, h_status, h_snapshot⟩ := h_registered
  rcases sessions_of_registered h with ⟨h_eq, -⟩ | ⟨session', _, _, -, h_find', h_status', h_eq⟩
  · rw [RegisteredAs, h_eq]
    exact ⟨session, h_find, h_status, h_snapshot⟩
  · refine ⟨session, ?_, h_status, h_snapshot⟩
    rw [h_eq, Table.find?_update, if_neg]
    · exact h_find
    · rintro rfl
      rw [h_find] at h_find'
      rw [← Option.some.inj h_find', h_status] at h_status'
      cases h_status'

/-- A registration keeps the asset that a session is for. -/
theorem Registered.keeps_targets
    (h : Registered uploadId acknowledgedWarnings now ids db answer db') {id assetId' : Uuid}
    (h_targets : TargetsAsset db id assetId') : TargetsAsset db' id assetId' := by
  cases h with
  | resolved session _ assetId dbA _ _ h_find _ h_asset h_added =>
    obtain ⟨session', h_find', h_assetId'⟩ := h_targets
    have h_dbA : dbA.sessions = db.sessions := by
      cases h_asset <;> rfl
    have h_updated : ∀ {snapshotId} {table : Table UploadSession.uploadId}, table =
        db.sessions.update session.uploadId (UploadSession.register assetId snapshotId)
          (keepsUploadId_register assetId snapshotId) →
        ∃ row, table.find? id = some row ∧ row.assetId = some assetId' := by
      intro snapshotId table h_table
      rw [h_table, Table.find?_update]
      split
      · rename_i h_id
        rw [(Table.find?_eq_some_iff.mp h_find).2] at h_id ⊢
        rw [h_id, h_find] at h_find'
        obtain rfl := Option.some.inj h_find'
        refine ⟨session.register assetId snapshotId, by rw [h_find]; rfl, ?_⟩
        -- the asset that is resolved is the one of the session
        cases h_asset with
        | existing _ h_assetId => exact h_assetId.symm.trans h_assetId'
        | created _ _ h_assetId =>
          rw [h_assetId] at h_assetId'
          cases h_assetId'
      · exact ⟨session', h_find', h_assetId'⟩
    cases h_added with
    | conflict =>
      rw [TargetsAsset, h_dbA]
      exact ⟨session', h_find', h_assetId'⟩
    | duplicate => exact h_updated (by rw [← h_dbA]; rfl)
    | created _ _ h_version => exact h_updated (by rw [h_version.eq, ← h_dbA]; rfl)
  | _ => exact h_targets

end Registrations

/-! ### The invariant -/

/-- The snapshots of an asset are its versions `1, …, versionCount`, and the current one is the
last. -/
structure VersionsOf (db : Workspace) (asset : DataAsset) : Prop where
  versions : (db.snapshotsOf asset.assetId).map DatasetSnapshot.versionNumber
    = List.range' 1 asset.versionCount
  current : asset.currentSnapshotId
    = ((db.snapshotsOf asset.assetId).find? fun s =>
        decide (s.versionNumber = asset.versionCount)).map DatasetSnapshot.snapshotId

/-- A tenant whose assets have no snapshots yet. -/
structure Unversioned (db : Workspace) : Prop where
  wellFormed : db.WellFormed
  noSnapshots : db.snapshots = Table.empty
  assets : ∀ asset ∈ db.assets.rows, asset.versionCount = 0 ∧ asset.currentSnapshotId = none
  sessions : ∀ session ∈ db.sessions.rows, session.status ≠ .registered

/-- What holds of the assets and their snapshots. -/
structure VersionedTables (db : Workspace) : Prop where
  assets : ∀ asset ∈ db.assets.rows, VersionsOf db asset
  objectFiles : ∀ s ∈ db.snapshots.rows, s.sourceKind = .objectFile
  fileIndex : db.snapshots.HasUniqueIndex Workspace.objectFileKey

/-- What holds of the versions and of the registrations that are committed. -/
structure Versioned (db : Workspace) (log : List WorkspaceEvent) : Prop extends
    VersionedTables db where
  registered : ∀ e ∈ log, ∀ uploadId snapshot, registrationOf e = some (uploadId, snapshot) →
    RegisteredAs db uploadId snapshot.snapshotId ∧
      db.snapshots.find? snapshot.snapshotId = some snapshot

/-- The largest of consecutive numbers is the last. -/
theorem foldr_max_range' (s n : ℕ) :
    (List.range' (s + 1) n).foldr max 0 = if n = 0 then 0 else s + n := by
  induction n generalizing s with
  | zero => rfl
  | succ n ih =>
    rw [List.range'_succ, List.foldr_cons, ih]
    split <;> simp <;> omega

/-- `MAX(version_number) + 1` is the number of the next version. -/
theorem VersionsOf.nextVersion_eq {db : Workspace} {asset : DataAsset} (h : VersionsOf db asset) :
    db.nextVersion asset.assetId = asset.versionCount + 1 := by
  rw [Workspace.nextVersion, h.versions, foldr_max_range' 0]
  split <;> omega

section Invariant

variable {db db' : Workspace} {log : List WorkspaceEvent}

/-- The versions of an asset depend on its snapshots only. -/
theorem VersionsOf.congr {asset : DataAsset} (h : VersionsOf db asset)
    (h_snapshots : db'.snapshotsOf asset.assetId = db.snapshotsOf asset.assetId) :
    VersionsOf db' asset := by
  refine ⟨?_, ?_⟩
  · rw [h_snapshots]
    exact h.versions
  · rw [h_snapshots]
    exact h.current

/-- An asset after a new version. -/
theorem VersionsOf.addVersion {asset : DataAsset} (h : VersionsOf db asset)
    {snapshot : DatasetSnapshot} (h_version : snapshot.versionNumber = asset.versionCount + 1)
    (h_snapshots : db'.snapshotsOf asset.assetId = db.snapshotsOf asset.assetId ++ [snapshot]) :
    VersionsOf db' (asset.addVersion snapshot.snapshotId) := by
  have h_snapshots' : db'.snapshotsOf (asset.addVersion snapshot.snapshotId).assetId
      = db.snapshotsOf asset.assetId ++ [snapshot] := h_snapshots
  refine ⟨?_, ?_⟩
  · rw [h_snapshots', List.map_append, h.versions, List.map_singleton, h_version]
    show _ = List.range' 1 (asset.versionCount + 1)
    rw [List.range'_concat, Nat.one_mul, Nat.add_comm 1]
  · -- no earlier version has the new number
    have h_earlier : (db.snapshotsOf asset.assetId).find? (fun s =>
        decide (s.versionNumber = (asset.addVersion snapshot.snapshotId).versionCount)) = none := by
      refine List.find?_eq_none.mpr fun s h_s => ?_
      have h_range : s.versionNumber ∈ List.range' 1 asset.versionCount :=
        h.versions ▸ List.mem_map_of_mem h_s
      rw [List.mem_range'_1] at h_range
      rw [decide_eq_true_eq]
      show ¬ s.versionNumber = asset.versionCount + 1
      omega
    rw [h_snapshots', List.find?_append, h_earlier, Option.none_or, List.find?_singleton, if_pos]
    · rfl
    · exact decide_eq_true h_version

/-- The versions depend on assets and snapshots only. -/
theorem VersionedTables.congr (h : VersionedTables db) (h_assets : db'.assets = db.assets)
    (h_snapshots : db'.snapshots = db.snapshots) : VersionedTables db' := by
  refine ⟨fun asset h_asset => ?_, ?_, ?_⟩
  · rw [h_assets] at h_asset
    refine (h.assets asset h_asset).congr ?_
    rw [Workspace.snapshotsOf, h_snapshots]
    rfl
  · rw [h_snapshots]
    exact h.objectFiles
  · rw [h_snapshots]
    exact h.fileIndex

/-- An asset that a registration creates has no versions. -/
theorem VersionedTables.resolved (h : VersionedTables db) (h_inv : db.WellFormed)
    {session : UploadSession} {ids : RegistrationIds} {assetId : Uuid} {dbA : Workspace}
    (h_asset : AssetResolved session ids db (.ok assetId) dbA) : VersionedTables dbA := by
  cases h_asset with
  | existing => exact h
  | created name rows _ _ _ h_rows =>
    refine ⟨fun asset h_mem => ?_, h.objectFiles, h.fileIndex⟩
    rw [show Workspace.assets { db with assets := rows } = rows from rfl,
      Table.rows_of_insert h_rows, List.mem_append, List.mem_singleton] at h_mem
    rcases h_mem with h_old | rfl
    · exact (h.assets asset h_old).congr rfl
    · have h_none : db.snapshotsOf (newAsset session name ids).assetId = [] :=
        snapshotsOf_eq_nil h_inv (Table.find?_none_of_insert h_rows)
      have h_new : VersionsOf db (newAsset session name ids) := by
        refine ⟨?_, ?_⟩
        · rw [h_none]
          rfl
        · rw [h_none]
          rfl
      exact h_new.congr rfl

/-- A new version of an asset. -/
theorem VersionedTables.versionAdded (h : VersionedTables db) {session : UploadSession}
    {source : SourceDescriptor} {assetId : Uuid} {ids : RegistrationIds} {now : Time}
    (h_added : VersionAdded session
      (newSnapshot session source assetId (db.nextVersion assetId) ids) ids now db db') :
    VersionedTables db' := by
  generalize h_snapshot : newSnapshot session source assetId (db.nextVersion assetId) ids = snapshot
    at h_added
  have h_rows := Table.rows_of_insert h_added.snapshots
  have h_snapshotsOf : ∀ id, db'.snapshotsOf id
      = db.snapshotsOf id ++ if snapshot.assetId = id then [snapshot] else [] := by
    intro id
    rw [Workspace.snapshotsOf, h_rows, List.filter_append, List.filter_singleton]
    -- the snapshots of the asset grew by one, the others did not
    by_cases h_id : snapshot.assetId = id
    · rw [if_pos h_id, decide_eq_true h_id]
      rfl
    · rw [if_neg h_id, decide_eq_false h_id]
      rfl
  -- the numbers of every asset, the files and the index
  refine ⟨fun asset h_asset => ?_, fun s h_s => ?_, h_added.fileIndex⟩
  · rw [h_added.eq] at h_asset
    obtain ⟨asset₀, h_asset₀, rfl⟩ := List.mem_map.mp h_asset
    have h_before := h.assets asset₀ h_asset₀
    by_cases h_id : asset₀.assetId = snapshot.assetId
    · rw [if_pos (decide_eq_true h_id)]
      have h_next : snapshot.versionNumber = asset₀.versionCount + 1 := by
        subst h_snapshot
        -- the number is the next one
        have h_assetId : asset₀.assetId = assetId := h_id
        rw [← h_before.nextVersion_eq, h_assetId]
        rfl
      subst h_snapshot
      refine h_before.addVersion h_next ?_
      rw [h_snapshotsOf, if_pos h_id.symm]
    · -- another asset has the same snapshots
      rw [if_neg (by simpa using h_id)]
      refine h_before.congr ?_
      rw [h_snapshotsOf, if_neg (Ne.symm h_id), List.append_nil]
  · rw [h_rows, List.mem_append, List.mem_singleton] at h_s
    -- the new snapshot keeps its own file
    rcases h_s with h_old | rfl
    · exact h.objectFiles s h_old
    · rw [← h_snapshot]
      rfl

/-- A registration gives the new snapshot the next number of its asset, and the previous one
as its parent. -/
theorem VersionedTables.registered (h : VersionedTables db) (h_inv : db.WellFormed)
    {uploadId : Uuid} {acknowledgedWarnings : List String} {now : Time} {ids : RegistrationIds}
    {answer : Except RegistrationError DatasetSnapshot}
    (h_registered : Registered uploadId acknowledgedWarnings now ids db answer db') :
    VersionedTables db' := by
  cases h_registered with
  | resolved _ _ _ _ _ _ _ _ h_asset h_added =>
    have h_resolved := h.resolved h_inv h_asset
    cases h_added with
    | conflict => exact h_resolved
    | duplicate => exact h_resolved.congr rfl rfl
    | created _ _ h_version => exact h_resolved.versionAdded h_version
  | _ => exact h

/-- No asset has the same raw data twice. -/
theorem VersionedTables.eq_of_sha (h : VersionedTables db) {a b : DatasetSnapshot}
    (h_a : a ∈ db.snapshots.rows) (h_b : b ∈ db.snapshots.rows) (h_asset : a.assetId = b.assetId)
    (h_sha : a.contentSha256 = b.contentSha256) : a = b := by
  have h_key : ∀ c ∈ db.snapshots.rows,
      Workspace.objectFileKey c = some (c.assetId, c.contentSha256) := fun c h_c => by
    rw [Workspace.objectFileKey, if_pos (h.objectFiles c h_c)]
  refine h.fileIndex.eq_of_mem h_a h_b (h_key a h_a) ?_
  rw [h_asset, h_sha]
  exact h_key b h_b

/-- The duplicate that a registration finds is the only one. -/
theorem duplicateOf_eq_some (h : VersionedTables db) {existing : DatasetSnapshot}
    (h_existing : existing ∈ db.snapshots.rows) {sha : String}
    (h_sha : existing.contentSha256 = sha) :
    db.duplicateOf existing.assetId sha = some existing := by
  cases h_find : db.duplicateOf existing.assetId sha with
  | none =>
    have h_none := List.find?_eq_none.mp h_find existing
      (List.mem_filter.mpr ⟨h_existing, decide_eq_true rfl⟩)
    rw [decide_eq_true h_sha, decide_eq_true (h.objectFiles existing h_existing)] at h_none
    exact absurd rfl h_none
  | some other =>
    obtain ⟨h_mem, h_asset, h_other, -⟩ := mem_of_duplicateOf h_find
    rw [h.eq_of_sha h_mem h_existing h_asset (h_other.trans h_sha.symm)]

/-- Before any registration there are no versions to account for. -/
theorem Versioned.of_unversioned (h : Unversioned db) : Versioned db [] := by
  have h_none : ∀ id, db.snapshotsOf id = [] := by
    intro id
    rw [Workspace.snapshotsOf, h.noSnapshots]
    rfl
  refine ⟨⟨fun asset h_asset => ?_, ?_, ?_⟩, fun e h_e => by cases h_e⟩
  · obtain ⟨h_count, h_current⟩ := h.assets asset h_asset
    refine ⟨?_, ?_⟩
    · rw [h_none, h_count]
      rfl
    · rw [h_none, h_current]
      rfl
  · rw [h.noSnapshots]
    intro s h_s
    cases h_s
  · rw [h.noSnapshots]
    exact List.nodup_nil

/-- A change that registers nothing. -/
theorem Versioned.keeps (h : Versioned db log) (h_keeps : KeepsVersions db db') :
    Versioned db' log := by
  refine ⟨h.toVersionedTables.congr h_keeps.assets h_keeps.snapshots,
    fun e h_e uploadId snapshot h_registration => ?_⟩
  obtain ⟨h_registered, h_find⟩ := h.registered e h_e uploadId snapshot h_registration
  rw [h_keeps.snapshots]
  exact ⟨(h_keeps.registered _ _).mpr h_registered, h_find⟩

/-- An event that registers nothing. -/
theorem Versioned.cons (h : Versioned db log) {e : WorkspaceEvent}
    (h_event : registrationOf e = none) : Versioned db (e :: log) := by
  refine ⟨h.toVersionedTables, fun e' h_e' uploadId snapshot h_registration => ?_⟩
  rcases List.mem_cons.mp h_e' with rfl | h_old
  · rw [h_event] at h_registration
    cases h_registration
  · exact h.registered e' h_old uploadId snapshot h_registration

/-- A registration and its event. -/
theorem Versioned.registration (h : Versioned db log) (h_inv : db.WellFormed) {uploadId : Uuid}
    {acknowledgedWarnings : List String} {now : Time} {ids : RegistrationIds}
    {answer : Except RegistrationError DatasetSnapshot}
    (h_registered : Registered uploadId acknowledgedWarnings now ids db answer db')
    (h_stay : ∀ id row, db.snapshots.find? id = some row → db'.snapshots.find? id = some row)
    {e : WorkspaceEvent}
    (h_event : registrationOf e = answer.toOption.map fun snapshot => (uploadId, snapshot)) :
    Versioned db' (e :: log) := by
  refine ⟨h.toVersionedTables.registered h_inv h_registered,
    fun e' h_e' uploadId' snapshot h_registration => ?_⟩
  rcases List.mem_cons.mp h_e' with rfl | h_old
  · rw [h_event] at h_registration
    obtain ⟨snapshot', h_answer, h_eq⟩ := Option.map_eq_some_iff.mp h_registration
    obtain ⟨rfl, rfl⟩ := Prod.mk.inj h_eq
    cases answer with
    | error => cases h_answer
    | ok snapshot =>
      obtain rfl := Option.some.inj h_answer
      exact h_registered.registeredAs
  · obtain ⟨h_before, h_find⟩ := h.registered e' h_old uploadId' snapshot h_registration
    exact ⟨h_registered.keeps_registered h_before, h_stay _ _ h_find⟩

/-- Each step keeps the versions accounted for by the log. -/
theorem Versioned.effect (h : Versioned db log) {log' : List WorkspaceEvent}
    (h_effect : WorkspaceEffect db log db' log') : Versioned db' log' := by
  cases h_effect with
  | statement => exact h
  | begun => exact h.cons rfl
  | rolledBack => exact h.cons rfl
  | committed i request _ _ _ _ h_inv _ h_grow h_post =>
    rcases versions_of_post h_post with ⟨h_keeps, h_event⟩ |
      ⟨_, _, _, _, _, _, h_keeps, h_registered, h_event⟩
    · exact (h.keeps h_keeps).cons (h_event i)
    · exact (h.keeps h_keeps).registration
        ⟨h_inv.assetOfSnapshot, h_inv.rules_length, h_inv.configVersion_pos⟩ h_registered
        h_grow.snapshots (h_event i)

end Invariant

/-- The invariant of all runs. -/
theorem versioned {s : WorkspaceState} (h : WorkspaceReachable Unversioned s) :
    Versioned s.db s.log :=
  workspace_invariant (fun _ h_db => h_db.wellFormed) (fun _ => .of_unversioned)
    (fun h_old h_effect => h_old.effect h_effect) h

/-! ### What stays for later registrations -/

/-- What every run keeps of the sessions, the assets and the snapshots. -/
structure KeepsRegistrations (db db' : Workspace) : Prop where
  registered : ∀ uploadId snapshotId,
    RegisteredAs db uploadId snapshotId → RegisteredAs db' uploadId snapshotId
  targets : ∀ uploadId assetId, TargetsAsset db uploadId assetId → TargetsAsset db' uploadId assetId
  assets : ∀ assetId, (db.assets.find? assetId).isSome → (db'.assets.find? assetId).isSome
  snapshots : ∀ snapshotId row, db.snapshots.find? snapshotId = some row →
    db'.snapshots.find? snapshotId = some row

theorem KeepsRegistrations.refl (db : Workspace) : KeepsRegistrations db db :=
  ⟨fun _ _ => id, fun _ _ => id, fun _ => id, fun _ _ => id⟩

/-- Registrations that each of two moves keeps are kept by both. -/
theorem KeepsRegistrations.trans {db₁ db₂ db₃ : Workspace} (h : KeepsRegistrations db₁ db₂)
    (h' : KeepsRegistrations db₂ db₃) : KeepsRegistrations db₁ db₃ where
  registered uploadId snapshotId := h'.registered uploadId snapshotId ∘ h.registered uploadId
    snapshotId
  targets uploadId assetId := h'.targets uploadId assetId ∘ h.targets uploadId assetId
  assets assetId := h'.assets assetId ∘ h.assets assetId
  snapshots snapshotId row := h'.snapshots snapshotId row ∘ h.snapshots snapshotId row

/-- No later step takes a registration back. -/
theorem keepsRegistrations_of_run {s s' : WorkspaceState} (h : WorkspaceReachable Unversioned s)
    (h_run : ReflTransGen (TxnSystem.Step workspaceSystem) s s') :
    KeepsRegistrations s.db s'.db := by
  refine h.rel_of_run (R := fun s s' => KeepsRegistrations s.db s'.db) (fun s => .refl s.db)
    (fun _ _ _ => .trans) (fun s s' h h_step => ?_) h_run
  obtain ⟨db, opened, log⟩ := s
  obtain ⟨db', opened', log'⟩ := s'
  have h_effect : WorkspaceEffect db log db' log' :=
    workspace_effect (fun _ h_db => h_db.wellFormed) h h_step
  show KeepsRegistrations db db'
  cases h_effect with
  | committed _ _ _ _ _ _ _ _ h_grow h_post =>
    rcases versions_of_post h_post with ⟨h_keeps, -⟩ | ⟨_, _, _, _, _, _, h_keeps, h_registered, -⟩
    · exact ⟨fun _ _ => (h_keeps.registered _ _).mpr, h_keeps.targets, h_grow.assets,
        h_grow.snapshots⟩
    · exact ⟨fun _ _ h_before =>
          h_registered.keeps_registered ((h_keeps.registered _ _).mpr h_before),
        fun _ _ h_before => h_registered.keeps_targets (h_keeps.targets _ _ h_before),
        h_grow.assets, h_grow.snapshots⟩
  | _ => exact .refl db

/-! ### The answers of later registrations -/

section Answers

variable {uploadId assetId : Uuid} {acknowledgedWarnings : List String} {now : Time}
  {ids : RegistrationIds}

/-- A registration of a registered session answers with its snapshot. -/
theorem answers_replay (snapshot : DatasetSnapshot) :
    (registerSnapshot uploadId acknowledgedWarnings now ids).Answers
      (fun db => RegisteredAs db uploadId snapshot.snapshotId ∧
        db.snapshots.find? snapshot.snapshotId = some snapshot)
      (fun answer _ => answer = .ok snapshot) some := by
  simp only [registerSnapshot, Txn.answers_bind, Txn.answers_forUpdate, Txn.answers_select]
  rintro db ⟨⟨session, h_find, h_status, h_registered⟩, -⟩ view h_view
  obtain rfl := Option.some.inj h_view
  rw [h_find]
  simp only [replayedSnapshot, h_status, h_registered, Txn.answers_bind, Txn.answers_select]
  rintro db ⟨-, h_snapshot⟩ view h_view
  obtain rfl := Option.some.inj h_view
  rw [h_snapshot]
  exact rfl

/-- A failed check is not the answer to an unknown session. -/
theorem errorCode_of_checkRegistration {session : UploadSession} {e : RegistrationError}
    (h : checkRegistration acknowledgedWarnings now session = .error e) :
    e.errorCode ≠ "RESOURCE_NOT_FOUND" := by
  rw [checkRegistration] at h
  split at h
  · cases h
    exact of_decide_eq_true rfl
  split at h
  · cases h
    exact of_decide_eq_true rfl
  split at h
  · cases h
    exact of_decide_eq_true rfl
  split at h
  · cases h
    exact of_decide_eq_true rfl
  · cases h

/-- A registration for an asset that is there does not miss its session or its asset. -/
theorem answers_found :
    (registerSnapshot uploadId acknowledgedWarnings now ids).Answers
      (fun db => TargetsAsset db uploadId assetId ∧ (db.assets.find? assetId).isSome)
      (fun answer _ => ∀ e, answer = .error e → e.errorCode ≠ "RESOURCE_NOT_FOUND") some := by
  simp only [registerSnapshot, Txn.answers_bind, Txn.answers_forUpdate, Txn.answers_select]
  rintro db ⟨⟨session, h_find, h_assetId⟩, -⟩ view h_view
  obtain rfl := Option.some.inj h_view
  rw [h_find]
  show Txn.Answers _ _ _ _
  rw [Txn.answers_bind]
  -- what follows the replay, whatever the session is registered as
  have h_replayed : ∀ K : Option DatasetSnapshot → (Workspace → Option Workspace) → Prop,
      (∀ a, K a some) → (replayedSnapshot session).Answers (fun db =>
        TargetsAsset db uploadId assetId ∧ (db.assets.find? assetId).isSome) K some := by
    intro K h_K
    rw [replayedSnapshot]
    split
    · exact fun _ _ _ _ => h_K _
    · exact h_K none
  refine h_replayed _ fun a => ?_
  -- a replay finds the snapshot
  cases a with
  | some snapshot => exact fun e h_ok => by cases h_ok
  | none =>
    cases h_check : checkRegistration acknowledgedWarnings now session with
    | error e =>
      intro e' h_e'
      obtain rfl := Except.error.inj h_e'
      exact errorCode_of_checkRegistration h_check
    | ok source =>
      show Txn.Answers _ _ _ _
      simp only [resolveAsset, h_assetId, Txn.answers_bind, Txn.answers_forUpdate,
        Txn.answers_select]
      rintro db₁ ⟨-, h_there⟩ view h_view
      obtain rfl := Option.some.inj h_view
      rw [h_there]
      show Txn.Answers _ (addSnapshot session source assetId ids now) _ _
      rw [addSnapshot, Txn.answers_bind, Txn.answers_select]
      intro db₂ _ view h_view
      -- the file may be one of the asset already
      cases view.duplicateOf assetId source.raw.contentSha256 with
      | some existing =>
        show Txn.Answers _ (ite _ _ _) _ _
        split
        · exact fun e h_ok => by cases h_ok
        · intro e h_e
          obtain rfl := Except.error.inj h_e
          exact of_decide_eq_true rfl
      | none => exact fun _ _ _ _ e h_ok => by cases h_ok

/-- What `register_snapshot` answers is the result of its request. -/
theorem answers_register {P : Workspace → Prop}
    {Q : Except RegistrationError DatasetSnapshot → Prop}
    (h : (registerSnapshot uploadId acknowledgedWarnings now ids).Answers P (fun a _ => Q a) some) :
    (workspaceSystem.program
        (.importing (.register uploadId acknowledgedWarnings now ids))).Answers P
      (fun result _ => ∀ answer, result = .importing (.registered answer) → Q answer) some := by
  simp only [workspaceSystem, WorkspaceRequest.program, ImportRequest.program, Txn.answers_bind]
  refine Txn.Answers.mono (fun answer _ h_answer answer' h_eq => ?_) h
  cases h_eq
  exact h_answer

end Answers

/-- What a registration that a step commits does. -/
structure RegistrationStep (s s' : WorkspaceState) : Prop where
  /-- A rejected registration is committed, and changes nothing. -/
  rejected : ∀ i request e, s'.log = .committed i (.importing request)
    (.importing (.registered (.error e))) :: s.log → s'.db = s.db
  rolledBack : ∀ i request error, s'.log = .rolledBack i request error :: s.log → s'.db = s.db

/-- How the step from `s₁` to `s₂` answers a registration that has begun after `s`. -/
structure RegistrationSince (s s₁ s₂ : WorkspaceState) : Prop where
  /-- A replay answers with the snapshot of the session, and changes nothing. -/
  replayed : ∀ i uploadId acknowledgedWarnings now ids answer snapshot, ∀ e ∈ s.log,
    registrationOf e = some (uploadId, snapshot) → s.opened i = none →
    s₂.log = .committed i (.importing (.register uploadId acknowledgedWarnings now ids))
      (.importing (.registered answer)) :: s₁.log →
    answer = .ok snapshot ∧ s₂.db = s₁.db
  /-- For data that the asset has already, the answer is the snapshot there is, if it has the same
  canonical data, and a rejection otherwise. -/
  duplicate : ∀ i uploadId acknowledgedWarnings now ids answer session source assetId existing,
    TargetsAsset s.db uploadId assetId → (s.db.assets.find? assetId).isSome → s.opened i = none →
    s₁.db.sessions.find? uploadId = some session →
    checkRegistration acknowledgedWarnings now session = .ok source →
    existing ∈ s₁.db.snapshots.rows → existing.assetId = assetId →
    existing.contentSha256 = source.raw.contentSha256 →
    s₂.log = .committed i (.importing (.register uploadId acknowledgedWarnings now ids))
      (.importing (.registered answer)) :: s₁.log →
    answer = (if existing.sourceDescriptor.canonical.contentSha256 = source.canonical.contentSha256
      then .ok existing
      else .error ⟨"REIMPORT_MAPPING_CONFLICT",
        "Same raw data already imported with different column mapping."⟩) ∧
    s₂.db.snapshots = s₁.db.snapshots

/-- A committed registration did what its contract says. -/
theorem registered_of_post {s s' : WorkspaceState} (h : WorkspaceReachable Unversioned s)
    (h_step : TxnSystem.Step workspaceSystem s s') {i : ℕ} {uploadId : Uuid}
    {acknowledgedWarnings : List String} {now : Time} {ids : RegistrationIds}
    {answer : Except RegistrationError DatasetSnapshot}
    (h_log : s'.log = .committed i (.importing (.register uploadId acknowledgedWarnings now ids))
      (.importing (.registered answer)) :: s.log) :
    Registered uploadId acknowledgedWarnings now ids s.db answer s'.db := by
  have h_post := workspace_post (fun _ h_db => h_db.wellFormed) h h_step h_log
  cases h_post with
  | importing _ _ _ _ h_import =>
    cases h_import with
    | registered _ _ _ _ _ _ _ h_registered => exact h_registered

/-- The tables keep their keys in every reachable state. -/
theorem wellFormed_of_reachable {initialDb : Workspace → Prop}
    (h_initial : ∀ db, initialDb db → db.WellFormed) {s : WorkspaceState}
    (h : WorkspaceReachable initialDb s) : s.db.WellFormed :=
  (TxnSystem.follows_of_reachable meets_workspace h_initial h).inv

/-- What one step can do to the registrations, said once. -/
theorem registrationStep {s s' : WorkspaceState} (h : WorkspaceReachable Unversioned s)
    (h_step : TxnSystem.Step workspaceSystem s s') : RegistrationStep s s' := by
  refine ⟨fun i request e h_log => ?_, fun i request error => TxnSystem.db_of_rolledBack h_step⟩
  have h_inv := wellFormed_of_reachable (fun _ h_db => h_db.wellFormed) h
  have h_post := workspace_post (fun _ h_db => h_db.wellFormed) h h_step h_log
  cases h_post with
  | importing _ _ _ _ h_import =>
    cases h_import with
    | registered _ _ _ _ _ _ _ h_registered => exact h_registered.eq_of_error h_inv

/-- What a registration answers, over any run that started before it. -/
theorem registrationSince {s s₁ s₂ : WorkspaceState} (h : WorkspaceReachable Unversioned s)
    (h_run : ReflTransGen (TxnSystem.Step workspaceSystem) s s₁)
    (h_step : TxnSystem.Step workspaceSystem s₁ s₂) : RegistrationSince s s₁ s₂ := by
  have h₁ := h.run h_run
  have h_versioned := versioned h₁
  refine ⟨fun i uploadId acknowledgedWarnings now ids answer snapshot e h_e h_registration h_closed
    h_log => ?_, fun i uploadId acknowledgedWarnings now ids answer session source assetId existing
    h_targets h_there h_closed h_find h_check h_existing h_assetId h_sha h_log => ?_⟩
  · -- registered before: the answer is the snapshot of the session
    have h_fact : ∀ u, ReflTransGen (TxnSystem.Step workspaceSystem) s u →
        RegisteredAs u.db uploadId snapshot.snapshotId ∧
          u.db.snapshots.find? snapshot.snapshotId = some snapshot := by
      -- the fact holds in every state of the run
      intro u h_u
      obtain ⟨h_before, h_snapshot⟩ := (versioned h).registered e h_e uploadId snapshot
        h_registration
      have h_keeps := keepsRegistrations_of_run h h_u
      exact ⟨h_keeps.registered _ _ h_before, h_keeps.snapshots _ _ h_snapshot⟩
    have h_answer := TxnSystem.answer_of_run (answers_register (answers_replay snapshot)) h_fact
      h_closed h_run h_step h_log answer rfl
    refine ⟨h_answer, ?_⟩
    subst h_answer
    have h_registered := registered_of_post h₁ h_step h_log
    generalize s₂.db = db' at h_registered
    -- the commit replays
    cases h_registered with
    | replayed => rfl
    | resolved session _ _ _ _ _ h_find h_check =>
      -- the session is registered, so it is not checked again
      obtain ⟨⟨session', h_find', h_status, -⟩, -⟩ := h_fact s₁ h_run
      rw [h_find] at h_find'
      rw [← Option.some.inj h_find', status_of_checkRegistration h_check] at h_status
      cases h_status
  · -- not registered, but the same file in the same asset
    have h_fact : ∀ u, ReflTransGen (TxnSystem.Step workspaceSystem) s u →
        TargetsAsset u.db uploadId assetId ∧ (u.db.assets.find? assetId).isSome := by
      intro u h_u
      have h_keeps := keepsRegistrations_of_run h h_u
      exact ⟨h_keeps.targets _ _ h_targets, h_keeps.assets _ h_there⟩
    have h_found := TxnSystem.answer_of_run (answers_register answers_found) h_fact
      h_closed h_run h_step h_log answer rfl
    have h_registered := registered_of_post h₁ h_step h_log
    obtain ⟨⟨session', h_find', h_target⟩, -⟩ := h_fact s₁ h_run
    rw [h_find] at h_find'
    obtain rfl := Option.some.inj h_find'
    generalize s₂.db = db' at h_registered
    -- each outcome of the registration is answered or refuted
    cases h_registered with
    | notFound => exact absurd rfl (h_found _ rfl)
    | replayed session' _ h_find' h_status =>
      rw [h_find] at h_find'
      rw [← Option.some.inj h_find', status_of_checkRegistration h_check] at h_status
      cases h_status
    | refused session' _ h_find' h_refused =>
      rw [h_find] at h_find'
      rw [← Option.some.inj h_find', h_check] at h_refused
      cases h_refused
    | assetRefused session' _ _ h_find' _ h_asset =>
      rw [h_find] at h_find'
      obtain rfl := Option.some.inj h_find'
      cases h_asset with
      | missing => exact absurd rfl (h_found _ rfl)
      | taken _ h_none =>
        rw [h_target] at h_none
        cases h_none
    | resolved session' source' assetId' dbA _ _ h_find' h_check' h_asset h_added =>
      rw [h_find] at h_find'
      obtain rfl := Option.some.inj h_find'
      rw [h_check] at h_check'
      obtain rfl := Except.ok.inj h_check'
      -- the asset is there, so it is not created
      cases h_asset with
      | created _ _ h_none =>
        rw [h_target] at h_none
        cases h_none
      | existing _ h_asset =>
        rw [h_target] at h_asset
        obtain rfl := Option.some.inj h_asset
        have h_duplicate := duplicateOf_eq_some h_versioned.toVersionedTables h_existing h_sha
        rw [h_assetId] at h_duplicate
        -- the file is there, so no version is added
        cases h_added with
        | conflict _ h_other h_canonical =>
          rw [h_duplicate] at h_other
          obtain rfl := Option.some.inj h_other
          rw [if_neg h_canonical]
          exact ⟨rfl, rfl⟩
        | duplicate _ h_other h_canonical =>
          rw [h_duplicate] at h_other
          obtain rfl := Option.some.inj h_other
          rw [if_pos h_canonical]
          exact ⟨rfl, rfl⟩
        | created _ h_none =>
          rw [h_duplicate] at h_none
          cases h_none

/-- **Versions.** In every interleaving the snapshots of an asset are its versions `1, …, n`, the
asset counts them and its current snapshot is version `n`; no asset has the same raw data twice;
a session is registered as one snapshot; and registrations are answered as `RegistrationSince`
and `RegistrationStep` say. -/
theorem snapshot_versions {s : WorkspaceState} (h : WorkspaceReachable Unversioned s) :
    (∀ asset ∈ s.db.assets.rows, VersionsOf s.db asset) ∧
    (∀ a ∈ s.db.snapshots.rows, ∀ b ∈ s.db.snapshots.rows, a.assetId = b.assetId →
      a.contentSha256 = b.contentSha256 → a = b) ∧
    (∀ e ∈ s.log, ∀ e' ∈ s.log, ∀ uploadId a b, registrationOf e = some (uploadId, a) →
      registrationOf e' = some (uploadId, b) → a = b) ∧
    (∀ s', TxnSystem.Step workspaceSystem s s' → RegistrationStep s s') ∧
    ∀ s₁ s₂, ReflTransGen (TxnSystem.Step workspaceSystem) s s₁ →
      TxnSystem.Step workspaceSystem s₁ s₂ → RegistrationSince s s₁ s₂ := by
  have h_versioned := versioned h
  refine ⟨h_versioned.assets, fun a h_a b h_b => h_versioned.eq_of_sha h_a h_b,
    fun e h_e e' h_e' uploadId a b h_first h_second => ?_, fun s' => registrationStep h,
    fun s₁ s₂ => registrationSince h⟩
  obtain ⟨⟨session, h_find, -, h_registered⟩, h_snapshot⟩ :=
    h_versioned.registered e h_e uploadId a h_first
  obtain ⟨⟨session', h_find', -, h_registered'⟩, h_snapshot'⟩ :=
    h_versioned.registered e' h_e' uploadId b h_second
  -- both are the snapshot of the session
  rw [h_find] at h_find'
  rw [← Option.some.inj h_find', h_registered] at h_registered'
  rw [Option.some.inj h_registered', h_snapshot'] at h_snapshot
  exact (Option.some.inj h_snapshot).symm

/-- A verified session for an asset without snapshots. -/
def verifiedSession : UploadSession where
  uploadId := Uuid.repeated 3
  createdBy := Uuid.repeated 4
  clientRequestId := Uuid.repeated 5
  assetId := some (Uuid.repeated 1)
  assetName := none
  format := .csv
  sizeBytes := 16
  multipartId := none
  status := .verified
  expiresAt := none
  manifest :=
    let file : StoredObject := ⟨"raw", "customers.csv", "v1", "5f2b", 16⟩
    { sourceDescriptor := some ⟨file, .csv, file⟩, columns := some [{ name := "email" }]
      exactRowCount := some 1 }

/-- The workspace of a tenant with that session. -/
def verifiedWorkspace : Workspace :=
  { emptyWorkspace with
    sessions := ⟨[verifiedSession], List.nodup_singleton _⟩
    assets := ⟨[{ assetId := Uuid.repeated 1, assetName := "customers", slug := "customers"
                  format := .csv }], List.nodup_singleton _⟩ }

/-- The session is registered, and its registration is replayed. -/
theorem snapshot_versions_registered : ∃ s : WorkspaceState,
    s.db.assets.rows.map DataAsset.versionCount = [1] ∧
      s.log.countP (fun e => (registrationOf e).isSome) = 2 ∧
      ∀ asset ∈ s.db.assets.rows, VersionsOf s.db asset := by
  let ids : RegistrationIds := ⟨Uuid.repeated 6, "", Uuid.repeated 7, Uuid.repeated 8⟩
  let request : WorkspaceRequest := .importing (.register (Uuid.repeated 3) [] 5 ids)
  have h_result : (workspaceSystem.serial [(0, request), (1, request)] verifiedWorkspace []).map
      (fun x => (x.1.assets.rows.map DataAsset.versionCount,
        x.2.countP fun e => (registrationOf e).isSome)) = some ([1], 2) := by decide
  obtain ⟨⟨db, log⟩, h_serial, h_eq⟩ := Option.map_eq_some_iff.mp h_result
  obtain ⟨h_versions, h_count⟩ := Prod.mk.inj h_eq
  have h_run := TxnSystem.run_serial (TxnSystem.serialAllowed_of_forall
    (by simp [workspaceSystem, WorkspaceRequest.allowed, request]) _ _) h_serial
  have h_unversioned : Unversioned verifiedWorkspace := by
    refine ⟨⟨fun _ h_row => (by cases h_row), rfl, fun _ h_v => by cases h_v⟩, rfl,
      fun asset h_asset => ?_, fun session h_session => ?_⟩
    · obtain rfl := List.mem_singleton.mp h_asset
      exact ⟨rfl, rfl⟩
    · obtain rfl := List.mem_singleton.mp h_session
      exact fun h_status => by cases h_status
  exact ⟨⟨db, fun _ => none, log⟩, h_versions, h_count,
    (snapshot_versions ⟨_, ⟨h_unversioned, fun _ => rfl, rfl⟩, h_run⟩).1⟩

end DqScoring
