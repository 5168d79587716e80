import DqScoring.Imports.Versioning

/-!
# Protection fails closed

A column is to be left unprotected only if the scan that decides the state of its snapshot is
complete and of the current detector configuration. For a snapshot with an APPLY job that
is what `_scan_state` asks. For a snapshot without one it looks for `config_version` in the
scan of the manifest, where nobody writes it: an import writes `privacy_config_version`
beside the scan, and inserts a job; the command that migrates legacy snapshots writes
neither. `fail_closed_iff` says when that shows.
-/

namespace DqScoring

open Framework Relation

/-! ### What protection reports -/

/-- What `_scan_state` answers when no other transaction is open. -/
def Workspace.scanStateOf (db : Workspace) (snapshotId : Uuid) (manifest : Manifest) :
    String × Bool :=
  match db.latestApplyJob snapshotId with
  -- the latest job decides, stale when the configuration has moved on
  | some job => (job.state.text,
      decide (job.configVersion ≠ db.configVersion.getD 0) && decide (job.state = .complete))
  | none =>
    -- without a job, the scan of the import does
    match manifest.sensitiveScan with
    | none => ("UNAVAILABLE", false)
    | some scan =>
      if scan.status ≠ "COMPLETE" then ("UNAVAILABLE", false)
      else ("COMPLETE", scan.configVersion.any fun pinned =>
        -- its version is compared only if both are there
        db.configVersion.any fun version => decide (version ≠ pinned))

/-- What the policy query answers about the scan. -/
theorem scanState_alone (db : Workspace) (snapshotId : Uuid) (manifest : Manifest) :
    (scanState snapshotId manifest).alone some db
      = some (db.scanStateOf snapshotId manifest, db) := by
  rw [scanState, Txn.alone_select_bind, Workspace.scanStateOf]
  cases db.latestApplyJob snapshotId with
  | some job => rfl
  | none =>
    cases manifest.sensitiveScan with
    | none => rfl
    | some scan =>
      show Txn.alone (ite _ _ _) _ _ = some (ite _ _ _, db)
      split
      · rfl
      · cases h_pinned : scan.configVersion <;> rfl

/-- What the policy query answers about a snapshot. -/
theorem resolve_alone (db : Workspace) (snapshotId : Uuid) :
    (resolveSnapshotProtection snapshotId).alone some db
      = (db.snapshots.find? snapshotId).map fun row =>
        (snapshotProtection row (db.protectionVersion row.assetId) (db.declarations row.assetId)
          (db.detectedCategories snapshotId) (db.scanStateOf snapshotId row.manifest), db) := by
  rw [resolveSnapshotProtection, Txn.alone_select_bind]
  cases db.snapshots.find? snapshotId with
  | none => rfl
  | some row =>
    show Txn.alone (_ >>= _) _ _ = _
    rw [Txn.alone_select_bind, Txn.alone_select_bind, Txn.alone_select_bind,
      (readsOnly_scanState snapshotId row.manifest).alone_bind, scanState_alone]
    rfl

/-- The scan that decides the state of a snapshot: its status and configuration version, 0 where
the scan was run without the rules of the tenant. -/
def Workspace.decidingScan (db : Workspace) (snapshotId : Uuid) : Option (String × ℕ) :=
  match db.latestApplyJob snapshotId with
  | some job => some (job.state.text, job.configVersion)
  | none => do
    let row ← db.snapshots.find? snapshotId
    let scan ← row.manifest.sensitiveScan
    return (scan.status, (row.manifest.privacyConfigVersion.or scan.configVersion).getD 0)

/-- If a column is reported as unprotected, then the deciding scan is complete and current. -/
def FailsClosed (db : Workspace) (snapshotId : Uuid) : Prop :=
  ∀ protection db', (resolveSnapshotProtection snapshotId).alone some db = some (protection, db') →
    ∀ column ∈ protection.columns, column.isProtected = false →
      db.decidingScan snapshotId = some ("COMPLETE", db.configVersion.getD 0)

/-- The text of COMPLETE belongs to no other state. -/
theorem text_eq_complete_iff {state : JobState} :
    state.text = "COMPLETE" ↔ state = .complete := by
  cases state <;> decide

/-! ### When it fails -/

/-- The manifest has a complete scan. -/
def Manifest.RecordsComplete (manifest : Manifest) : Prop :=
  ∃ scan, manifest.sensitiveScan = some scan ∧ scan.status = "COMPLETE"

/-- No finding and no declaration makes a column sensitive. -/
def IsExposed (db : Workspace) (row : DatasetSnapshot) (name : String) : Prop :=
  ∀ category, (name, category) ∉ db.detectedCategories row.snapshotId ∧
    ((db.declarations row.assetId).lookup name).map Prod.fst ≠ some (.sensitive category)

/-- A snapshot that a migration of a legacy snapshot has registered. -/
def WasMigrated (log : List WorkspaceEvent) (snapshotId : Uuid) : Prop :=
  ∃ i m now ids snapshot, .committed i (.importing (.migrate m now ids))
    (.importing (.registered (.ok snapshot))) ∈ log ∧ snapshot.snapshotId = snapshotId

/-- A migrated snapshot that no APPLY scan has taken up, of a tenant with a configuration, and with
a column that nothing makes sensitive. -/
def DecidedByMigration (log : List WorkspaceEvent) (db : Workspace) (snapshotId : Uuid) : Prop :=
  WasMigrated log snapshotId ∧ db.latestApplyJob snapshotId = none ∧ db.configVersion.isSome ∧
    ∃ row, db.snapshots.find? snapshotId = some row ∧ row.manifest.RecordsComplete ∧
      ∃ column ∈ row.columns, IsExposed db row column.name

section Columns

variable {db : Workspace} {row : DatasetSnapshot}

/-- A column is left unprotected if the scan is verified and nothing makes it sensitive. -/
theorem isProtected_eq_false_iff {isVerified : Bool} {name : String} :
    (columnProtection (db.declarations row.assetId) (db.detectedCategories row.snapshotId)
      isVerified name).isProtected = false ↔ isVerified = true ∧ IsExposed db row name := by
  have h_mem : ∀ category, category ∈ sensitiveCategories := by
    intro category
    cases category <;> decide
  show (!List.isEmpty (List.filter _ sensitiveCategories) || !isVerified) = false ↔ _
  rw [Bool.or_eq_false_iff, Bool.not_eq_false', Bool.not_eq_false', List.isEmpty_iff,
    List.filter_eq_nil_iff, and_comm]
  refine and_congr_right fun _ => ⟨fun h category => ?_, fun h category _ => ?_⟩
  · have h_category := h category (h_mem category)
    rw [Bool.or_eq_true, decide_eq_true_eq, decide_eq_true_eq, not_or, List.mem_filter,
      decide_eq_true_eq] at h_category
    exact ⟨fun h_found => h_category.1 ⟨h_mem category, h_found⟩, h_category.2⟩
  · rw [Bool.or_eq_true, decide_eq_true_eq, decide_eq_true_eq, not_or, List.mem_filter,
      decide_eq_true_eq]
    exact ⟨fun h_found => (h category).1 h_found.2, (h category).2⟩

end Columns

/-- What `FailsClosed` asks of the rows. -/
theorem failsClosed_iff {db : Workspace} {snapshotId : Uuid} :
    FailsClosed db snapshotId ↔ ∀ row, db.snapshots.find? snapshotId = some row →
      (db.scanStateOf snapshotId row.manifest).1 = "COMPLETE" →
      (db.scanStateOf snapshotId row.manifest).2 = false →
      (∃ column ∈ row.columns, IsExposed db row column.name) →
      db.decidingScan snapshotId = some ("COMPLETE", db.configVersion.getD 0) := by
  constructor
  · rintro h row h_find h_complete h_stale ⟨column, h_column, h_exposed⟩
    obtain ⟨-, rfl⟩ := Table.find?_eq_some_iff.mp h_find
    have h_alone := resolve_alone db row.snapshotId
    rw [h_find] at h_alone
    refine h _ db h_alone _ (List.mem_map_of_mem h_column)
      (isProtected_eq_false_iff.mpr ⟨?_, h_exposed⟩)
    rw [h_complete, h_stale]
    rfl
  · intro h protection db' h_alone column h_column h_unprotected
    rw [resolve_alone] at h_alone
    obtain ⟨row, h_find, h_eq⟩ := Option.map_eq_some_iff.mp h_alone
    obtain ⟨rfl, -⟩ := Prod.mk.inj h_eq
    obtain ⟨-, rfl⟩ := Table.find?_eq_some_iff.mp h_find
    obtain ⟨definition, h_definition, rfl⟩ := List.mem_map.mp h_column
    obtain ⟨h_verified, h_exposed⟩ := isProtected_eq_false_iff.mp h_unprotected
    rw [Bool.and_eq_true, decide_eq_true_eq, Bool.not_eq_true'] at h_verified
    exact h row h_find h_verified.1 h_verified.2 ⟨definition, h_definition, h_exposed⟩

/-! ### The invariant -/

/-- A tenant with legacy snapshots, which record no complete scan. -/
structure LegacySnapshots (db : Workspace) : Prop where
  wellFormed : db.WellFormed
  snapshots : ∀ row ∈ db.snapshots.rows, ¬ row.manifest.RecordsComplete
  sessions : ∀ session ∈ db.sessions.rows, session.status = .verified →
    session.manifest.privacyConfigVersion.isSome

/-- A snapshot has an APPLY job. -/
def HasApplyJob (db : Workspace) (snapshotId : Uuid) : Prop :=
  ∃ job ∈ db.jobs.rows, job.snapshotId = snapshotId ∧ job.purpose = .apply

/-- A snapshot has a job, or was migrated and has a scan without a version. -/
def ScanRecorded (db : Workspace) (log : List WorkspaceEvent) (row : DatasetSnapshot) : Prop :=
  HasApplyJob db row.snapshotId ∨ WasMigrated log row.snapshotId ∧
    row.manifest.privacyConfigVersion = none ∧
    ∀ scan, row.manifest.sensitiveScan = some scan → scan.configVersion = none

/-- What holds of the scans that imports record. -/
structure ImportsPinned (db : Workspace) (log : List WorkspaceEvent) : Prop where
  sessions : ∀ id session, db.sessions.find? id = some session → session.status = .verified →
    session.manifest.privacyConfigVersion.isSome
  snapshots : ∀ row ∈ db.snapshots.rows, row.manifest.RecordsComplete → ScanRecorded db log row

section Invariant

variable {db db' : Workspace} {log : List WorkspaceEvent}

/-- There is no latest job exactly when no job applies. -/
theorem latestApplyJob_eq_none_iff {snapshotId : Uuid} :
    db.latestApplyJob snapshotId = none ↔ ¬ HasApplyJob db snapshotId := by
  rw [Workspace.latestApplyJob, Workspace.latestJob, List.argmax_eq_none, List.filter_eq_nil_iff]
  constructor
  · rintro h ⟨job, h_job, h_snapshot, h_purpose⟩
    refine h job h_job ?_
    rw [decide_eq_true h_snapshot, decide_eq_true h_purpose]
    rfl
  · intro h job h_job h_selected
    rw [Bool.and_eq_true, decide_eq_true_eq, decide_eq_true_eq] at h_selected
    exact h ⟨job, h_job, h_selected⟩

/-- A job stays. -/
theorem HasApplyJob.grows {snapshotId : Uuid} (h : HasApplyJob db snapshotId)
    (h_grow : Workspace.Grows db db') : HasApplyJob db' snapshotId := by
  obtain ⟨job, h_job, h_snapshot, h_purpose⟩ := h
  obtain ⟨job', h_job', h_snapshot', h_purpose', -⟩ :=
    h_grow.jobs job.scanId job (Table.find?_eq_some_iff.mpr ⟨h_job, rfl⟩)
  exact ⟨job', (Table.find?_eq_some_iff.mp h_job').1, h_snapshot'.trans h_snapshot,
    h_purpose'.trans h_purpose⟩

/-- A migration stays in the log. -/
theorem WasMigrated.cons {snapshotId : Uuid} (h : WasMigrated log snapshotId) (e : WorkspaceEvent) :
    WasMigrated (e :: log) snapshotId := by
  obtain ⟨i, m, now, ids, snapshot, h_mem, h_id⟩ := h
  exact ⟨i, m, now, ids, snapshot, List.mem_cons_of_mem e h_mem, h_id⟩

/-- What was recorded about a scan stays recorded. -/
theorem ScanRecorded.cons {row : DatasetSnapshot} (h : ScanRecorded db log row)
    (h_grow : Workspace.Grows db db') (e : WorkspaceEvent) : ScanRecorded db' (e :: log) row := by
  rcases h with h_job | ⟨h_migrated, h_rest⟩
  · exact .inl (h_job.grows h_grow)
  · exact .inr ⟨h_migrated.cons e, h_rest⟩

/-- A session that is verified has a pin. -/
theorem SessionMove.pinned {request : ImportRequest} {result : ImportResult}
    {session session' : UploadSession} (h : SessionMove request result session session')
    (h_before : session.status = .verified → session.manifest.privacyConfigVersion.isSome)
    (h_status : session'.status = .verified) : session'.manifest.privacyConfigVersion.isSome := by
  cases h with
  | recorded _ _ _ _ part =>
    by_cases h_initiated : session.status = .initiated
    · rw [UploadSession.recordPart, h_initiated] at h_status
      cases h_status
    · rw [recordPart_status part h_initiated] at h_status
      exact h_before h_status
  | extended => exact h_before h_status
  | processed _ _ _ _ _ ended =>
    cases ended with
    | verified => rfl
    | rejected => cases h_status
    | failed => cases h_status
  | _ => cases h_status

/-- A session that becomes verified has pinned its configuration. -/
theorem SessionsChange.pinned {request : ImportRequest} {result : ImportResult}
    (h : SessionsChange db.sessions db'.sessions request result)
    (h_before : ∀ id session, db.sessions.find? id = some session → session.status = .verified →
      session.manifest.privacyConfigVersion.isSome) {id : Uuid} {session' : UploadSession}
    (h_find' : db'.sessions.find? id = some session') (h_status : session'.status = .verified) :
    session'.manifest.privacyConfigVersion.isSome := by
  cases h_find : db.sessions.find? id with
  | none =>
    rcases h.new h_find h_find' with ⟨h_other | h_other, -⟩ | ⟨h_other, -⟩ <;>
      rw [h_other] at h_status <;> cases h_status
  | some session =>
    obtain ⟨session₁, h_find₁, h_same⟩ := h.find? h_find
    rw [h_find'] at h_find₁
    obtain rfl := Option.some.inj h_find₁
    rcases h_same with rfl | h_move
    · exact h_before id _ h_find h_status
    · exact h_move.pinned (h_before id session h_find) h_status

/-- A snapshot that a registration adds has the manifest of its session, and a job if that is
pinned. -/
theorem Registered.mem_snapshots {uploadId : Uuid} {acknowledgedWarnings : List String} {now : Time}
    {ids : RegistrationIds} {answer : Except RegistrationError DatasetSnapshot}
    (h : Registered uploadId acknowledgedWarnings now ids db answer db') {row : DatasetSnapshot}
    (h_row : row ∈ db'.snapshots.rows) :
    row ∈ db.snapshots.rows ∨ ∃ session, db.sessions.find? uploadId = some session ∧
      session.status = .verified ∧ row.manifest = session.manifest ∧ answer = .ok row ∧
      (session.manifest.privacyConfigVersion.isSome → HasApplyJob db' row.snapshotId) := by
  cases h with
  | resolved session source assetId dbA _ _ h_find h_check h_asset h_added =>
    have h_dbA : dbA.snapshots = db.snapshots := by
      cases h_asset <;> rfl
    cases h_added with
    | conflict =>
      rw [h_dbA] at h_row
      exact .inl h_row
    | duplicate =>
      refine .inl ?_
      rw [← h_dbA]
      exact h_row
    | created _ _ h_version =>
      rw [Table.rows_of_insert h_version.snapshots, h_dbA, List.mem_append,
        List.mem_singleton] at h_row
      rcases h_row with h_old | rfl
      · exact .inl h_old
      · refine .inr ⟨session, h_find, status_of_checkRegistration h_check, rfl, rfl,
          fun h_pinned => ?_⟩
        obtain ⟨version, h_version'⟩ := Option.isSome_iff_exists.mp h_pinned
        have h_jobs := h_version.jobs
        rw [h_version'] at h_jobs
        refine ⟨importJob ids.scanId ids.snapshotId session.manifest version now, ?_, rfl, rfl⟩
        rw [Table.rows_of_insert h_jobs.1]
        exact List.mem_append_right _ List.mem_cons_self
  | _ => exact .inl h_row

/-- Legacy snapshots were not imported. -/
theorem ImportsPinned.of_legacySnapshots (h : LegacySnapshots db) : ImportsPinned db [] where
  sessions _ session h_find := h.sessions session (Table.find?_eq_some_iff.mp h_find).1
  snapshots row h_row h_complete := absurd h_complete (h.snapshots row h_row)

/-- An event that adds no snapshot. -/
theorem ImportsPinned.cons (h : ImportsPinned db log) (h_grow : Workspace.Grows db db')
    (h_sessions : ∀ id session, db'.sessions.find? id = some session → session.status = .verified →
      session.manifest.privacyConfigVersion.isSome)
    (h_snapshots : db'.snapshots = db.snapshots) (e : WorkspaceEvent) :
    ImportsPinned db' (e :: log) := by
  refine ⟨h_sessions, fun row h_row h_complete => ?_⟩
  rw [h_snapshots] at h_row
  exact (h.snapshots row h_row h_complete).cons h_grow e

/-- Each step keeps imported snapshots pinned to a configuration. -/
theorem ImportsPinned.effect (h : ImportsPinned db log) {log' : List WorkspaceEvent}
    (h_effect : WorkspaceEffect db log db' log') : ImportsPinned db' log' := by
  -- only a registration adds a snapshot with a scan
  cases h_effect with
  | statement => exact h
  | begun => exact h.cons (.refl db) h.sessions rfl _
  | rolledBack => exact h.cons (.refl db) h.sessions rfl _
  | committed i _ _ _ _ _ _ _ h_grow h_post =>
    have h_kept : ∀ {e}, db'.sessions = db.sessions → db'.snapshots = db.snapshots →
        ImportsPinned db' (e :: log) := by
      intro e h_sessions h_snapshots
      refine h.cons h_grow ?_ h_snapshots e
      rw [h_sessions]
      exact h.sessions
    cases h_post with
    -- neither rules, scans nor reviews touch the sessions
    | rule _ _ _ _ h_rule => exact h_kept (by rw [h_rule.frame]) (by rw [h_rule.frame])
    | scan _ _ _ _ h_scan => exact h_kept (by rw [h_scan.frame]) (by rw [h_scan.frame])
    | protection _ _ _ _ h_protection =>
      exact h_kept (by rw [h_protection.frame]) (by rw [h_protection.frame])
    | importing request result _ _ h_import =>
      have h_sessions : ∀ id session, db'.sessions.find? id = some session →
          session.status = .verified → session.manifest.privacyConfigVersion.isSome :=
        fun id session => (sessionsChange_of_importPost h_import).pinned h.sessions
      cases h_registers : request.registers with
      | none =>
        -- without a registration the snapshots stay
        exact h.cons h_grow h_sessions (tables_of_importPost h_import h_registers).2 _
      | some uploadId =>
        refine ⟨h_sessions, fun row h_row h_complete => ?_⟩
        cases h_import with
        | registered _ _ _ _ _ _ _ h_registered =>
          -- the manifest of the session becomes that of the snapshot
          rcases h_registered.mem_snapshots h_row with h_old |
            ⟨session, h_find, h_status, h_manifest, -, h_job⟩
          · exact (h.snapshots row h_old h_complete).cons h_grow _
          · exact .inl (h_job (h.sessions _ session h_find h_status))
        | migrated m now ids snapshot _ _ h_migrated =>
          obtain ⟨rows, h_rows, h_registered⟩ := h_migrated
          rcases h_registered.mem_snapshots h_row with h_old |
            ⟨session, h_find, -, h_manifest, h_ok, -⟩
          · exact (h.snapshots row h_old h_complete).cons h_grow _
          · -- the session is the one that the command has inserted
            have h_inserted : rows.find? m.uploadId = some (m.session now) :=
              (Table.find?_of_insert h_rows m.uploadId).trans (if_pos rfl)
            rw [show Workspace.sessions { db with sessions := rows } = rows from rfl,
              h_inserted] at h_find
            obtain rfl := Option.some.inj h_find
            obtain rfl := Except.ok.inj h_ok
            refine .inr ⟨⟨i, m, now, ids, snapshot, List.mem_cons_self, rfl⟩, ?_, ?_⟩
            · rw [h_manifest]
              rfl
            · rw [h_manifest]
              rintro scan ⟨⟩
              exact m.inspection.scan_unversioned
        | _ => cases h_registers

end Invariant

/-- The invariant of all runs. -/
theorem importsPinned {s : WorkspaceState} (h : WorkspaceReachable LegacySnapshots s) :
    ImportsPinned s.db s.log :=
  workspace_invariant (fun _ h_db => h_db.wellFormed) (fun _ => .of_legacySnapshots)
    (fun h_old h_effect => h_old.effect h_effect) h

/-- **Protection fails closed.** In every interleaving, what protection leaves unprotected has a
complete scan of the current configuration, except for a snapshot whose state is decided by
the scan of its migration. -/
theorem fail_closed_iff {s : WorkspaceState} (h : WorkspaceReachable LegacySnapshots s)
    (snapshotId : Uuid) :
    FailsClosed s.db snapshotId ↔ ¬ DecidedByMigration s.log s.db snapshotId := by
  have h_inv := wellFormed_of_reachable (fun _ h_db => h_db.wellFormed) h
  -- a complete scan that decides the state is that of a migration
  have h_recorded : ∀ row, s.db.snapshots.find? snapshotId = some row →
      s.db.latestApplyJob snapshotId = none → row.manifest.RecordsComplete →
      WasMigrated s.log snapshotId ∧ row.manifest.privacyConfigVersion = none ∧
        ∀ scan, row.manifest.sensitiveScan = some scan → scan.configVersion = none := by
    intro row h_find h_none h_complete
    obtain ⟨h_row, rfl⟩ := Table.find?_eq_some_iff.mp h_find
    exact ((importsPinned h).snapshots row h_row h_complete).resolve_left
      (latestApplyJob_eq_none_iff.mp h_none)
  rw [failsClosed_iff]
  constructor
  · -- a complete scan of a migration under a configuration counts as current, at version 0
    rintro h_closed ⟨-, h_none, h_config, row, h_find, ⟨scan, h_scan, h_status⟩, h_exposed⟩
    obtain ⟨-, h_pin, h_unversioned⟩ := h_recorded row h_find h_none ⟨scan, h_scan, h_status⟩
    have h_state : s.db.scanStateOf snapshotId row.manifest = ("COMPLETE", false) := by
      simp only [Workspace.scanStateOf, h_none, h_scan, h_status, h_unversioned scan h_scan]
      rfl
    have h_deciding : s.db.decidingScan snapshotId = some ("COMPLETE", 0) := by
      simp only [Workspace.decidingScan, h_none, h_find, Option.bind_eq_bind, Option.bind_some,
        h_scan, h_status, h_pin, h_unversioned scan h_scan]
      rfl
    have h_current := h_closed row h_find (by rw [h_state]) (by rw [h_state]) h_exposed
    rw [h_deciding] at h_current
    obtain ⟨version, h_version⟩ := Option.isSome_iff_exists.mp h_config
    have h_pos := h_inv.configVersion_pos version h_version
    rw [h_version] at h_current
    have h_zero : 0 = version := (Prod.mk.inj (Option.some.inj h_current)).2
    omega
  · -- if there is none, the state is that of a job or there is no configuration
    intro h_not row h_find h_complete h_stale h_exposed
    cases h_job : s.db.latestApplyJob snapshotId with
    | some job =>
      -- the job names the version it ran at
      have h_state : s.db.scanStateOf snapshotId row.manifest = (job.state.text,
          decide (job.configVersion ≠ s.db.configVersion.getD 0)
            && decide (job.state = .complete)) := by
        simp only [Workspace.scanStateOf, h_job]
      rw [h_state] at h_complete h_stale
      have h_text : job.state = .complete := text_eq_complete_iff.mp h_complete
      have h_version : job.configVersion = s.db.configVersion.getD 0 := by
        rw [h_text, Bool.and_eq_false_iff] at h_stale
        rcases h_stale with h_same | h_other
        · exact not_not.mp (of_decide_eq_false h_same)
        · cases h_other
      simp only [Workspace.decidingScan, h_job]
      rw [h_text, h_version]
      rfl
    | none =>
      -- the manifest decides, with the version it lacks
      cases h_scan : row.manifest.sensitiveScan with
      | none =>
        simp only [Workspace.scanStateOf, h_job, h_scan] at h_complete
        exact absurd h_complete (by decide)
      | some scan =>
        have h_status : scan.status = "COMPLETE" := by
          by_contra h_other
          simp only [Workspace.scanStateOf, h_job, h_scan, if_pos h_other] at h_complete
          exact absurd h_complete (by decide)
        obtain ⟨h_migrated, h_pin, h_unversioned⟩ :=
          h_recorded row h_find h_job ⟨scan, h_scan, h_status⟩
        have h_config : s.db.configVersion = none := by
          cases h_config : s.db.configVersion with
          | none => rfl
          | some version =>
            exact absurd ⟨h_migrated, h_job, by rw [h_config]; rfl, row, h_find,
              ⟨scan, h_scan, h_status⟩, h_exposed⟩ h_not
        simp only [Workspace.decidingScan, h_job, h_find, Option.bind_eq_bind, Option.bind_some,
          h_scan, h_status, h_pin, h_unversioned scan h_scan, h_config]
        rfl

/-- The migration of `legacySnapshot`, in whose data the builtin detectors find nothing. -/
def legacyMigration : LegacyMigration where
  uploadId := Uuid.repeated 3
  clientRequestId := Uuid.repeated 4
  userId := Uuid.repeated 5
  assetId := Uuid.repeated 1
  legacySnapshotId := Uuid.repeated 2
  format := .csv
  inspection :=
    { raw := ⟨"staging", "customers.csv", "v1", "5f2b", 16⟩
      canonical := ⟨"snapshots", "customers.parquet", "v1", "77ab", 512⟩
      columns := [{ name := "email" }], exactRowCount := 1, warnings := []
      sensitiveScan := { status := "COMPLETE", findings := [], sensitiveColumns := [] }
      scan_unversioned := rfl }

/-- The migration, and then a new rule for the column. -/
def migrateThenCreateRule : List (ℕ × WorkspaceRequest) :=
  [(0, .importing (.migrate legacyMigration 5
      ⟨Uuid.repeated 6, "", Uuid.repeated 7, Uuid.repeated 8⟩)),
    (1, .rule (.create (Uuid.repeated 9)
      { category := .basicPersonalData, enabled := true, matchMode := .full, caseSensitive := true
        columns := ["email"], code := "CUSTOMER_CODE", kind := .valuePattern
        pattern := "C[0-9]+" }))]

theorem legacyWorkspace_snapshots : LegacySnapshots legacyWorkspace where
  wellFormed := legacyWorkspace_wellFormed
  snapshots row h_row := by
    obtain rfl := List.mem_singleton.mp h_row
    rintro ⟨scan, ⟨⟩, -⟩
  sessions session h_session := by cases h_session

/-- After the new rule the migrated column is left unprotected, by a scan of no configuration. -/
theorem fail_closed_migrated : ¬ ∀ s : WorkspaceState, WorkspaceReachable LegacySnapshots s →
    ∀ snapshotId, FailsClosed s.db snapshotId := by
  intro h_all
  have h_result : (workspaceSystem.serial migrateThenCreateRule legacyWorkspace []).map (fun x =>
      (((resolveSnapshotProtection (Uuid.repeated 7)).alone some x.1).map fun p =>
          p.1.columns.map ColumnProtection.isProtected,
        x.1.decidingScan (Uuid.repeated 7), x.1.configVersion))
      = some (some [false], some ("COMPLETE", 0), some 2) := by
    decide
  obtain ⟨⟨db, log⟩, h_serial, h_eq⟩ := Option.map_eq_some_iff.mp h_result
  obtain ⟨h_columns, h_rest⟩ := Prod.mk.inj h_eq
  obtain ⟨h_deciding, h_config⟩ := Prod.mk.inj h_rest
  obtain ⟨⟨protection, db'⟩, h_alone, h_protected⟩ := Option.map_eq_some_iff.mp h_columns
  obtain ⟨column, h_column, h_unprotected⟩ := List.mem_map.mp
    (h_protected ▸ List.mem_cons_self : false ∈ protection.columns.map ColumnProtection.isProtected)
  have h_run := TxnSystem.run_serial (TxnSystem.serialAllowed_of_forall
    (by simp [migrateThenCreateRule, workspaceSystem, WorkspaceRequest.allowed]) _ _) h_serial
  have h_current := h_all _ ⟨_, ⟨legacyWorkspace_snapshots, fun _ => rfl, rfl⟩, h_run⟩
    (Uuid.repeated 7) protection db' h_alone column h_column h_unprotected
  rw [show Workspace.decidingScan db (Uuid.repeated 7) = _ from h_deciding,
    show Workspace.configVersion db = _ from h_config] at h_current
  cases h_current

/-- Before the new rule the tenant has no configuration that the scan could miss. -/
theorem fail_closed_iff_migrated : ∃ s : WorkspaceState, s.db.snapshots.rows.length = 2 ∧
    s.db.configVersion = none ∧ FailsClosed s.db (Uuid.repeated 7) := by
  have h_result : (workspaceSystem.serial (migrateThenCreateRule.take 1) legacyWorkspace []).map
      (fun x => (x.1.snapshots.rows.length, x.1.configVersion)) = some (2, none) := by
    decide
  obtain ⟨⟨db, log⟩, h_serial, h_eq⟩ := Option.map_eq_some_iff.mp h_result
  obtain ⟨h_length, h_config⟩ := Prod.mk.inj h_eq
  have h_run := TxnSystem.run_serial (TxnSystem.serialAllowed_of_forall
    (by simp [migrateThenCreateRule, workspaceSystem, WorkspaceRequest.allowed]) _ _) h_serial
  refine ⟨⟨db, fun _ => none, log⟩, h_length, h_config, ?_⟩
  rw [fail_closed_iff ⟨_, ⟨legacyWorkspace_snapshots, fun _ => rfl, rfl⟩, h_run⟩]
  rintro ⟨-, -, h_some, -⟩
  rw [show Workspace.configVersion db = none from h_config] at h_some
  cases h_some

end DqScoring
