import DqScoring.Framework.RowLocks
import DqScoring.Presentation.Requests
import DqScoring.Workspace.Tables

/-!
# What the row locks of a workspace protect

The lock of a session, a job or a finding protects its row. The lock of an asset protects
the asset, its list of snapshots and its protection version; a transaction that creates an
asset owns the lock of the new row. The configuration row protects the rules and their
version, and the advisory lock of the seeding the absence of both.

Snapshots, rules and the identities of findings and jobs never change, with or without a
lock (`Grows`). For each table one lemma says what a change of it has to respect.
-/

namespace DqScoring

open Framework

namespace Workspace

/-- What no transaction breaks: every snapshot has its asset, configuration versions start with 1,
and the rules are the builtin ones and one revision for each later version. -/
structure WellFormed (db : Workspace) : Prop where
  assetOfSnapshot : ∀ row ∈ db.snapshots.rows, (db.assets.find? row.assetId).isSome
  rules_length : db.rules.length = (db.configVersion.map (· + 8)).getD 0
  configVersion_pos : ∀ v, db.configVersion = some v → 1 ≤ v

/-- How a workspace changes whatever is locked. -/
structure Grows (db db' : Workspace) : Prop where
  assets : ∀ id, (db.assets.find? id).isSome → (db'.assets.find? id).isSome
  snapshots : ∀ id row, db.snapshots.find? id = some row → db'.snapshots.find? id = some row
  jobs : ∀ id row, db.jobs.find? id = some row → ∃ row', db'.jobs.find? id = some row' ∧
    row'.snapshotId = row.snapshotId ∧ row'.purpose = row.purpose ∧
    row'.pinnedRules = row.pinnedRules ∧ row'.configVersion = row.configVersion ∧
    row'.createdAt = row.createdAt
  findings : ∀ id row, db.findings.find? id = some row → ∃ row', db'.findings.find? id = some row' ∧
    row'.snapshotId = row.snapshotId
  config : ∀ v, db.configVersion = some v → ∃ v', db'.configVersion = some v' ∧ v ≤ v'
  rules : db.rules <+: db'.rules

theorem Grows.refl (db : Workspace) : Grows db db where
  assets _ := id
  snapshots _ _ := id
  jobs _ row h := ⟨row, h, rfl, rfl, rfl, rfl, rfl⟩
  findings _ row h := ⟨row, h, rfl⟩
  config v h := ⟨v, h, le_rfl⟩
  rules := List.prefix_rfl

/-- The other tables are free to change. -/
theorem Grows.of_eq {db db' : Workspace} (h_assets : db'.assets = db.assets)
    (h_snapshots : db'.snapshots = db.snapshots) (h_jobs : db'.jobs = db.jobs)
    (h_findings : db'.findings = db.findings) (h_config : db'.configVersion = db.configVersion)
    (h_rules : db'.rules = db.rules) : Grows db db' where
  assets _ := by rw [h_assets]; exact id
  snapshots _ _ := by rw [h_snapshots]; exact id
  jobs _ row h := ⟨row, by rw [h_jobs]; exact h, rfl, rfl, rfl, rfl, rfl⟩
  findings _ row h := ⟨row, by rw [h_findings]; exact h, rfl⟩
  config v h := ⟨v, h_config.trans h, le_rfl⟩
  rules := h_rules ▸ List.prefix_rfl

/-- Growth composes, table by table. -/
theorem Grows.trans {db₁ db₂ db₃ : Workspace} (h : Grows db₁ db₂) (h' : Grows db₂ db₃) :
    Grows db₁ db₃ where
  assets id := h'.assets id ∘ h.assets id
  snapshots id row := h'.snapshots id row ∘ h.snapshots id row
  jobs id row h_row := by
    obtain ⟨row₂, h_row₂, h_snapshot, h_purpose, h_rules, h_config, h_created⟩ :=
      h.jobs id row h_row
    obtain ⟨row₃, h_row₃, h_snapshot', h_purpose', h_rules', h_config', h_created'⟩ :=
      h'.jobs id row₂ h_row₂
    exact ⟨row₃, h_row₃, h_snapshot'.trans h_snapshot, h_purpose'.trans h_purpose,
      h_rules'.trans h_rules, h_config'.trans h_config, h_created'.trans h_created⟩
  findings id row h_row := by
    obtain ⟨row₂, h_row₂, h_snapshot⟩ := h.findings id row h_row
    obtain ⟨row₃, h_row₃, h_snapshot'⟩ := h'.findings id row₂ h_row₂
    exact ⟨row₃, h_row₃, h_snapshot'.trans h_snapshot⟩
  config v h_config := by
    obtain ⟨v₂, h_config₂, h_le⟩ := h.config v h_config
    obtain ⟨v₃, h_config₃, h_le'⟩ := h'.config v₂ h_config₂
    exact ⟨v₃, h_config₃, h_le.trans h_le'⟩
  rules := h.rules.trans h'.rules

/-- What only the holder of a lock changes. -/
def Same : RowLock → Workspace → Workspace → Prop
  -- a locked row stays what it is
  | .session id, db, db' => ∀ row, db.sessions.find? id = some row →
    db'.sessions.find? id = some row
  | .asset id, db, db' => ∀ row, db.assets.find? id = some row → db'.assets.find? id = some row ∧
      -- the snapshots and the version of an asset are under its lock
      db'.snapshotsOf id = db.snapshotsOf id ∧ db'.revisions.find? id = db.revisions.find? id
  | .assetName name, db, db' =>
    -- a name that is free stays free
    (∀ row ∈ db.assets.rows, row.assetName ≠ name) → ∀ row ∈ db'.assets.rows, row.assetName ≠ name
  | .revision _, _, _ => True
  | .job id, db, db' => ∀ row, db.jobs.find? id = some row → db'.jobs.find? id = some row
  | .finding id, db, db' => ∀ row, db.findings.find? id = some row →
    db'.findings.find? id = some row
  | .config, db, db' => ∀ v, db.configVersion = some v → db'.configVersion = some v ∧
      -- the rules change under the lock of the configuration only
      db'.rules = db.rules
  | .seeding, db, db' => db.configVersion = none → db'.configVersion = none ∧ db'.rules = db.rules
  | .part _ _, _, _ => True

theorem Same.refl (l : RowLock) (db : Workspace) : Same l db db := by
  cases l with
  | session => exact fun _ => id
  | asset => exact fun _ h => ⟨h, rfl, rfl⟩
  | assetName => exact id
  | revision => trivial
  | job => exact fun _ => id
  | finding => exact fun _ => id
  | config => exact fun _ h => ⟨h, rfl⟩
  | seeding => exact fun h => ⟨h, rfl⟩
  | part => trivial

/-- What a lock protects stays the same over two moves. -/
theorem Same.trans {l : RowLock} {db₁ db₂ db₃ : Workspace} (h : Same l db₁ db₂)
    (h' : Same l db₂ db₃) : Same l db₁ db₃ := by
  cases l with
  | session => exact fun row => h' row ∘ h row
  | asset =>
    intro row h_row
    obtain ⟨h_row₂, h_snapshots, h_revision⟩ := h row h_row
    obtain ⟨h_row₃, h_snapshots', h_revision'⟩ := h' row h_row₂
    exact ⟨h_row₃, h_snapshots'.trans h_snapshots, h_revision'.trans h_revision⟩
  | assetName => exact h' ∘ h
  | revision => trivial
  | job => exact fun row => h' row ∘ h row
  | finding => exact fun row => h' row ∘ h row
  | config =>
    intro v h_v
    obtain ⟨h_v₂, h_rules⟩ := h v h_v
    obtain ⟨h_v₃, h_rules'⟩ := h' v h_v₂
    exact ⟨h_v₃, h_rules'.trans h_rules⟩
  | seeding =>
    intro h_none
    obtain ⟨h_none₂, h_rules⟩ := h h_none
    obtain ⟨h_none₃, h_rules'⟩ := h' h_none₂
    exact ⟨h_none₃, h_rules'.trans h_rules⟩
  | part => trivial

end Workspace

/-- The discipline of the row locks of a workspace. -/
def workspaceDiscipline : Discipline Workspace RowLock where
  inv := Workspace.WellFormed
  grow := Workspace.Grows
  same := Workspace.Same
  grow_refl := Workspace.Grows.refl
  grow_trans := Workspace.Grows.trans
  same_refl := Workspace.Same.refl
  same_trans := Workspace.Same.trans

/-- A transaction of a workspace. -/
abbrev WorkspaceTxn := Txn Workspace RowLock HttpError

/-! ### Changes of one table -/

section Changes

variable {held : List RowLock} {db : Workspace}

/-- Changed sessions are locked. -/
theorem guarantee_sessions {rows : Table UploadSession.uploadId} (h_inv : db.WellFormed)
    (h : ∀ id, .session id ∉ held → ∀ row, db.sessions.find? id = some row →
      rows.find? id = some row) :
    workspaceDiscipline.guarantee held db { db with sessions := rows } := by
  refine ⟨⟨h_inv.assetOfSnapshot, h_inv.rules_length, h_inv.configVersion_pos⟩,
    .of_eq rfl rfl rfl rfl rfl rfl,
    fun l hl => ?_⟩
  cases l with
  | session id => exact h id hl
  | _ => simp [workspaceDiscipline, Workspace.Same, Workspace.snapshotsOf]

/-- Assets stay, changed assets are locked, and so are new names. -/
theorem guarantee_assets {rows : Table DataAsset.assetId} (h_inv : db.WellFormed)
    (h_stay : ∀ id, (db.assets.find? id).isSome → (rows.find? id).isSome)
    (h_changed : ∀ id, .asset id ∉ held → ∀ row, db.assets.find? id = some row →
      rows.find? id = some row)
    (h_names : ∀ name, .assetName name ∉ held → (∀ row ∈ db.assets.rows, row.assetName ≠ name) →
      ∀ row ∈ rows.rows, row.assetName ≠ name) :
    workspaceDiscipline.guarantee held db { db with assets := rows } := by
  have h_refl := Workspace.Grows.refl db
  refine ⟨⟨fun row h_row => h_stay _ (h_inv.assetOfSnapshot row h_row), h_inv.rules_length,
      h_inv.configVersion_pos⟩,
    ⟨h_stay, h_refl.snapshots, h_refl.jobs, h_refl.findings, h_refl.config, h_refl.rules⟩,
    fun l hl => ?_⟩
  cases l with
  | asset id => exact fun row h_row => ⟨h_changed id hl row h_row, rfl, rfl⟩
  | assetName name => exact h_names name hl
  | _ => simp [workspaceDiscipline, Workspace.Same]

/-- A new snapshot is one of a locked asset. -/
theorem guarantee_insertSnapshot {rows : Table DatasetSnapshot.snapshotId} {row : DatasetSnapshot}
    (h_inv : db.WellFormed) (h_insert : db.snapshots.insert row = some rows)
    (h_asset : (db.assets.find? row.assetId).isSome) (h_held : .asset row.assetId ∈ held) :
    workspaceDiscipline.guarantee held db { db with snapshots := rows } := by
  have h_refl := Workspace.Grows.refl db
  refine ⟨⟨?_, h_inv.rules_length, h_inv.configVersion_pos⟩,
    ⟨h_refl.assets, ?_, h_refl.jobs, h_refl.findings, h_refl.config, h_refl.rules⟩, fun l hl => ?_⟩
  · intro row' h_row'
    rw [Table.rows_of_insert h_insert, List.mem_append, List.mem_singleton] at h_row'
    rcases h_row' with h_old | rfl
    · exact h_inv.assetOfSnapshot row' h_old
    · exact h_asset
  · intro id row' h_find
    show rows.find? id = some row'
    rw [Table.find?_of_insert h_insert, if_neg, h_find]
    -- the key of the new row was free
    rintro rfl
    rw [Table.find?_none_of_insert h_insert] at h_find
    cases h_find
  · cases l with
    | asset id =>
      intro row' h_find
      refine ⟨h_find, ?_, rfl⟩
      have h_other : ¬ row.assetId = id := fun h_eq => hl (h_eq ▸ h_held)
      simp only [Workspace.snapshotsOf, Table.rows_of_insert h_insert, List.filter_append,
        List.filter_cons, h_other, decide_false, Bool.false_eq_true, if_false, List.filter_nil,
        List.append_nil]
    | _ => simp [workspaceDiscipline, Workspace.Same]

/-- Jobs stay the jobs they are, and changed jobs are locked. -/
theorem guarantee_jobs {rows : Table PrivacyScanJob.scanId} (h_inv : db.WellFormed)
    (h_stay : ∀ id row, db.jobs.find? id = some row → ∃ row', rows.find? id = some row' ∧
      row'.snapshotId = row.snapshotId ∧ row'.purpose = row.purpose ∧
      row'.pinnedRules = row.pinnedRules ∧ row'.configVersion = row.configVersion ∧
      row'.createdAt = row.createdAt)
    (h_changed : ∀ id, .job id ∉ held → ∀ row, db.jobs.find? id = some row →
      rows.find? id = some row) :
    workspaceDiscipline.guarantee held db { db with jobs := rows } := by
  have h_refl := Workspace.Grows.refl db
  refine ⟨⟨h_inv.assetOfSnapshot, h_inv.rules_length, h_inv.configVersion_pos⟩,
    ⟨h_refl.assets, h_refl.snapshots, h_stay, h_refl.findings, h_refl.config, h_refl.rules⟩,
    fun l hl => ?_⟩
  cases l with
  | job id => exact h_changed id hl
  | _ => simp [workspaceDiscipline, Workspace.Same, Workspace.snapshotsOf]

/-- Findings stay with their snapshots, and changed findings are locked. -/
theorem guarantee_findings {rows : Table SensitiveDataFinding.findingId} (h_inv : db.WellFormed)
    (h_stay : ∀ id row, db.findings.find? id = some row → ∃ row', rows.find? id = some row' ∧
      row'.snapshotId = row.snapshotId)
    (h_changed : ∀ id, .finding id ∉ held → ∀ row, db.findings.find? id = some row →
      rows.find? id = some row) :
    workspaceDiscipline.guarantee held db { db with findings := rows } := by
  have h_refl := Workspace.Grows.refl db
  refine ⟨⟨h_inv.assetOfSnapshot, h_inv.rules_length, h_inv.configVersion_pos⟩,
    ⟨h_refl.assets, h_refl.snapshots, h_refl.jobs, h_stay, h_refl.config, h_refl.rules⟩,
    fun l hl => ?_⟩
  cases l with
  | finding id => exact h_changed id hl
  | _ => simp [workspaceDiscipline, Workspace.Same, Workspace.snapshotsOf]

/-- A changed protection version is that of a locked asset. -/
theorem guarantee_revisions {rows : Table ProtectionRevision.assetId} (h_inv : db.WellFormed)
    (h : ∀ id, .asset id ∉ held → rows.find? id = db.revisions.find? id) :
    workspaceDiscipline.guarantee held db { db with revisions := rows } := by
  refine ⟨⟨h_inv.assetOfSnapshot, h_inv.rules_length, h_inv.configVersion_pos⟩,
    .of_eq rfl rfl rfl rfl rfl rfl,
    fun l hl => ?_⟩
  cases l with
  | asset id => exact fun row h_row => ⟨h_row, rfl, h id hl⟩
  | _ => simp [workspaceDiscipline, Workspace.Same]

/-- No lock protects the classifications and the policies. -/
theorem guarantee_declarations {classifications : Table ColumnClassification.key}
    {policies : Table DataProtectionPolicy.key} (h_inv : db.WellFormed) :
    workspaceDiscipline.guarantee held db
      { db with classifications := classifications, policies := policies } := by
  refine ⟨⟨h_inv.assetOfSnapshot, h_inv.rules_length, h_inv.configVersion_pos⟩,
    .of_eq rfl rfl rfl rfl rfl rfl,
    fun l hl => ?_⟩
  cases l <;> simp [workspaceDiscipline, Workspace.Same, Workspace.snapshotsOf]

/-- A change of the rules holds the configuration row, or the seeding lock where there is none. -/
theorem guarantee_config {configVersion : ℕ} {rules : List PrivacyDetectorRule}
    (h_inv : db.WellFormed) (h_pos : 1 ≤ configVersion)
    (h_length : rules.length = configVersion + 8)
    (h_version : ∀ v, db.configVersion = some v → v ≤ configVersion)
    (h_rules : db.rules <+: rules)
    (h_held : ∀ v, db.configVersion = some v → .config ∈ held)
    (h_held' : db.configVersion = none → .seeding ∈ held) :
    workspaceDiscipline.guarantee held db
      { db with configVersion := some configVersion, rules := rules } := by
  have h_refl := Workspace.Grows.refl db
  refine ⟨⟨h_inv.assetOfSnapshot, ?_, ?_⟩, ⟨h_refl.assets, h_refl.snapshots, h_refl.jobs,
    h_refl.findings, ?_, h_rules⟩, fun l hl => ?_⟩
  · rw [Option.map_some, Option.getD_some]
    exact h_length
  · rintro v ⟨⟩
    exact h_pos
  · exact fun v h_v => ⟨configVersion, rfl, h_version v h_v⟩
  · cases l with
    | config => exact fun v h_v => absurd (h_held v h_v) hl
    | seeding => exact fun h_none => absurd (h_held' h_none) hl
    | _ => simp [workspaceDiscipline, Workspace.Same, Workspace.snapshotsOf]

end Changes

/-! ### What a locked row relies on -/

section Rely

variable {held : List RowLock} {db db' : Workspace}

/-- A locked session stays as it was read. -/
theorem rely_session (h : workspaceDiscipline.rely held db db') {id : Uuid}
    (h_held : .session id ∈ held) {row : UploadSession} (h_find : db.sessions.find? id = some row) :
    db'.sessions.find? id = some row :=
  h.same (.session id) h_held row h_find

/-- A locked asset stays with its snapshots and revision. -/
theorem rely_asset (h : workspaceDiscipline.rely held db db') {id : Uuid}
    (h_held : .asset id ∈ held) {row : DataAsset} (h_find : db.assets.find? id = some row) :
    db'.assets.find? id = some row ∧ db'.snapshotsOf id = db.snapshotsOf id ∧
      db'.revisions.find? id = db.revisions.find? id :=
  h.same (.asset id) h_held row h_find

/-- A locked job stays as it was read. -/
theorem rely_job (h : workspaceDiscipline.rely held db db') {id : Uuid} (h_held : .job id ∈ held)
    {row : PrivacyScanJob} (h_find : db.jobs.find? id = some row) :
    db'.jobs.find? id = some row :=
  h.same (.job id) h_held row h_find

/-- A locked finding stays as it was read. -/
theorem rely_finding (h : workspaceDiscipline.rely held db db') {id : FindingId}
    (h_held : .finding id ∈ held) {row : SensitiveDataFinding}
    (h_find : db.findings.find? id = some row) : db'.findings.find? id = some row :=
  h.same (.finding id) h_held row h_find

/-- A locked configuration stays with its rules. -/
theorem rely_config (h : workspaceDiscipline.rely held db db') (h_held : .config ∈ held) {v : ℕ}
    (h_config : db.configVersion = some v) :
    db'.configVersion = some v ∧ db'.rules = db.rules :=
  h.same .config h_held v h_config

/-- While the seeding is locked nobody else initialises. -/
theorem rely_seeding (h : workspaceDiscipline.rely held db db') (h_held : .seeding ∈ held)
    (h_none : db.configVersion = none) : db'.configVersion = none ∧ db'.rules = db.rules :=
  h.same .seeding h_held h_none

end Rely

end DqScoring
