import DqScoring.Privacy.FailClosed
import DqScoring.Privacy.FindingDecisions

/-!
# What a decision counts for

A finding of a new scan starts with the decision on the finding of the previous one. For the
protection of a column the decisions on the latest scan are not all that counts: what was
confirmed in an earlier scan keeps a column protected, also where the same finding is dismissed in
the latest one. `decisions_count` is the law for every history, and `dismissed_staysProtected` a
history in which the two scans disagree.
-/

namespace DqScoring

open Framework Relation

/-! ### What counts for the protection of a column -/

/-- The latest APPLY scan of a snapshot is complete and of the current configuration. -/
structure Workspace.IsCurrentScan (db : Workspace) (snapshotId : Uuid) (job : PrivacyScanJob) :
    Prop where
  latest : db.latestApplyJob snapshotId = some job
  complete : job.state = .complete
  current : job.configVersion = db.configVersion.getD 0

/-- Every finding of a scan on a column is dismissed. -/
def Workspace.AllDismissed (db : Workspace) (scanId : Uuid) (name : String) : Prop :=
  ∀ f ∈ db.findings.rows, f.scanId = some scanId → f.findingId.columnName = name →
    f.status = .dismissed

/-- No sensitive category is declared for a column. -/
def Workspace.Undeclared (db : Workspace) (assetId : Uuid) (name : String) : Prop :=
  ∀ category, ((db.declarations assetId).lookup name).map Prod.fst ≠ some (.sensitive category)

/-- A finding on a column is confirmed, and not one of the scan. -/
def Workspace.ConfirmedBefore (db : Workspace) (snapshotId scanId : Uuid) (name : String) : Prop :=
  ∃ f ∈ db.findings.rows, f.snapshotId = snapshotId ∧ f.scanId ≠ some scanId ∧
    f.findingId.columnName = name ∧ f.status = .confirmed

/-- `resolve_snapshot_protection` reports a column as unprotected. -/
def ReportsUnprotected (db : Workspace) (snapshotId : Uuid) (name : String) : Prop :=
  ∃ protection, (resolveSnapshotProtection snapshotId).alone some db = some (protection, db) ∧
    ∀ column ∈ protection.columns, column.columnName = name → column.isProtected = false

section Resolved

variable {db : Workspace} {snapshotId : Uuid} {job : PrivacyScanJob}

/-- A latest APPLY job that is complete is the latest complete one. -/
theorem Workspace.IsCurrentScan.latestComplete (h : db.IsCurrentScan snapshotId job) :
    db.latestCompleteJob snapshotId = some job := by
  have h_latest := h.latest
  rw [Workspace.latestApplyJob, Workspace.latestJob] at h_latest
  obtain ⟨h_row, h_selected⟩ := List.mem_filter.mp (List.argmax_mem h_latest)
  rw [Bool.and_eq_true, decide_eq_true_eq, decide_eq_true_eq] at h_selected
  have h_mem : job ∈ db.jobs.rows.filter fun j => decide (j.snapshotId = snapshotId)
      && (decide (j.purpose = .apply) && decide (j.state = .complete)) := by
    refine List.mem_filter.mpr ⟨h_row, ?_⟩
    simp only [h_selected, h.complete, decide_true, Bool.and_self]
  cases h_complete : db.latestCompleteJob snapshotId with
  | none =>
    rw [Workspace.latestCompleteJob, Workspace.latestJob, List.argmax_eq_none] at h_complete
    rw [h_complete] at h_mem
    cases h_mem
  | some job' =>
    rw [Workspace.latestCompleteJob, Workspace.latestJob] at h_complete
    obtain ⟨h_row', h_selected'⟩ := List.mem_filter.mp (List.argmax_mem h_complete)
    simp only [Bool.and_eq_true, decide_eq_true_eq] at h_selected'
    have h_apply : job' ∈ db.jobs.rows.filter fun j => decide (j.snapshotId = snapshotId)
        && decide (j.purpose = .apply) := by
      refine List.mem_filter.mpr ⟨h_row', ?_⟩
      simp only [h_selected', decide_true, Bool.and_self]
    -- each is at most the other, and no two jobs have one key
    have h_le := List.le_of_mem_argmax h_apply h_latest
    have h_ge := List.le_of_mem_argmax h_mem h_complete
    have h_key := congrArg (fun key => (ofLex key).2) (le_antisymm h_le h_ge)
    have h_id : job'.scanId = job.scanId := Uuid.value_injective h_key
    rw [List.inj_on_of_nodup_map db.jobs.nodup_keys h_row' h_row h_id]

/-- A current scan counts as complete. -/
theorem Workspace.IsCurrentScan.scanState (h : db.IsCurrentScan snapshotId job)
    (manifest : Manifest) : db.scanStateOf snapshotId manifest = ("COMPLETE", false) := by
  simp only [Workspace.scanStateOf, h.latest, h.complete, h.current, ne_eq, not_true_eq_false,
    decide_false, Bool.false_and]
  rfl

/-- A dismissed finding is not active, and a finding of another scan is if it is confirmed. -/
theorem isExposed_iff {row : DatasetSnapshot} {name : String}
    (h : db.IsCurrentScan row.snapshotId job)
    (h_dismissed : db.AllDismissed job.scanId name)
    (h_undeclared : db.Undeclared row.assetId name) :
    IsExposed db row name ↔ ¬ db.ConfirmedBefore row.snapshotId job.scanId name := by
  have h_active : ∀ f, db.isActiveFinding f = true ↔ f.status = .confirmed ∨
      f.scanId = (db.latestCompleteJob f.snapshotId).map PrivacyScanJob.scanId := by
    intro f
    rw [Workspace.isActiveFinding, Bool.or_eq_true, decide_eq_true_eq, decide_eq_true_eq]
  constructor
  · rintro h_exposed ⟨f, h_f, h_snapshot, h_scan, h_column, h_status⟩
    refine (h_exposed f.category).1 (List.mem_map.mpr ⟨f, List.mem_filter.mpr ⟨h_f, ?_⟩, ?_⟩)
    · rw [Bool.and_eq_true, Bool.and_eq_true, h_active, decide_eq_true_eq, decide_eq_true_eq,
        h_status]
      exact ⟨⟨h_snapshot, fun h_eq => by cases h_eq⟩, .inl rfl⟩
    · rw [h_column]
  · intro h_none category
    refine ⟨fun h_detected => ?_, h_undeclared category⟩
    obtain ⟨f, h_f, h_eq⟩ := List.mem_map.mp h_detected
    obtain ⟨h_mem, h_selected⟩ := List.mem_filter.mp h_f
    rw [Bool.and_eq_true, Bool.and_eq_true, h_active, decide_eq_true_eq, decide_eq_true_eq]
      at h_selected
    obtain ⟨⟨h_snapshot, h_status⟩, h_active_f⟩ := h_selected
    have h_column : f.findingId.columnName = name := congrArg Prod.fst h_eq
    have h_scan : f.scanId ≠ some job.scanId := fun h_scan =>
      h_status (h_dismissed f h_mem h_scan h_column)
    rcases h_active_f with h_confirmed | h_latest
    · exact h_none ⟨f, h_mem, h_snapshot, h_scan, h_column, h_confirmed⟩
    · rw [h_snapshot, h.latestComplete] at h_latest
      exact h_scan h_latest

/-- When a column counts as unprotected under a current scan. -/
theorem reportsUnprotected_iff {row : DatasetSnapshot} {name : String}
    (h_row : db.snapshots.find? row.snapshotId = some row)
    (h_name : name ∈ row.columns.map ColumnDefinition.name)
    (h : db.IsCurrentScan row.snapshotId job) :
    ReportsUnprotected db row.snapshotId name ↔ IsExposed db row name := by
  have h_alone := resolve_alone db row.snapshotId
  rw [h_row, Option.map_some, h.scanState] at h_alone
  have h_verified : (decide (("COMPLETE", false).1 = "COMPLETE") && !("COMPLETE", false).2) =
    true :=
    rfl
  constructor
  · rintro ⟨protection, h_protection, h_columns⟩
    rw [h_alone] at h_protection
    obtain rfl := (Prod.mk.inj (Option.some.inj h_protection)).1
    obtain ⟨column, h_column, rfl⟩ := List.mem_map.mp h_name
    have h_false := h_columns _ (List.mem_map_of_mem h_column) rfl
    exact (isProtected_eq_false_iff.mp h_false).2
  · intro h_exposed
    refine ⟨_, h_alone, fun column h_column h_eq => ?_⟩
    obtain ⟨definition, -, rfl⟩ := List.mem_map.mp h_column
    rw [show definition.name = name from h_eq]
    exact isProtected_eq_false_iff.mpr ⟨h_verified, h_exposed⟩

end Resolved

/-! ### Decisions over a history -/

/-- What a finding of a publication starts with. -/
structure StartsAsDecided (db db' : Workspace) (claim : ScanClaim) (f : ScanFinding)
    (row : SensitiveDataFinding) : Prop where
  found : db'.findings.find? ⟨claim.scanId, f.columnName, f.path, f.detectorCode,
    f.detectorRevision⟩ = some row
  scan : row.scanId = some claim.scanId
  inherited : ∀ d, IsPreviousFinding db claim f d → row.status = d.status
  detected : (∀ d, ¬ IsPreviousFinding db claim f d) → row.status = .detected

/-- What counts of the decisions in a state, and in what is published next. -/
structure DecisionsCount (s : WorkspaceState) : Prop where
  /-- Where all is dismissed in the current scan, what is confirmed before it counts. -/
  dismissed : ∀ row job name, s.db.snapshots.find? row.snapshotId = some row →
    name ∈ row.columns.map ColumnDefinition.name → s.db.IsCurrentScan row.snapshotId job →
    s.db.AllDismissed job.scanId name → s.db.Undeclared row.assetId name →
    (ReportsUnprotected s.db row.snapshotId name ↔
      ¬ s.db.ConfirmedBefore row.snapshotId job.scanId name)
  published : ∀ s' i workerId claim findings now, TxnSystem.Step workspaceSystem s s' →
    s'.log = .committed i (.scan (.publish workerId claim findings now)) (.scan (.published true))
      :: s.log → claim.purpose = .apply →
    ∀ f ∈ findings, (f.ruleId.isSome → f.ruleRevision.isSome) →
      ∃ row, StartsAsDecided s.db s'.db claim f row

/-- **Decisions count.** In every history of scans and decisions. -/
theorem decisions_count {s : WorkspaceState} (h : WorkspaceReachable BeforeScans s) :
    DecisionsCount s := by
  have h_linked := linked_of_reachable h
  refine ⟨fun row job name h_row h_name h_current h_dismissed h_undeclared => ?_,
    fun s' i workerId claim findings now h_step h_log h_apply f h_f h_revision => ?_⟩
  · rw [reportsUnprotected_iff h_row h_name h_current,
      isExposed_iff h_current h_dismissed h_undeclared]
  · have h_rows := findings_of_publish h h_step h_log h_apply
    let row := findingRow claim.scanId claim.snapshotId (some claim.scanId)
      ((s.db.decisionsBefore claim).reverse.find? (isDecisionOn f)) f
    have h_mem : row ∈ s'.db.findings.rows := by
      rw [h_rows]
      exact List.mem_append_right _ (List.mem_map_of_mem h_f)
    refine ⟨row, Table.find?_eq_some_iff.mpr ⟨h_mem, rfl⟩, rfl, fun d h_d => ?_, fun h_none => ?_⟩
    · exact find?_decisions h_linked (h_revision h_d.rule.1) h_d
    · show (Option.map _ _).getD _ = _
      rw [find?_decisions_eq_none h_none]
      rfl

/-! ### Two scans that are decided on -/

/-- A finding of the builtin rule for e-mail addresses. -/
def emailFinding : ScanFinding where
  columnName := "email"
  path := "$"
  category := .basicPersonalData
  detectorCode := "EMAIL"
  detectorRevision := "builtin-v1"
  matchedCount := 1
  observedCount := 1
  method := .valuePattern
  ruleId := some (.builtin .email)
  ruleRevision := some 1

/-- A decision on the finding of a scan. -/
def decideEmail (scanId : Uuid) (expectedStatus newStatus : FindingStatus) : WorkspaceRequest :=
  .protection (.review (Uuid.repeated 5) ⟨scanId, "email", "$", "EMAIL", "builtin-v1"⟩
    expectedStatus newStatus "reviewed")

/-- A scan whose finding is decided on, and another scan. -/
def rescan (decision : FindingStatus) : List (ℕ × WorkspaceRequest) :=
  (0, createRequest (Uuid.repeated 3) 1) :: scanRun 1 (Uuid.repeated 3) 2 [emailFinding]
    ++ (4, decideEmail (Uuid.repeated 3) .detected decision)
    :: (5, createRequest (Uuid.repeated 4) 10) :: scanRun 6 (Uuid.repeated 4) 11 [emailFinding]

/-- The other decision on the finding of the second scan. -/
def rescanAndDismiss : List (ℕ × WorkspaceRequest) :=
  rescan .confirmed ++ [(9, decideEmail (Uuid.repeated 4) .confirmed .dismissed)]

instance (db : Workspace) (scanId : Uuid) (name : String) :
    Decidable (db.AllDismissed scanId name) :=
  inferInstanceAs (Decidable (∀ f ∈ db.findings.rows, f.scanId = some scanId →
    f.findingId.columnName = name → f.status = .dismissed))

/-- The current scan is complete, all its findings are dismissed, and nothing is declared. -/
def Workspace.IsSettled (db : Workspace) : Prop :=
  (db.latestApplyJob (Uuid.repeated 2)).any (fun job => decide (job.state = .complete ∧
      job.configVersion = db.configVersion.getD 0 ∧ db.AllDismissed job.scanId "email")) = true ∧
    db.classifications.rows = [] ∧ db.snapshots.rows = [legacySnapshot]

instance (db : Workspace) : Decidable db.IsSettled := inferInstanceAs (Decidable (_ ∧ _ ∧ _))

/-- The sample workspace declares nothing. -/
theorem Workspace.IsSettled.undeclared {db : Workspace} (h : db.IsSettled) (assetId : Uuid)
    (name : String) : db.Undeclared assetId name := by
  intro category
  rw [Workspace.declarations, h.2.1]
  exact fun h_eq => by cases h_eq

/-- The sample workspace has a current scan. -/
theorem Workspace.IsSettled.current {db : Workspace} (h : db.IsSettled) :
    ∃ job, db.IsCurrentScan (Uuid.repeated 2) job ∧ db.AllDismissed job.scanId "email" := by
  obtain ⟨job, h_latest, h_job⟩ := (Option.any_eq_true _ _).mp h.1
  obtain ⟨h_complete, h_version, h_dismissed⟩ := of_decide_eq_true h_job
  exact ⟨job, ⟨h_latest, h_complete, h_version⟩, h_dismissed⟩

theorem Workspace.IsSettled.snapshot {db : Workspace} (h : db.IsSettled) :
    db.snapshots.find? legacySnapshot.snapshotId = some legacySnapshot :=
  Table.find?_eq_some_iff.mpr ⟨h.2.2 ▸ List.mem_cons_self, rfl⟩

theorem legacy_beforeScans :
    TxnSystem.Initial BeforeScans (⟨legacyWorkspace, fun _ => none, []⟩ : WorkspaceState) :=
  ⟨⟨⟨legacyWorkspace_wellFormed, rfl⟩, fun _ h_f => by cases h_f⟩, fun _ => rfl, rfl⟩

/-- A finding that was dismissed is dismissed in the next scan, and the column is unprotected. -/
theorem decisions_count_rescan : ∃ s : WorkspaceState, WorkspaceReachable BeforeScans s ∧
    s.db.findings.rows.map (fun f => (f.scanId, f.status))
      = [(some (Uuid.repeated 3), .dismissed), (some (Uuid.repeated 4), .dismissed)] ∧
    ReportsUnprotected s.db (Uuid.repeated 2) "email" := by
  have h_run : (workspaceSystem.serial (rescan .dismissed) legacyWorkspace []).map (fun x =>
      decide (x.1.IsSettled ∧ x.1.findings.rows.map (fun f => (f.scanId, f.status))
        = [(some (Uuid.repeated 3), .dismissed), (some (Uuid.repeated 4), .dismissed)] ∧
          workspaceSystem.SerialAllowed (rescan .dismissed) legacyWorkspace [])) = some true := by
    decide
  obtain ⟨⟨db, log⟩, h_serial, h_decide⟩ := Option.map_eq_some_iff.mp h_run
  obtain ⟨h_settled, h_rows, h_allowed⟩ := of_decide_eq_true h_decide
  have h_reachable : WorkspaceReachable BeforeScans ⟨db, fun _ => none, log⟩ :=
    ⟨_, legacy_beforeScans, TxnSystem.run_serial h_allowed h_serial⟩
  obtain ⟨job, h_current, h_dismissed⟩ := h_settled.current
  refine ⟨_, h_reachable, h_rows, ?_⟩
  refine ((decisions_count h_reachable).dismissed legacySnapshot job "email" h_settled.snapshot
    (by decide) h_current h_dismissed (h_settled.undeclared _ _)).mpr ?_
  rintro ⟨f, h_f, -, -, -, h_confirmed⟩
  -- no finding is confirmed
  have h_pair := List.mem_map_of_mem (f := fun f : SensitiveDataFinding => (f.scanId, f.status)) h_f
  rw [show db.findings.rows.map (fun f => (f.scanId, f.status)) = _ from h_rows, h_confirmed]
    at h_pair
  simp at h_pair

/-- **A confirmed finding outlives its dismissal.** Where the finding is confirmed in the first scan
and dismissed in the second, the column stays protected. -/
theorem dismissed_staysProtected : ¬ ∀ s : WorkspaceState, WorkspaceReachable BeforeScans s →
    ∀ row job name, s.db.snapshots.find? row.snapshotId = some row →
      name ∈ row.columns.map ColumnDefinition.name → s.db.IsCurrentScan row.snapshotId job →
      s.db.AllDismissed job.scanId name → s.db.Undeclared row.assetId name →
      ReportsUnprotected s.db row.snapshotId name := by
  intro h_all
  have h_run : (workspaceSystem.serial rescanAndDismiss legacyWorkspace []).map (fun x =>
      (decide (x.1.IsSettled ∧
          workspaceSystem.SerialAllowed rescanAndDismiss legacyWorkspace []),
        ((resolveSnapshotProtection (Uuid.repeated 2)).alone some x.1).map fun p =>
          p.1.columns.map fun c => (c.columnName, c.isProtected)))
      = some (true, some [("email", true)]) := by
    decide
  obtain ⟨⟨db, log⟩, h_serial, h_eq⟩ := Option.map_eq_some_iff.mp h_run
  obtain ⟨h_decide, h_columns⟩ := Prod.mk.inj h_eq
  obtain ⟨h_settled, h_allowed⟩ := of_decide_eq_true h_decide
  have h_reachable : WorkspaceReachable BeforeScans ⟨db, fun _ => none, log⟩ :=
    ⟨_, legacy_beforeScans, TxnSystem.run_serial h_allowed h_serial⟩
  obtain ⟨job, h_current, h_dismissed⟩ := h_settled.current
  obtain ⟨protection, h_alone, h_unprotected⟩ := h_all _ h_reachable legacySnapshot job "email"
    h_settled.snapshot (by decide) h_current h_dismissed (h_settled.undeclared _ _)
  obtain ⟨⟨protection', db'⟩, h_alone', h_list⟩ := Option.map_eq_some_iff.mp h_columns
  rw [show (resolveSnapshotProtection (Uuid.repeated 2)).alone some db = _ from h_alone] at h_alone'
  obtain rfl := (Prod.mk.inj (Option.some.inj h_alone')).1
  obtain ⟨column, h_column, h_pair⟩ := List.mem_map.mp
    (h_list ▸ List.mem_cons_self : ("email", true) ∈ protection.columns.map fun c =>
      (c.columnName, c.isProtected))
  obtain ⟨h_name, h_protected⟩ := Prod.mk.inj h_pair
  rw [h_unprotected column h_column h_name] at h_protected
  cases h_protected

end DqScoring
