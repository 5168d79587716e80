import DqScoring.Privacy.LatestScan

/-!
# Decisions on findings

`_write_findings` copies the decisions on the findings of the previous complete scan to those
of the new one, and `ACTIVE_FINDINGS_SQL` keeps what was confirmed in any scan. What a publication
reads are two statements, and the decisions it copies are those at its commit: it holds the lock
of the asset, and whoever decides on a finding of the asset, or completes a scan of it, holds that
lock too (`DecisionsSame`). `findings_of_publish` says so for every interleaving.
-/

namespace DqScoring

open Framework Relation

/-! ### The previous scan -/

namespace Workspace

/-- The complete APPLY jobs of a snapshot. -/
def completeJobs (db : Workspace) (snapshotId : Uuid) : List PrivacyScanJob :=
  db.jobs.rows.filter fun j => decide (j.snapshotId = snapshotId)
    && (decide (j.purpose = .apply) && decide (j.state = .complete))

/-- The findings of a snapshot. -/
def findingsOf (db : Workspace) (snapshotId : Uuid) : List SensitiveDataFinding :=
  db.findings.rows.filter fun f => decide (f.snapshotId = snapshotId)

/-- The latest complete APPLY job of a snapshot that is not the given one. -/
def previousJob (db : Workspace) (snapshotId scanId : Uuid) : Option PrivacyScanJob :=
  db.latestJob snapshotId fun j => decide (j.purpose = .apply) && decide (j.state = .complete)
    && decide (j.scanId ≠ scanId)

/-- The decisions on the findings of the previous scan. -/
def decisionsBefore (db : Workspace) (claim : ScanClaim) : List SensitiveDataFinding :=
  match db.previousJob claim.snapshotId claim.scanId with
  | none => []
  | some previous => db.decisions previous.scanId

/-- Every finding of a scan is one of the snapshot of the scan, and a scan has one finding for a
rule on a path. -/
structure FindingsLinked (db : Workspace) : Prop where
  scan : ∀ f ∈ db.findings.rows, ∀ id, f.scanId = some id →
    ∃ job, db.jobs.find? id = some job ∧ job.snapshotId = f.snapshotId
  index : db.findings.HasUniqueIndex scanRuleKey

end Workspace

section Previous

variable {db db' : Workspace} {snapshotId scanId : Uuid}

/-- The query for the latest job picks the newest of the completed ones that match. -/
theorem latestJob_eq (p : PrivacyScanJob → Bool) : db.latestJob snapshotId (fun j =>
    decide (j.purpose = .apply) && decide (j.state = .complete) && p j)
      = ((db.completeJobs snapshotId).filter p).argmax fun j =>
        toLex (j.createdAt, j.scanId.value) := by
  rw [Workspace.latestJob, Workspace.completeJobs, List.filter_filter]
  congr 2
  funext j
  rw [Bool.and_comm (p j)]
  simp only [Bool.and_assoc]

/-- The previous job depends on the completed jobs of the snapshot only. -/
theorem previousJob_congr (h : db'.completeJobs snapshotId = db.completeJobs snapshotId)
    (scanId : Uuid) : db'.previousJob snapshotId scanId = db.previousJob snapshotId scanId := by
  rw [Workspace.previousJob, Workspace.previousJob, latestJob_eq, latestJob_eq, h]

/-- The previous job is a completed job of the same snapshot. -/
theorem previousJob_eq_some {job : PrivacyScanJob}
    (h : db.previousJob snapshotId scanId = some job) :
    db.jobs.find? job.scanId = some job ∧ job.snapshotId = snapshotId := by
  rw [Workspace.previousJob, latestJob_eq] at h
  have h_mem := (List.mem_filter.mp (List.argmax_mem h)).1
  obtain ⟨h_row, h_selected⟩ := List.mem_filter.mp h_mem
  rw [Bool.and_eq_true, decide_eq_true_eq] at h_selected
  exact ⟨Table.find?_eq_some_iff.mpr ⟨h_row, rfl⟩, h_selected.1⟩

/-- The findings of a scan are found among those of its snapshot. -/
theorem Workspace.FindingsLinked.decisions_eq (h : db.FindingsLinked) {job : PrivacyScanJob}
    (h_job : db.jobs.find? job.scanId = some job) :
    db.decisions job.scanId = (db.findingsOf job.snapshotId).filter fun f =>
      decide (f.scanId = some job.scanId)
        && (decide (f.status = .confirmed) || decide (f.status = .dismissed)) &&
        f.ruleId.isSome := by
  rw [Workspace.decisions, Workspace.findingsOf, List.filter_filter]
  refine List.filter_congr fun f h_f => ?_
  by_cases h_scan : f.scanId = some job.scanId
  · obtain ⟨job', h_job', h_snapshot⟩ := h.scan f h_f _ h_scan
    rw [h_job] at h_job'
    obtain rfl := Option.some.inj h_job'
    rw [decide_eq_true h_snapshot.symm, Bool.and_true]
  · rw [decide_eq_false h_scan, Bool.false_and, Bool.false_and, Bool.false_and]

/-- The earlier decisions depend on the completed jobs and the findings of the snapshot
only. -/
theorem decisionsBefore_congr {claim : ScanClaim} (h : db.FindingsLinked) (h' : db'.FindingsLinked)
    (h_jobs : db'.completeJobs claim.snapshotId = db.completeJobs claim.snapshotId)
    (h_findings : db'.findingsOf claim.snapshotId = db.findingsOf claim.snapshotId) :
    db'.decisionsBefore claim = db.decisionsBefore claim := by
  have h_previous := previousJob_congr h_jobs claim.scanId
  rw [Workspace.decisionsBefore, Workspace.decisionsBefore, h_previous]
  cases h_job : db.previousJob claim.snapshotId claim.scanId with
  | none => rfl
  | some job =>
    rw [h_job] at h_previous
    obtain ⟨h_find, h_snapshot⟩ := previousJob_eq_some h_job
    obtain ⟨h_find', -⟩ := previousJob_eq_some h_previous
    show db'.decisions job.scanId = db.decisions job.scanId
    rw [h.decisions_eq h_find, h'.decisions_eq h_find', h_snapshot, h_findings]

end Previous

/-! ### What the lock of an asset protects in addition -/

/-- The complete scans of the snapshots of an asset, and their findings. -/
def DecisionsSame : RowLock → Workspace → Workspace → Prop
  | .asset id, db, db' => ∀ snapshotId row, db.snapshots.find? snapshotId = some row →
      row.assetId = id → db'.snapshots.find? snapshotId = some row ∧
        db'.completeJobs snapshotId = db.completeJobs snapshotId ∧
        db'.findingsOf snapshotId = db.findingsOf snapshotId
  | _, _, _ => True

theorem DecisionsSame.refl (l : RowLock) (db : Workspace) : DecisionsSame l db db := by
  cases l with
  | asset => exact fun snapshotId row h_row _ => ⟨h_row, rfl, rfl⟩
  | _ => trivial

/-- What a lock protects stays the same over two moves. -/
theorem DecisionsSame.trans {l : RowLock} {db₁ db₂ db₃ : Workspace} (h : DecisionsSame l db₁ db₂)
    (h' : DecisionsSame l db₂ db₃) : DecisionsSame l db₁ db₃ := by
  cases l with
  | asset =>
    intro snapshotId row h_row h_asset
    obtain ⟨h_row₂, h_jobs₂, h_findings₂⟩ := h snapshotId row h_row h_asset
    obtain ⟨h_row₃, h_jobs₃, h_findings₃⟩ := h' snapshotId row h_row₂ h_asset
    exact ⟨h_row₃, h_jobs₃.trans h_jobs₂, h_findings₃.trans h_findings₂⟩
  | _ => trivial

/-- The row locks of a workspace, where the lock of an asset protects its decisions. -/
abbrev decisionDiscipline : Discipline Workspace RowLock :=
  workspaceDiscipline.strengthened Workspace.FindingsLinked DecisionsSame DecisionsSame.refl
    DecisionsSame.trans

/-! ### What a request does to the decisions -/

section Kept

variable {db db' : Workspace}

/-- A change of other things than the findings and complete scans of the snapshots there are. -/
structure DecisionsKept (db db' : Workspace) : Prop where
  linked : db.FindingsLinked → db'.FindingsLinked
  same : ∀ l, DecisionsSame l db db'

/-- A move that leaves jobs and findings of every snapshot alone keeps the decisions. -/
theorem DecisionsKept.of_same (h_linked : db.FindingsLinked → db'.FindingsLinked)
    (h : ∀ snapshotId row, db.snapshots.find? snapshotId = some row →
      db'.snapshots.find? snapshotId = some row ∧
        db'.completeJobs snapshotId = db.completeJobs snapshotId ∧
        db'.findingsOf snapshotId = db.findingsOf snapshotId) : DecisionsKept db db' where
  linked := h_linked
  same l := by
    cases l with
    | asset => exact fun snapshotId row h_row _ => h snapshotId row h_row
    | _ => trivial

/-- Decisions that each of two moves keeps are kept by both. -/
theorem DecisionsKept.trans {db₁ db₂ db₃ : Workspace} (h : DecisionsKept db₁ db₂)
    (h' : DecisionsKept db₂ db₃) : DecisionsKept db₁ db₃ :=
  ⟨h'.linked ∘ h.linked, fun l => (h.same l).trans (h'.same l)⟩

/-- A move that touches none of the three tables keeps the decisions. -/
theorem DecisionsKept.of_eq (h_snapshots : db'.snapshots = db.snapshots)
    (h_jobs : db'.jobs = db.jobs) (h_findings : db'.findings = db.findings) :
    DecisionsKept db db' := by
  refine .of_same (fun h => ⟨?_, ?_⟩) fun snapshotId row h_row => ⟨?_, ?_, ?_⟩
  · rw [h_findings, h_jobs]
    exact h.scan
  · rw [h_findings]
    exact h.index
  · rw [h_snapshots]
    exact h_row
  · rw [Workspace.completeJobs, h_jobs]
    rfl
  · rw [Workspace.findingsOf, h_findings]
    rfl

/-- Jobs that keep their snapshots keep the findings linked. -/
theorem FindingsLinked.of_jobs (h : db.FindingsLinked) (h_findings : db'.findings = db.findings)
    (h_jobs : ∀ id job, db.jobs.find? id = some job →
      ∃ job', db'.jobs.find? id = some job' ∧ job'.snapshotId = job.snapshotId) :
    db'.FindingsLinked := by
  refine ⟨?_, ?_⟩
  · intro f h_f id h_id
    rw [h_findings] at h_f
    obtain ⟨job, h_job, h_snapshot⟩ := h.scan f h_f id h_id
    obtain ⟨job', h_job', h_snapshot'⟩ := h_jobs id job h_job
    exact ⟨job', h_job', h_snapshot'.trans h_snapshot⟩
  · rw [h_findings]
    exact h.index

/-- A filter does not see a change of rows that it does not select. -/
theorem filter_map_of_unselected {ρ : Type} {p : ρ → Bool} {f : ρ → ρ} {rows : List ρ}
    (h : ∀ r ∈ rows, f r = r ∨ (p r = false ∧ p (f r) = false)) :
    (rows.map f).filter p = rows.filter p := by
  induction rows with
  | nil => rfl
  | cons r rows ih =>
    have h_rest := ih fun r' h_r' => h r' (List.mem_cons_of_mem r h_r')
    rw [List.map_cons, List.filter_cons, List.filter_cons, h_rest]
    rcases h r List.mem_cons_self with h_eq | ⟨h_before, h_after⟩
    · rw [h_eq]
    · rw [h_before, h_after]
      rfl

/-- An update of a job that is of another snapshot, or not complete before and after. -/
theorem completeJobs_updateJob {scanId snapshotId : Uuid} {job : PrivacyScanJob}
    {f : PrivacyScanJob → PrivacyScanJob} (hf : KeepsJob f)
    (h_find : db.jobs.find? scanId = some job)
    (h : job.snapshotId ≠ snapshotId ∨ job.state ≠ .complete ∧ (f job).state ≠ .complete) :
    (db.updateJob scanId f hf.scanId).completeJobs snapshotId = db.completeJobs snapshotId := by
  refine filter_map_of_unselected fun j h_j => ?_
  by_cases h_id : j.scanId = scanId
  · refine .inr ?_
    -- the key is that of the job
    have h_found : db.jobs.find? scanId = some j := Table.find?_eq_some_iff.mpr ⟨h_j, h_id⟩
    rw [h_find] at h_found
    obtain rfl := Option.some.inj h_found
    obtain ⟨h_keeps, -⟩ := hf.keeps job
    rw [if_pos (decide_eq_true h_id), h_keeps]
    rcases h with h_other | ⟨h_before, h_after⟩
    · rw [decide_eq_false h_other]
      exact ⟨Bool.false_and _, Bool.false_and _⟩
    · simp only [h_before, h_after, decide_false, Bool.and_false, and_self]
  · refine .inl ?_
    rw [if_neg]
    rw [decide_eq_true_eq]
    exact h_id

/-- An updated job is still there, with the snapshot it had. -/
theorem find?_updateJob {scanId id : Uuid} {job : PrivacyScanJob}
    {f : PrivacyScanJob → PrivacyScanJob} (hf : KeepsJob f) (h_find : db.jobs.find? id = some job) :
    ∃ job', (db.updateJob scanId f hf.scanId).jobs.find? id = some job' ∧
      job'.snapshotId = job.snapshotId := by
  have h_update : (db.updateJob scanId f hf.scanId).jobs.find? id
      = if id = scanId then (db.jobs.find? scanId).map f else db.jobs.find? id :=
    Table.find?_update _ _ _ hf.scanId _
  rw [h_update]
  by_cases h_id : id = scanId
  · subst h_id
    rw [if_pos rfl, h_find]
    exact ⟨f job, rfl, (hf.keeps job).1⟩
  · rw [if_neg h_id]
    exact ⟨job, h_find, rfl⟩

/-- The update of a job that is not complete, before and after. -/
theorem DecisionsKept.of_updateJob {scanId : Uuid} {job : PrivacyScanJob}
    {f : PrivacyScanJob → PrivacyScanJob} (hf : KeepsJob f)
    (h_find : db.jobs.find? scanId = some job)
    (h_before : job.state ≠ .complete) (h_after : (f job).state ≠ .complete) :
    DecisionsKept db (db.updateJob scanId f hf.scanId) := by
  refine .of_same (fun h => FindingsLinked.of_jobs h rfl fun id j h_j => find?_updateJob hf h_j)
    fun snapshotId row h_row => ⟨h_row, ?_, rfl⟩
  exact completeJobs_updateJob hf h_find (.inr ⟨h_before, h_after⟩)

/-- A fenced update that completes nothing keeps the decisions. -/
theorem DecisionsKept.of_fenced {workerId : String} {scanId : Uuid} {generation : ℕ} {now : Time}
    {f : PrivacyScanJob → PrivacyScanJob} {flag : Bool} (hf : KeepsJob f)
    (h_after : ∀ job : PrivacyScanJob, job.state = .running → (f job).state ≠ .complete)
    (h : FencedUpdate workerId scanId generation now f db flag db') : DecisionsKept db db' := by
  cases h with
  | lost => exact .of_eq rfl rfl rfl
  | updated job _ h_find h_fenced =>
    have h_running := (state_of_isFenced h_fenced).1
    refine .of_updateJob hf h_find ?_ (h_after job h_running)
    rw [h_running]
    exact fun h_eq => by cases h_eq

/-- A new job that is not complete, or of a snapshot that is not there yet. -/
theorem completeJobs_of_insert {job : PrivacyScanJob} {snapshotId : Uuid}
    (h_rows : db'.jobs.rows = db.jobs.rows ++ [job])
    (h : job.snapshotId ≠ snapshotId ∨ job.state ≠ .complete) :
    db'.completeJobs snapshotId = db.completeJobs snapshotId := by
  have h_unselected : (decide (job.snapshotId = snapshotId)
      && (decide (job.purpose = .apply) && decide (job.state = .complete))) = false := by
    rcases h with h_other | h_state
    · rw [decide_eq_false h_other, Bool.false_and]
    · rw [decide_eq_false h_state, Bool.and_false, Bool.and_false]
  rw [Workspace.completeJobs, h_rows, List.filter_append, List.filter_cons, h_unselected]
  exact List.append_nil _

/-- A registration adds a snapshot with its scan and its findings, or changes none of these. -/
theorem decisionsKept_of_registered {uploadId : Uuid} {acknowledgedWarnings : List String}
    {now : Time} {ids : RegistrationIds} {answer : Except RegistrationError DatasetSnapshot}
    (h : Registered uploadId acknowledgedWarnings now ids db answer db') :
    DecisionsKept db db' := by
  cases h with
  | resolved session source _ dbA _ _ _ _ h_asset h_added =>
    -- only a new version adds findings, all of the new snapshot
    have h_dbA : DecisionsKept db dbA := by
      cases h_asset <;> exact .of_eq rfl rfl rfl
    refine h_dbA.trans ?_
    cases h_added with
    -- no snapshot was created
    | conflict => exact .of_eq rfl rfl rfl
    | duplicate => exact .of_eq rfl rfl rfl
    | created _ _ h_version =>
      -- nothing is there of the new snapshot
      have h_free := Table.find?_none_of_insert h_version.snapshots
      refine .of_same (fun h_linked => ⟨?_, h_version.findingsIndex h_linked.index⟩)
        fun snapshotId row h_row => ?_
      · -- the findings that are new name the scan of the import
        intro f h_f id h_id
        rcases h_version.findingsNew f h_f with h_old | h_new
        · obtain ⟨job, h_job, h_snapshot⟩ := h_linked.scan f h_old id h_id
          exact ⟨job, h_version.jobsStay h_job, h_snapshot⟩
        · obtain ⟨found, -, rfl⟩ := List.mem_map.mp h_new
          obtain ⟨version, h_config, rfl⟩ := Option.map_eq_some_iff.mp h_id
          have h_jobs := h_version.jobs
          rw [h_config] at h_jobs
          refine ⟨importJob ids.scanId ids.snapshotId session.manifest version now, ?_, rfl⟩
          exact (Table.find?_of_insert h_jobs.1 _).trans (if_pos rfl)
      · have h_other : ids.snapshotId ≠ snapshotId := by
          rintro rfl
          rw [show (newSnapshot session source _ _ ids).snapshotId = ids.snapshotId from rfl,
            h_row] at h_free
          cases h_free
        -- the other snapshots keep their row, jobs and findings
        refine ⟨find?_of_insert_of_find? h_version.snapshots h_row, ?_, ?_⟩
        · have h_jobs := h_version.jobs
          cases h_config : session.manifest.privacyConfigVersion with
          | none =>
            rw [h_config] at h_jobs
            rw [Workspace.completeJobs, show Workspace.jobs _ = dbA.jobs from h_jobs]
            rfl
          | some version =>
            rw [h_config] at h_jobs
            exact completeJobs_of_insert (Table.rows_of_insert h_jobs.1) (.inl h_other)
        · obtain ⟨new, h_rows, h_new⟩ := h_version.findingsRows
          have h_none : new.filter (fun f => decide (f.snapshotId = snapshotId)) = [] := by
            refine List.filter_eq_nil_iff.mpr fun f h_f h_snapshot => ?_
            obtain ⟨found, -, rfl⟩ := List.mem_map.mp (h_new f h_f)
            exact h_other (of_decide_eq_true h_snapshot)
          rw [Workspace.findingsOf, h_rows, List.filter_append, h_none, List.append_nil]
          rfl
  | _ => exact .of_eq rfl rfl rfl

/-- No import decides about findings. -/
theorem decisionsKept_of_import {request : ImportRequest} {result : ImportResult}
    (h : ImportPost request result db db') : DecisionsKept db db' := by
  cases h with
  | created _ _ _ _ _ _ _ _ _ h_created =>
    cases h_created with
    | answered => refine .of_eq ?_ ?_ ?_ <;> rw [initialized_frame db]
    | created => refine .of_eq ?_ ?_ ?_ <;> rw [initialized_frame db]
  | partUploaded _ _ _ _ _ _ _ h_uploaded => cases h_uploaded <;> exact .of_eq rfl rfl rfl
  | completed _ _ _ _ _ _ _ _ h_changed => refine .of_eq ?_ ?_ ?_ <;> rw [h_changed.frame]
  | configured _ _ _ _ _ _ h_changed => refine .of_eq ?_ ?_ ?_ <;> rw [h_changed.frame]
  | aborted _ _ _ _ _ h_changed => refine .of_eq ?_ ?_ ?_ <;> rw [h_changed.frame]
  | claimed _ _ _ _ _ _ _ _ h_claimed => cases h_claimed <;> exact .of_eq rfl rfl rfl
  | extended _ _ _ _ _ _ _ _ _ h_updated => refine .of_eq ?_ ?_ ?_ <;> rw [h_updated.frame]
  | processed _ _ _ _ _ _ _ _ h_processed =>
    refine .of_eq ?_ ?_ ?_ <;> rw [h_processed.fenced.frame, initialized_frame db]
  | registered _ _ _ _ _ _ _ h_registered => exact decisionsKept_of_registered h_registered
  | migrated _ _ _ _ _ _ h_migrated =>
    obtain ⟨rows, -, h_registered⟩ := h_migrated
    -- the session that the command inserts is no scan
    have h_session : DecisionsKept db { db with sessions := rows } := .of_eq rfl rfl rfl
    exact h_session.trans (decisionsKept_of_registered h_registered)

/-- A request of a scan that publishes nothing. -/
theorem decisionsKept_of_scan {request : ScanRequest} {result : ScanResult}
    (h : ScanPost request result db db') (h_result : result ≠ .published true) :
    DecisionsKept db db' := by
  cases h with
  | submitted _ _ _ _ _ _ _ h_submitted =>
    -- a new job is queued, so it is not complete
    cases h_submitted with
    | inProgress => exact .of_eq rfl rfl rfl
    | queued _ _ rows _ _ h_rows =>
      refine .of_same (fun h_linked => FindingsLinked.of_jobs h_linked ?_ fun id job h_job => ?_)
        fun snapshotId row h_row => ⟨?_, ?_, ?_⟩
      · rw [initialized_frame db]
      · exact ⟨job, find?_of_insert_of_find? h_rows h_job, rfl⟩
      · rw [initialized_frame db]
        exact h_row
      · exact completeJobs_of_insert (Table.rows_of_insert h_rows) (.inr fun h_eq => by cases h_eq)
      · rw [Workspace.findingsOf, initialized_frame db]
        rfl
  | claimed _ _ _ _ _ _ _ h_claimed =>
    -- a claim moves a job to RUNNING
    cases h_claimed with
    | nothing => exact .of_eq rfl rfl rfl
    | claimed job h_find h_claimable =>
      refine .of_updateJob (keepsJob_claim _ _) h_find ?_ fun h_eq => by cases h_eq
      intro h_complete
      rw [PrivacyScanJob.isClaimable, h_complete] at h_claimable
      cases h_claimable
  | extended _ _ _ _ _ _ _ _ h_updated =>
    refine .of_fenced (keepsJob_extend _) (fun job h_running => ?_) h_updated
    rw [show (PrivacyScanJob.extend _ job).state = job.state from rfl, h_running]
    exact fun h_eq => by cases h_eq
  | loaded => exact .of_eq rfl rfl rfl
  | published _ _ _ _ _ _ _ h_published =>
    -- a publication has its own theorem
    cases h_published with
    | gone => exact .of_eq rfl rfl rfl
    | lost => exact .of_eq rfl rfl rfl
    | preview => exact absurd rfl h_result
    | applied => exact absurd rfl h_result
  | failed _ claim code _ _ _ _ h_updated =>
    -- a failed job is queued again, or failed
    refine .of_fenced ?_ (fun job _ => ?_) h_updated
    · unfold failedJob
      split
      · exact keepsJob_requeue
      · exact keepsJob_fail code
    · unfold failedJob
      split <;> exact fun h_eq => by cases h_eq

/-- A request that decides on no finding and publishes none. -/
theorem decisionsKept_of_post {request : WorkspaceRequest} {result : WorkspaceResult}
    (h : WorkspacePost request result db db')
    (h_review : ∀ userId findingId expectedStatus newStatus reason,
      request ≠ .protection (.review userId findingId expectedStatus newStatus reason))
    (h_publish : result ≠ .scan (.published true)) : DecisionsKept db db' := by
  cases h with
  | rule _ _ _ _ h_rule => refine .of_eq ?_ ?_ ?_ <;> rw [h_rule.frame]
  | scan _ _ _ _ h_scan =>
    exact decisionsKept_of_scan h_scan fun h_eq => h_publish (congrArg _ h_eq)
  | protection _ _ _ _ h_protection =>
    cases h_protection with
    | classified _ _ _ _ _ h_updated =>
      obtain ⟨rows, rfl⟩ := h_updated.writes
      exact .of_eq rfl rfl rfl
    | policySet _ _ _ _ _ h_updated =>
      obtain ⟨rows, rfl⟩ := h_updated.writes
      exact .of_eq rfl rfl rfl
    | reviewed => exact absurd rfl (h_review _ _ _ _ _)
    | resolved => exact .of_eq rfl rfl rfl
    | policyRead => exact .of_eq rfl rfl rfl
  | importing _ _ _ _ h_import => exact decisionsKept_of_import h_import

end Kept

/-! ### What decides and what publishes -/

section Locked

variable {held : List RowLock} {db db' : Workspace}

/-- A decision holds the lock of the asset of its finding. -/
theorem wp_updateFindingStatus_held (userId : Uuid) (findingId : FindingId)
    (expectedStatus newStatus : FindingStatus) (reason : String) :
    workspaceDiscipline.wp (updateFindingStatus userId findingId expectedStatus newStatus reason)
      (fun _ held _ db => ∃ assetId, RowLock.asset assetId ∈ held ∧
        db.assetOfFinding findingId = some assetId) [] some db := by
  rw [updateFindingStatus, Discipline.wp_bind, Discipline.wp_select]
  rintro db₁ h₁ view ⟨⟩
  cases h_asset : db₁.assetOfFinding findingId with
  | none => exact Discipline.wp_raise _
  | some assetId =>
    simp only [Discipline.wp_bind, Discipline.wp_forUpdate]
    intro db₂ h₂
    refine wp_lockRevision fun db₃ h₃ db₄ h₄ => ?_
    rw [Discipline.wp_select]
    rintro db₅ h₅ view ⟨⟩
    have h_grow : db₁.Grows db₅ := h₂.grow.trans (h₃.grow.trans (h₄.grow.trans h₅.grow))
    have h_asset₅ := assetOfFinding_of_grows h_grow h_asset
    show workspaceDiscipline.wp _ _ _ _ _
    cases h_find : db₅.findings.find? findingId with
    | none =>
      rw [show (db₅.ensureRevision assetId).findings.find? findingId = none from h_find]
      exact Discipline.wp_raise _
    | some finding =>
      rw [show (db₅.ensureRevision assetId).findings.find? findingId = some finding from h_find]
      show workspaceDiscipline.wp (ite _ _ _) _ _ _ _
      split
      · exact Discipline.wp_raise _
      · exact ⟨assetId, by simp, h_asset₅⟩

/-- A decision changes nothing of the findings of other assets. -/
theorem FindingReviewed.decisions {userId : Uuid} {findingId : FindingId}
    {expectedStatus newStatus : FindingStatus} {reason : String} {assetId : Uuid}
    (h : FindingReviewed userId findingId expectedStatus newStatus reason assetId db db') :
    (db.FindingsLinked → db'.FindingsLinked) ∧
      ∀ l, l ≠ .asset assetId → DecisionsSame l db db' := by
  obtain ⟨f, s, h_f, h_s, h_asset⟩ := assetOfFinding_eq_some_iff.mp h.asset
  rw [h.writes]
  refine ⟨fun h_linked => ⟨?_, ?_⟩, fun l h_l => ?_⟩
  · -- the review keeps the snapshot of every finding
    intro f' h_f' id h_id
    obtain ⟨r, h_r, rfl⟩ := List.mem_map.mp h_f'
    split at h_id
    all_goals
      obtain ⟨job, h_job, h_snapshot⟩ := h_linked.scan r h_r id h_id
      refine ⟨job, h_job, ?_⟩
      split <;> exact h_snapshot
  · exact h_linked.index.update (SensitiveDataFinding.review_findingId newStatus reason userId)
      fun _ _ => .inl rfl
  · -- a finding of another asset is not the one reviewed
    cases l with
    | asset id =>
      intro snapshotId row h_row h_id
      refine ⟨h_row, rfl, filter_map_of_unselected fun r h_r => ?_⟩
      by_cases h_key : r.findingId = findingId
      · refine .inr ?_
        -- the finding is of a snapshot of the asset whose lock is held
        have h_found : db.findings.find? findingId = some r :=
          Table.find?_eq_some_iff.mpr ⟨h_r, h_key⟩
        rw [h_f] at h_found
        obtain rfl := Option.some.inj h_found
        have h_other : f.snapshotId ≠ snapshotId := by
          rintro rfl
          rw [h_row] at h_s
          obtain rfl := Option.some.inj h_s
          exact h_l (congrArg _ (h_id.symm.trans h_asset))
        rw [if_pos (decide_eq_true h_key)]
        exact ⟨decide_eq_false h_other, decide_eq_false h_other⟩
      · refine .inl ?_
        rw [if_neg]
        rw [decide_eq_true_eq]
        exact h_key
    | _ => trivial

/-- What a publication reads in two statements are the decisions that are there. -/
theorem wp_previousDecisions {K : List SensitiveDataFinding → List RowLock →
      (Workspace → Option Workspace) → Workspace → Prop} {claim : ScanClaim}
    {snapshot : DatasetSnapshot} (h_held : .asset snapshot.assetId ∈ held)
    (h_snapshot : db.snapshots.find? claim.snapshotId = some snapshot)
    (h : ∀ db', decisionDiscipline.rely held db db' → K (db'.decisionsBefore claim) held
      (fun db => some (db.ensureRevision snapshot.assetId)) db') :
    decisionDiscipline.wp (previousDecisions claim) K held
      (fun db => some (db.ensureRevision snapshot.assetId)) db := by
  rw [previousDecisions, Discipline.wp_bind, Discipline.wp_select]
  rintro db₁ h₁ view ⟨⟩
  have h_view : (db₁.ensureRevision snapshot.assetId).latestJob claim.snapshotId (fun j =>
      decide (j.purpose = .apply) && decide (j.state = .complete) &&
        decide (j.scanId ≠ claim.scanId)) = db₁.previousJob claim.snapshotId claim.scanId := rfl
  rw [h_view]
  cases h_previous : db₁.previousJob claim.snapshotId claim.scanId with
  | none =>
    have h_end := h db₁ h₁
    rw [Workspace.decisionsBefore, h_previous] at h_end
    exact h_end
  | some previous =>
    rw [Discipline.wp_select]
    rintro db₂ h₂ view ⟨⟩
    -- the lock of the asset keeps the complete scans of the snapshot
    have h_snapshot₁ := h₁.grow.snapshots _ _ h_snapshot
    obtain ⟨-, h_jobs, -⟩ := (h₂.same _ h_held).2 _ _ h_snapshot₁ rfl
    have h_end := h db₂ (h₁.trans h₂)
    rw [Workspace.decisionsBefore, previousJob_congr h_jobs, h_previous] at h_end
    exact h_end

/-- What is known at the end of a publication. -/
def PublicationLocked (claim : ScanClaim) (findings : List ScanFinding) (flag : Bool)
    (held : List RowLock) (writes : Workspace → Option Workspace) (db : Workspace) : Prop :=
  flag = true → ∃ snapshot, RowLock.asset snapshot.assetId ∈ held ∧
    db.snapshots.find? claim.snapshotId = some snapshot ∧
    (claim.purpose = .apply → ∀ db₁, decisionDiscipline.rely held db db₁ →
      ∀ db', writes db₁ = some db' → db'.findings.rows
        = db₁.findings.rows ++ scanFindingRows claim (db₁.decisionsBefore claim) findings)

/-- What a publication reads under the lock of its snapshot is still true when it commits.
-/
theorem wp_publish_locked (workerId : String) (claim : ScanClaim) (findings : List ScanFinding)
    (now : Time) (h_inv : db.WellFormed) (h_linked : db.FindingsLinked) :
    decisionDiscipline.wp (publish workerId claim findings now) (PublicationLocked claim findings)
      [] some db := by
  rw [publish, Discipline.wp_bind]
  -- the locks are taken under the discipline of the rows
  refine Discipline.wp_mono (fun asset held writes db h_end => h_end.2 h_end.1)
    (Discipline.wp_strengthened (K := fun asset held writes db =>
      (db.WellFormed ∧ db.FindingsLinked) →
      decisionDiscipline.wp _ _ held writes db) h_inv h_linked (wp_lockFenced ?_ ?_))
  · intro db₁ h₁ h_inv₁ h_flag
    cases h_flag
  · rintro db₁ snapshot asset h₁ h_snapshot h_asset h_inv₁
    rcases h_asset with rfl | ⟨job, rfl, -, -⟩
    · exact fun h_flag => by cases h_flag
    have h_held : RowLock.asset snapshot.assetId
        ∈ [RowLock.job claim.scanId, .revision snapshot.assetId, .asset snapshot.assetId] := by simp
    show decisionDiscipline.wp _ _ _ _ _
    rw [Discipline.wp_bind, whenApply]
    split
    · rename_i h_apply
      simp only [writeFindings, Discipline.wp_bind, Discipline.wp_exec, bumpRevision]
      refine wp_previousDecisions h_held h_snapshot fun db₂ h₂ h_flag => ?_
      have h_snapshot₂ := h₂.grow.snapshots _ _ h_snapshot
      refine ⟨snapshot, h_held, h_snapshot₂, fun _ db₃ h₃ db' h_db' => ?_⟩
      obtain ⟨v, h_v, h_rest⟩ := Option.bind_eq_some_iff.mp h_db'
      obtain ⟨v', h_insert, h_v'⟩ := Option.bind_eq_some_iff.mp h_v
      have h_inserted := findingsInserted_of_insertFindings h_insert
      obtain rfl := Option.some.inj h_rest
      obtain rfl := Option.some.inj h_v'
      -- and so are the decisions those of the commit
      have h_inv₂ := h₂.inv h_inv₁
      have h_inv₃ := h₃.inv h_inv₂
      obtain ⟨-, h_jobs, h_findings⟩ := (h₃.same _ h_held).2 _ _ h_snapshot₂ rfl
      rw [decisionsBefore_congr h_inv₂.2 h_inv₃.2 h_jobs h_findings]
      exact h_inserted.rows
    · rename_i h_apply
      exact fun h_flag => ⟨snapshot, h_held, h_snapshot, fun h => absurd h h_apply⟩

/-- A publication changes nothing of the decisions of other assets. -/
theorem ScanPublished.decisions {workerId : String} {claim : ScanClaim}
    {findings : List ScanFinding} {now : Time} {snapshot : DatasetSnapshot}
    (h : ScanPublished workerId claim findings now db true db')
    (h_job : ∃ job, db.jobs.find? claim.scanId = some job ∧ job.snapshotId = claim.snapshotId)
    (h_snapshot : db.snapshots.find? claim.snapshotId = some snapshot) :
    (db.FindingsLinked → db'.FindingsLinked) ∧
      ∀ l, l ≠ .asset snapshot.assetId → DecisionsSame l db db' := by
  obtain ⟨job, h_job, h_of⟩ := h_job
  -- another snapshot than the one of the claim
  have h_other : ∀ snapshotId row, db.snapshots.find? snapshotId = some row →
      row.assetId ≠ snapshot.assetId → claim.snapshotId ≠ snapshotId := by
    rintro _ row h_row h_ne rfl
    rw [h_snapshot] at h_row
    obtain rfl := Option.some.inj h_row
    exact h_ne rfl
  have h_complete : ∀ snapshotId, claim.snapshotId ≠ snapshotId →
      (db.updateJob claim.scanId PrivacyScanJob.complete
        PrivacyScanJob.complete_scanId).completeJobs snapshotId = db.completeJobs snapshotId := by
    intro snapshotId h_ne
    exact completeJobs_updateJob keepsJob_complete h_job (.inl (h_of ▸ h_ne))
  cases h with
  | preview =>
    -- a preview writes no findings
    refine ⟨fun h_linked => FindingsLinked.of_jobs h_linked rfl fun id j h_j =>
      find?_updateJob keepsJob_complete h_j, fun l h_l => ?_⟩
    cases l with
    | asset id =>
      intro snapshotId row h_row h_id
      refine ⟨h_row, h_complete snapshotId (h_other _ row h_row fun h_eq => ?_), rfl⟩
      exact h_l (congrArg _ (h_id.symm.trans h_eq))
    | _ => trivial
  | applied _ _ decisions db₁ _ _ _ _ h_inserted =>
    -- an applied scan writes the findings of its own snapshot
    refine ⟨fun h_linked => ⟨?_, h_inserted.index h_linked.index⟩, fun l h_l => ?_⟩
    · intro f h_f id h_id
      rw [show Workspace.findings _ = db₁.findings from rfl, h_inserted.rows, List.mem_append]
        at h_f
      rcases h_f with h_old | h_new
      · obtain ⟨job', h_job', h_same⟩ := h_linked.scan f h_old id h_id
        obtain ⟨job'', h_job'', h_same'⟩ := find?_updateJob keepsJob_complete h_job'
        exact ⟨job'', h_job'', h_same'.trans h_same⟩
      · -- a new finding is one of the job that is published
        obtain ⟨found, -, rfl⟩ := List.mem_map.mp h_new
        obtain rfl := Option.some.inj h_id
        obtain ⟨job', h_job', h_same⟩ := find?_updateJob keepsJob_complete h_job
        exact ⟨job', h_job', h_same.trans h_of⟩
    · cases l with
      | asset id =>
        -- the snapshot of another asset gets none
        intro snapshotId row h_row h_id
        have h_ne := h_other _ row h_row fun h_eq => h_l (congrArg _ (h_id.symm.trans h_eq))
        refine ⟨h_row, h_complete snapshotId h_ne, ?_⟩
        have h_none : (scanFindingRows claim decisions findings).filter
            (fun f => decide (f.snapshotId = snapshotId)) = [] := by
          refine List.filter_eq_nil_iff.mpr fun f h_f h_eq => ?_
          obtain ⟨found, -, rfl⟩ := List.mem_map.mp h_f
          exact h_ne (of_decide_eq_true h_eq)
        rw [Workspace.findingsOf, show Workspace.findings _ = db₁.findings from rfl,
          h_inserted.rows, List.filter_append, h_none, List.append_nil]
        rfl
      | _ => trivial

end Locked

/-! ### The commits of a workspace -/

/-- What a publication commits of decisions. -/
def DecisionPost : WorkspaceRequest → WorkspaceResult → Workspace → Workspace → Prop
  | .scan (.publish _ claim findings _), .scan (.published true), db, db' =>
    claim.purpose = .apply → db'.findings.rows
      = db.findings.rows ++ scanFindingRows claim (db.decisionsBefore claim) findings
  | _, _, _, _ => True

/-- A tenant before its first scan, whose findings are of no scan. -/
def BeforeScans (db : Workspace) : Prop :=
  Unscanned db ∧ ∀ f ∈ db.findings.rows, f.scanId = none

section Commits

variable {s s' : WorkspaceState}

/-- Without scans there are no findings to link. -/
theorem BeforeScans.linked {db : Workspace} (h : BeforeScans db) : db.FindingsLinked where
  scan f h_f id h_id := by
    rw [h.2 f h_f] at h_id
    cases h_id
  index := by
    have h_none : db.findings.rows.filterMap Workspace.scanRuleKey = [] := by
      refine List.filterMap_eq_nil_iff.mpr fun f h_f => ?_
      rw [Workspace.scanRuleKey, h.2 f h_f]
    rw [Table.HasUniqueIndex, h_none]
    exact List.nodup_nil

theorem workspaceReachable_of_beforeScans (h : WorkspaceReachable BeforeScans s) :
    WorkspaceReachable Unscanned s := by
  obtain ⟨s₀, ⟨h_db, h_rest⟩, h_run⟩ := h
  exact ⟨s₀, ⟨h_db.1, h_rest⟩, h_run⟩

/-- A request whose commits leave the decisions alone. -/
theorem wp_decisionsKept {request : WorkspaceRequest} {db : Workspace} (h_inv : db.WellFormed)
    (h_linked : db.FindingsLinked)
    (h : ∀ result db db', WorkspacePost request result db db' →
      DecisionsKept db db' ∧ DecisionPost request result db db') :
    decisionDiscipline.wp (workspaceSystem.program request)
      (decisionDiscipline.commits fun result db db' =>
        WorkspacePost request result db db' ∧ DecisionPost request result db db') [] some db := by
  refine Discipline.wp_commits_strengthened h_inv h_linked (meets_workspace request db h_inv)
    (Discipline.wp_of_forall fun result held writes db db₁ _ _ h_linked₁ db' _ h_post => ?_)
  obtain ⟨h_kept, h_decision⟩ := h result db₁ db' h_post
  exact ⟨h_kept.linked h_linked₁, fun l _ => h_kept.same l, h_decision⟩

/-- What a review reads under the lock of its snapshot is still true when it commits. -/
theorem wp_review_commits {db : Workspace} (h_inv : db.WellFormed) (h_linked : db.FindingsLinked)
    (userId : Uuid) (findingId : FindingId) (expectedStatus newStatus : FindingStatus)
    (reason : String) :
    decisionDiscipline.wp (workspaceSystem.program
        (.protection (.review userId findingId expectedStatus newStatus reason)))
      (decisionDiscipline.commits fun result db db' =>
        WorkspacePost (.protection (.review userId findingId expectedStatus newStatus reason))
            result db db' ∧
          DecisionPost (.protection (.review userId findingId expectedStatus newStatus reason))
          result db db') [] some db := by
  refine Discipline.wp_commits_strengthened h_inv h_linked (meets_workspace _ db h_inv) ?_
  show decisionDiscipline.wp ((updateFindingStatus _ _ _ _ _ >>= _) >>= _) _ _ _ _
  rw [Discipline.wp_bind, Discipline.wp_bind]
  refine Discipline.wp_mono ?_ (Discipline.wp_strengthened h_inv h_linked
    (wp_updateFindingStatus_held userId findingId expectedStatus newStatus reason))
  rintro decision held writes db₁ ⟨-, assetId, h_held, h_asset⟩ db₂ h₂ h_inv₂ h_linked₂ db'
    h_db' h_post
  cases h_post with
  | protection _ _ _ _ h_protection =>
    cases h_protection with
    | reviewed _ _ _ _ _ assetId' _ _ h_reviewed =>
      have h_same : assetId' = assetId := by
        have h_asset₂ := assetOfFinding_of_grows h₂.grow h_asset
        rw [h_reviewed.asset] at h_asset₂
        exact Option.some.inj h_asset₂
      obtain ⟨h_kept, h_others⟩ := h_reviewed.decisions
      refine ⟨h_kept h_linked₂, fun l hl => h_others l ?_, trivial⟩
      rintro rfl
      exact hl (h_same ▸ h_held)

/-- A publication of a job that a worker has claimed. -/
theorem wp_publish_commits {db : Workspace} (h_inv : db.WellFormed) (h_linked : db.FindingsLinked)
    (workerId : String) (claim : ScanClaim) (findings : List ScanFinding) (now : Time)
    (h_job : ∃ job, db.jobs.find? claim.scanId = some job ∧ job.snapshotId = claim.snapshotId) :
    decisionDiscipline.wp (workspaceSystem.program (.scan (.publish workerId claim findings now)))
      (decisionDiscipline.commits fun result db db' =>
        WorkspacePost (.scan (.publish workerId claim findings now)) result db db' ∧
          DecisionPost (.scan (.publish workerId claim findings now)) result db db') []
          some db := by
  refine Discipline.wp_commits_strengthened h_inv h_linked (meets_workspace _ db h_inv) ?_
  show decisionDiscipline.wp ((publish _ _ _ _ >>= _) >>= _) _ _ _ _
  rw [Discipline.wp_bind, Discipline.wp_bind]
  refine Discipline.wp_mono ?_ (Discipline.wp_grow (.refl db)
    (wp_publish_locked workerId claim findings now h_inv h_linked))
  rintro flag held writes db₁ ⟨h_grow₁, h_locked⟩ db₂ h₂ h_inv₂ h_linked₂ db' h_db' h_post
  cases flag with
  | false =>
    have h_kept := decisionsKept_of_post h_post (fun _ _ _ _ _ h_eq => by cases h_eq)
      fun h_eq => by cases h_eq
    exact ⟨h_kept.linked h_linked₂, fun l _ => h_kept.same l, trivial⟩
  | true =>
    obtain ⟨snapshot, h_held, h_snapshot, h_rows⟩ := h_locked rfl
    -- the job is the one that was claimed, whatever was committed since
    have h_job₂ : ∃ job, db₂.jobs.find? claim.scanId = some job ∧
        job.snapshotId = claim.snapshotId := by
      obtain ⟨job, h_find, h_of⟩ := h_job
      obtain ⟨job', h_find', h_of', -⟩ := (h_grow₁.trans h₂.grow).jobs _ job h_find
      exact ⟨job', h_find', h_of'.trans h_of⟩
    cases h_post with
    | scan _ _ _ _ h_scan =>
      cases h_scan with
      | published _ _ _ _ _ _ _ h_published =>
        obtain ⟨h_kept, h_others⟩ :=
          h_published.decisions h_job₂ (h₂.grow.snapshots _ _ h_snapshot)
        refine ⟨h_kept h_linked₂, fun l hl => h_others l ?_, fun h_apply => ?_⟩
        · rintro rfl
          exact hl h_held
        · exact h_rows h_apply db₂ h₂ db' h_db'

/-- Every request that may begin in a reachable state keeps to the discipline. -/
theorem wp_commits_of_begin (h : WorkspaceReachable BeforeScans s)
    (h_inv : s.db.WellFormed ∧ s.db.FindingsLinked) {request : WorkspaceRequest}
    (h_allowed : workspaceSystem.allowed s.log request) :
    decisionDiscipline.wp (workspaceSystem.program request)
      (decisionDiscipline.commits fun result db db' =>
        WorkspacePost request result db db' ∧ DecisionPost request result db db') [] some s.db := by
  obtain ⟨h_formed, h_linked⟩ := h_inv
  -- every other request keeps all decisions
  have h_trivial : (∀ userId findingId expectedStatus newStatus reason,
      request ≠ .protection (.review userId findingId expectedStatus newStatus reason)) →
      (∀ workerId claim findings now, request ≠ .scan (.publish workerId claim findings now)) →
      decisionDiscipline.wp (workspaceSystem.program request)
        (decisionDiscipline.commits fun result db db' =>
          WorkspacePost request result db db' ∧ DecisionPost request result db db') []
            some s.db := by
    intro h_review h_publish
    refine wp_decisionsKept h_formed h_linked fun result db db' h_post => ⟨?_, ?_⟩
    · refine decisionsKept_of_post h_post h_review ?_
      rintro rfl
      cases h_post with
      | scan _ _ _ _ h_scan =>
        cases h_scan with
        | published => exact absurd rfl (h_publish _ _ _ _)
    · unfold DecisionPost
      split
      · exact absurd rfl (h_publish _ _ _ _)
      · trivial
  -- a review and a publication change decisions, of one asset each
  cases request with
  | protection request =>
    cases request with
    | review userId findingId expectedStatus newStatus reason =>
      exact wp_review_commits h_formed h_linked userId findingId expectedStatus newStatus reason
    | _ => exact h_trivial (fun _ _ _ _ _ h => by cases h) fun _ _ _ _ h => by cases h
  | scan request =>
    cases request with
    | publish workerId claim findings now =>
      refine wp_publish_commits h_formed h_linked workerId claim findings now ?_
      -- what is published has been loaded, and so claimed
      have h_fenced := scansFenced (workspaceReachable_of_beforeScans h)
      obtain ⟨j, snapshot, h_load⟩ := h_allowed
      have h_claimed := ScansFenced.claimed_of_load h_fenced.allowed
        (h_fenced.allowed.begun_of_committed h_load)
      obtain ⟨job, h_job, h_of, -⟩ := h_fenced.claims workerId claim h_claimed
      exact ⟨job, h_job, h_of⟩
    | _ => exact h_trivial (fun _ _ _ _ _ h => by cases h) fun _ _ _ _ h => by cases h
  | _ => exact h_trivial (fun _ _ _ _ _ h => by cases h) fun _ _ _ _ h => by cases h

/-- What a step does to the committed workspace and the log, with the decisions. -/
abbrev DecisionEffect : Workspace → List WorkspaceEvent → Workspace → List WorkspaceEvent → Prop :=
  TxnSystem.Effect decisionDiscipline
    (fun request result db db' =>
      WorkspacePost request result db db' ∧ DecisionPost request result db db')
    WorkspaceRequest.allowed

/-- What one step does to the decisions, from any reachable state. -/
theorem decisionEffect (h : WorkspaceReachable BeforeScans s)
    (h_step : TxnSystem.Step workspaceSystem s s') : DecisionEffect s.db s.log s'.db s'.log := by
  have h_follows := TxnSystem.follows_of_begin (d := decisionDiscipline)
    (fun h h_inv _ h_allowed => wp_commits_of_begin h h_inv h_allowed)
    (fun db h_db => ⟨h_db.1.1, h_db.linked⟩) h
  exact h_follows.effect h_step

/-- Findings belong to scans and scans to snapshots in every reachable state. -/
theorem linked_of_reachable (h : WorkspaceReachable BeforeScans s) : s.db.FindingsLinked := by
  have h_follows := TxnSystem.follows_of_begin (d := decisionDiscipline)
    (fun h h_inv _ h_allowed => wp_commits_of_begin h h_inv h_allowed)
    (fun db h_db => ⟨h_db.1.1, h_db.linked⟩) h
  exact h_follows.inv.2

/-- The findings that a publication adds. -/
theorem findings_of_publish (h : WorkspaceReachable BeforeScans s)
    (h_step : TxnSystem.Step workspaceSystem s s') {i : ℕ} {workerId : String} {claim : ScanClaim}
    {findings : List ScanFinding} {now : Time}
    (h_log : s'.log = .committed i (.scan (.publish workerId claim findings now))
      (.scan (.published true)) :: s.log) (h_apply : claim.purpose = .apply) :
    s'.db.findings.rows
      = s.db.findings.rows ++ scanFindingRows claim (s.db.decisionsBefore claim) findings := by
  have h_effect := decisionEffect h h_step
  obtain ⟨db, opened, log⟩ := s
  obtain ⟨db', opened', log'⟩ := s'
  obtain rfl : log' = _ := h_log
  cases h_effect with
  | committed _ _ _ _ _ _ _ _ _ h_post => exact h_post.2 h_apply

end Commits

/-! ### The decision that a finding starts with -/

/-- A finding of the previous scan, of the same rule and revision on the same path. -/
structure IsPreviousFinding (db : Workspace) (claim : ScanClaim) (f : ScanFinding)
    (d : SensitiveDataFinding) : Prop where
  mem : d ∈ db.findings.rows
  scan : ∃ job, db.previousJob claim.snapshotId claim.scanId = some job ∧ d.scanId = some job.scanId
  rule : f.ruleId.isSome ∧ d.ruleId = f.ruleId
  revision : d.ruleRevision = f.ruleRevision
  column : d.findingId.columnName = f.columnName
  path : d.findingId.path = f.path

section Inherited

variable {db : Workspace} {claim : ScanClaim} {f : ScanFinding}

/-- A decision is about a finding when rule, revision, column and path agree. -/
theorem isDecisionOn_iff {d : SensitiveDataFinding} : isDecisionOn f d = true ↔
    (f.ruleId.isSome ∧ d.ruleId = f.ruleId) ∧ d.ruleRevision = f.ruleRevision ∧
      d.findingId.columnName = f.columnName ∧ d.findingId.path = f.path := by
  rw [isDecisionOn]
  simp only [Bool.and_eq_true, decide_eq_true_eq, and_assoc]

/-- The decisions that are copied are on findings of the previous scan. -/
theorem mem_decisionsBefore_iff {d : SensitiveDataFinding} :
    d ∈ db.decisionsBefore claim ∧ isDecisionOn f d = true ↔
      IsPreviousFinding db claim f d ∧ (d.status = .confirmed ∨ d.status = .dismissed) := by
  rw [isDecisionOn_iff, Workspace.decisionsBefore]
  cases h_previous : db.previousJob claim.snapshotId claim.scanId with
  | none =>
    refine iff_of_false (fun h => by cases h.1) fun h => ?_
    obtain ⟨job, h_job, -⟩ := h.1.scan
    rw [h_previous] at h_job
    cases h_job
  | some job =>
    show d ∈ db.decisions job.scanId ∧ _ ↔ _
    rw [Workspace.decisions, List.mem_filter]
    simp only [Bool.and_eq_true, Bool.or_eq_true, decide_eq_true_eq]
    constructor
    · rintro ⟨⟨h_mem, ⟨h_scan, h_status⟩, -⟩, h_rule, h_revision, h_column, h_path⟩
      exact ⟨⟨h_mem, ⟨job, h_previous, h_scan⟩, h_rule, h_revision, h_column, h_path⟩, h_status⟩
    · rintro ⟨h, h_status⟩
      obtain ⟨job', h_job', h_scan⟩ := h.scan
      rw [h_previous] at h_job'
      obtain rfl := Option.some.inj h_job'
      refine ⟨⟨h.mem, ⟨h_scan, h_status⟩, ?_⟩, h.rule, h.revision, h.column, h.path⟩
      rw [h.rule.2]
      exact h.rule.1

/-- A scan has one finding for a rule on a path. -/
theorem IsPreviousFinding.eq (h_linked : db.FindingsLinked) (h_revision : f.ruleRevision.isSome)
    {d d' : SensitiveDataFinding} (h : IsPreviousFinding db claim f d)
    (h' : IsPreviousFinding db claim f d') : d' = d := by
  obtain ⟨job, h_job, h_scan⟩ := h.scan
  obtain ⟨job', h_job', h_scan'⟩ := h'.scan
  rw [h_job] at h_job'
  obtain rfl := Option.some.inj h_job'
  obtain ⟨ruleId, h_rule⟩ := Option.isSome_iff_exists.mp h.rule.1
  obtain ⟨revision, h_some⟩ := Option.isSome_iff_exists.mp h_revision
  have h_key : ∀ {d : SensitiveDataFinding}, IsPreviousFinding db claim f d →
      d.scanId = some job.scanId → Workspace.scanRuleKey d
        = some (job.scanId, f.columnName, f.path, ruleId, revision) := by
    intro d h_d h_d_scan
    rw [Workspace.scanRuleKey, h_d_scan, h_d.rule.2, h_d.revision, h_rule, h_some]
    show some (job.scanId, d.findingId.columnName, d.findingId.path, ruleId, revision) = _
    rw [h_d.column, h_d.path]
  exact h_linked.index.eq_of_mem h'.mem h.mem (h_key h' h_scan') (h_key h h_scan)

/-- The decision on the finding of the previous scan. -/
theorem find?_decisions (h_linked : db.FindingsLinked) (h_revision : f.ruleRevision.isSome)
    {d : SensitiveDataFinding} (h : IsPreviousFinding db claim f d) :
    (((db.decisionsBefore claim).reverse.find? (isDecisionOn f)).map
      SensitiveDataFinding.status).getD .detected = d.status := by
  cases h_found : (db.decisionsBefore claim).reverse.find? (isDecisionOn f) with
  | some d' =>
    have h_mem := List.mem_reverse.mp (List.mem_of_find?_eq_some h_found)
    obtain ⟨h', -⟩ := mem_decisionsBefore_iff.mp ⟨h_mem, List.find?_some h_found⟩
    rw [h.eq h_linked h_revision h']
    rfl
  | none =>
    -- a finding that is decided would have been found
    have h_none := List.find?_eq_none.mp h_found
    have h_undecided : ¬ (d.status = .confirmed ∨ d.status = .dismissed) := by
      intro h_status
      obtain ⟨h_mem, h_on⟩ := mem_decisionsBefore_iff.mpr ⟨h, h_status⟩
      exact h_none d (List.mem_reverse.mpr h_mem) h_on
    cases h_status : d.status with
    | detected => rfl
    | confirmed => exact absurd (.inl h_status) h_undecided
    | dismissed => exact absurd (.inr h_status) h_undecided

/-- Without a matching earlier finding the publication decides anew. -/
theorem find?_decisions_eq_none (h : ∀ d, ¬ IsPreviousFinding db claim f d) :
    (db.decisionsBefore claim).reverse.find? (isDecisionOn f) = none := by
  refine List.find?_eq_none.mpr fun d h_mem h_on => ?_
  obtain ⟨h_d, -⟩ := mem_decisionsBefore_iff.mp ⟨List.mem_reverse.mp h_mem, h_on⟩
  exact h d h_d

end Inherited

end DqScoring
