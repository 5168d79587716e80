import DqScoring.Framework.ListOrder
import DqScoring.Privacy.ScanOutcomes

/-!
# The latest scan of a snapshot

Which scan of a snapshot counts is decided by `ORDER BY created_at DESC, scan_id DESC`, and
`created_at` is `now()`, the time at which the inserting transaction started. The asset
lock puts the creations of a snapshot in another order, that of their commits.
`latest_is_newest` says when the two orders agree: when every creation started after those
that were committed before it. A transaction that starts, stalls, and creates its scan
after a later one has completed is ordered before it, and its results are never read.
-/

namespace DqScoring

open Framework Relation

/-! ### The two orders -/

/-- What the jobs of a snapshot are ordered by. -/
def PrivacyScanJob.createdKey (job : PrivacyScanJob) : Lex (Time × ℕ) :=
  toLex (job.createdAt, job.scanId.value)

namespace Workspace

/-- The APPLY jobs of a snapshot, in the order in which their creations were committed: a new row
goes to the end of the table. -/
def applyJobs (db : Workspace) (snapshotId : Uuid) : List PrivacyScanJob :=
  db.jobs.rows.filter fun j => decide (j.snapshotId = snapshotId) && decide (j.purpose = .apply)

/-- The key comes after those of the APPLY jobs that the snapshot has. -/
def IsAfterJobs (db : Workspace) (snapshotId : Uuid) (key : Lex (Time × ℕ)) : Prop :=
  ∀ j ∈ db.applyJobs snapshotId, j.createdKey < key

instance (db : Workspace) (snapshotId : Uuid) (key : Lex (Time × ℕ)) :
    Decidable (db.IsAfterJobs snapshotId key) :=
  inferInstanceAs (Decidable (∀ j ∈ db.applyJobs snapshotId, j.createdKey < key))

/-- The jobs of each snapshot were committed in the order of their keys. -/
def JobsInOrder (db : Workspace) : Prop :=
  db.jobs.rows.Pairwise fun j j' => j.snapshotId = j'.snapshotId → j.purpose = .apply →
    j'.purpose = .apply → j.createdKey < j'.createdKey

/-- What `_scan_state` and `ACTIVE_FINDINGS_SQL` take for the latest job is the one whose creation
was committed last. -/
structure LatestIsNewest (db : Workspace) : Prop where
  scanState : ∀ snapshotId, db.latestApplyJob snapshotId = (db.applyJobs snapshotId).getLast?
  activeFindings : ∀ snapshotId, db.latestCompleteJob snapshotId =
    ((db.applyJobs snapshotId).filter fun j => decide (j.state = .complete)).getLast?

end Workspace

/-- A request that creates an APPLY job has started after the creations that it finds committed.
The job of an import is that of a new snapshot. -/
def StartsInOrder (db : Workspace) : WorkspaceRequest → Prop
  | .scan (.create snapshotId .apply scanId now) =>
    -- a creation that is answered with the active job adds none
    db.activeJob snapshotId .apply = none →
      db.IsAfterJobs snapshotId (toLex (now, scanId.value))
  | .importing (.register _ _ now ids) =>
    -- a registration creates the job of its scan
    db.IsAfterJobs ids.snapshotId (toLex (now, ids.scanId.value))
  | .importing (.migrate _ now ids) =>
    db.IsAfterJobs ids.snapshotId (toLex (now, ids.scanId.value))
  | _ => True

/-- A step of a workspace whose scans are created in the order in which they started. -/
abbrev InOrderStep : WorkspaceState → WorkspaceState → Prop :=
  TxnSystem.StepIf workspaceSystem StartsInOrder

/-! ### What a request does to the rows of jobs -/

section Rows

variable {db db' : Workspace}

/-- A request changes rows in place or adds one. -/
inductive JobRows (db db' : Workspace) (request : WorkspaceRequest) : Prop
  | changed (f : PrivacyScanJob → PrivacyScanJob) (hf : KeepsJob f) :
      db'.jobs.rows = db.jobs.rows.map f → JobRows db db' request
  | added (job : PrivacyScanJob) : db'.jobs.rows = db.jobs.rows ++ [job] →
      (job.purpose = .apply → StartsInOrder db request →
        db.IsAfterJobs job.snapshotId job.createdKey) → JobRows db db' request

/-- A request that leaves the jobs alone keeps their rows. -/
theorem JobRows.of_eq {request : WorkspaceRequest} (h : db'.jobs = db.jobs) :
    JobRows db db' request := by
  refine .changed id ⟨fun _ => rfl, fun _ => ⟨rfl, rfl, rfl, rfl, rfl⟩⟩ ?_
  rw [h, List.map_id]

/-- An update of one job keeps the order and the creation times of the rows. -/
theorem JobRows.of_update {request : WorkspaceRequest} {scanId : Uuid}
    {f : PrivacyScanJob → PrivacyScanJob} (hf : KeepsJob f)
    (h : db'.jobs = db.jobs.update scanId f hf.scanId) : JobRows db db' request := by
  refine .changed (fun j => if decide (j.scanId = scanId) then f j else j) ⟨?_, ?_⟩ ?_
  · intro j
    split
    · exact hf.scanId j
    · rfl
  · intro j
    split
    · exact hf.keeps j
    · exact ⟨rfl, rfl, rfl, rfl, rfl⟩
  · rw [h]
    rfl

/-- A fenced update keeps the order and the creation times of the rows. -/
theorem jobRows_of_fenced {request : WorkspaceRequest} {workerId : String} {scanId : Uuid}
    {generation : ℕ} {now : Time} {f : PrivacyScanJob → PrivacyScanJob} {flag : Bool}
    (hf : KeepsJob f) (h : FencedUpdate workerId scanId generation now f db flag db') :
    JobRows db db' request := by
  cases h with
  | lost => exact .of_eq rfl
  | updated => exact .of_update hf rfl

/-- A job that the index of active jobs lets in finds no other of its snapshot and purpose. -/
theorem activeJob_eq_none_of_insert {job : PrivacyScanJob} {rows : Table PrivacyScanJob.scanId}
    (h_rows : db.jobs.insert job = some rows)
    (h_unique : rows.HasUniqueIndex Workspace.activeJobKey)
    (h_active : job.state.isActive = true) : db.activeJob job.snapshotId job.purpose = none := by
  refine List.find?_eq_none.mpr fun j h_j h_found => ?_
  simp only [Bool.and_eq_true, decide_eq_true_eq] at h_found
  obtain ⟨⟨h_snapshot, h_purpose⟩, h_state⟩ := h_found
  have h_key : Workspace.activeJobKey j = some (job.snapshotId, job.purpose) := by
    rw [Workspace.activeJobKey, if_pos h_state, h_snapshot, h_purpose]
  have h_eq : j = job := by
    refine h_unique.eq_of_mem ?_ ?_ h_key (if_pos h_active)
    · rw [Table.rows_of_insert h_rows]
      exact List.mem_append_left _ h_j
    · rw [Table.rows_of_insert h_rows]
      exact List.mem_append_right _ List.mem_cons_self
  -- the identifier of the new job was free
  have h_free := Table.find?_eq_none_iff.mp (Table.find?_none_of_insert h_rows) j h_j
  exact h_free (congrArg PrivacyScanJob.scanId h_eq)

/-- A scan request adds one job at most, at the end. -/
theorem jobRows_of_scanPost {request : ScanRequest} {result : ScanResult}
    (h : ScanPost request result db db') : JobRows db db' (.scan request) := by
  cases h with
  | submitted snapshotId selection scanId now _ _ _ h_submitted =>
    cases h_submitted with
    | inProgress => exact .of_eq rfl
    | queued snapshot pin rows h_snapshot h_version h_rows h_unique =>
      refine .added _ (Table.rows_of_insert h_rows) fun h_apply h_order => ?_
      cases selection with
      | apply => exact h_order (activeJob_eq_none_of_insert h_rows h_unique rfl)
      | preview => cases h_apply
  | claimed _ _ _ _ _ _ _ h_claimed =>
    cases h_claimed with
    | nothing => exact .of_eq rfl
    | claimed => exact .of_update (keepsJob_claim _ _) rfl
  | extended _ _ _ _ _ _ _ _ h_updated => exact jobRows_of_fenced (keepsJob_extend _) h_updated
  | loaded => exact .of_eq rfl
  | published _ _ _ _ _ _ _ h_published =>
    cases h_published with
    | gone => exact .of_eq rfl
    | lost => exact .of_eq rfl
    | preview => exact .of_update keepsJob_complete rfl
    | applied => exact .of_update keepsJob_complete rfl
  | failed _ claim code _ _ _ _ h_updated =>
    refine jobRows_of_fenced ?_ h_updated
    unfold failedJob
    split
    · exact keepsJob_requeue
    · exact keepsJob_fail code

/-- A registration adds the job of its import, or none. -/
theorem jobRows_of_registered {uploadId : Uuid} {acknowledgedWarnings : List String} {now : Time}
    {ids : RegistrationIds} {answer : Except RegistrationError DatasetSnapshot}
    {request : WorkspaceRequest}
    (h_after : StartsInOrder db request →
      db.IsAfterJobs ids.snapshotId (toLex (now, ids.scanId.value)))
    (h : Registered uploadId acknowledgedWarnings now ids db answer db') :
    JobRows db db' request := by
  cases h with
  | resolved session _ _ dbA _ _ _ _ h_asset h_added =>
    have h_dbA : dbA.jobs = db.jobs := by
      cases h_asset <;> rfl
    cases h_added with
    | conflict => exact .of_eq h_dbA
    | duplicate => exact .of_eq h_dbA
    | created _ _ h_version =>
      have h_jobs := h_version.jobs
      cases h_config : session.manifest.privacyConfigVersion with
      | none =>
        rw [h_config] at h_jobs
        exact .of_eq (Eq.trans h_jobs h_dbA)
      | some version =>
        rw [h_config, h_dbA] at h_jobs
        exact .added _ (Table.rows_of_insert h_jobs.1) fun _ h_order => h_after h_order
  | _ => exact .of_eq rfl

/-- Each request of the workspace adds one job at most, at the end. -/
theorem jobRows_of_post {request : WorkspaceRequest} {result : WorkspaceResult}
    (h : WorkspacePost request result db db') : JobRows db db' request := by
  -- requests of the rules and the reviews leave the jobs alone
  cases h with
  | rule _ _ _ _ h_rule =>
    refine .of_eq ?_
    rw [h_rule.frame]
  | scan _ _ _ _ h_scan => exact jobRows_of_scanPost h_scan
  | protection _ _ _ _ h_protection =>
    refine .of_eq ?_
    rw [h_protection.frame]
  | importing _ _ _ _ h_import =>
    -- of the imports, a registration inserts the job of its scan
    cases h_import with
    | created _ _ _ _ _ _ _ _ _ h_created =>
      refine .of_eq ?_
      cases h_created <;> rw [initialized_frame db]
    | partUploaded _ _ _ _ _ _ _ h_uploaded => cases h_uploaded <;> exact .of_eq rfl
    | completed _ _ _ _ _ _ _ _ h_changed =>
      refine .of_eq ?_
      rw [h_changed.frame]
    | configured _ _ _ _ _ _ h_changed =>
      refine .of_eq ?_
      rw [h_changed.frame]
    | aborted _ _ _ _ _ h_changed =>
      refine .of_eq ?_
      rw [h_changed.frame]
    | claimed _ _ _ _ _ _ _ _ h_claimed => cases h_claimed <;> exact .of_eq rfl
    | extended _ _ _ _ _ _ _ _ _ h_updated =>
      refine .of_eq ?_
      rw [h_updated.frame]
    | processed _ _ _ _ _ _ _ _ h_processed =>
      refine .of_eq ?_
      rw [h_processed.fenced.frame, initialized_frame db]
    | registered _ _ _ _ _ _ _ h_registered => exact jobRows_of_registered id h_registered
    | migrated m now ids _ _ _ h_migrated =>
      obtain ⟨rows, -, h_registered⟩ := h_migrated
      -- the session that the command inserts changes no job
      have h_rows : JobRows { db with sessions := rows } db' (.importing (.migrate m now ids)) :=
        jobRows_of_registered id h_registered
      cases h_rows with
      | changed f hf h_eq => exact .changed f hf h_eq
      | added job h_eq h_after => exact .added job h_eq h_after

end Rows

/-! ### The orders agree -/

section Runs

variable {db db' : Workspace}

/-- The jobs of a snapshot that apply. -/
theorem mem_applyJobs {snapshotId : Uuid} {j : PrivacyScanJob} :
    j ∈ db.applyJobs snapshotId ↔
      j ∈ db.jobs.rows ∧ j.snapshotId = snapshotId ∧ j.purpose = .apply := by
  rw [Workspace.applyJobs, List.mem_filter, Bool.and_eq_true, decide_eq_true_eq, decide_eq_true_eq]

/-- A change in place keeps which jobs are those of a snapshot, and their keys. -/
theorem KeepsJob.createdKey {f : PrivacyScanJob → PrivacyScanJob} (hf : KeepsJob f)
    (j : PrivacyScanJob) : (f j).createdKey = j.createdKey := by
  obtain ⟨-, -, -, -, h_created⟩ := hf.keeps j
  rw [PrivacyScanJob.createdKey, PrivacyScanJob.createdKey, h_created, hf.scanId]

/-- A step that starts in order keeps the jobs in the order of their creation times. -/
theorem JobRows.jobsInOrder {request : WorkspaceRequest} (h : JobRows db db' request)
    (h_order : StartsInOrder db request) (h_jobs : db.JobsInOrder) : db'.JobsInOrder := by
  unfold Workspace.JobsInOrder
  cases h with
  | changed f hf h_eq =>
    rw [h_eq, List.pairwise_map]
    refine h_jobs.imp fun {j j'} h_lt => ?_
    obtain ⟨h_snapshot, h_purpose, -⟩ := hf.keeps j
    obtain ⟨h_snapshot', h_purpose', -⟩ := hf.keeps j'
    rw [h_snapshot, h_purpose, h_snapshot', h_purpose', hf.createdKey, hf.createdKey]
    exact h_lt
  | added job h_eq h_after =>
    rw [h_eq, List.pairwise_append]
    refine ⟨h_jobs, List.pairwise_singleton _ _,
      fun j h_j j' h_j' h_snapshot h_apply h_apply' => ?_⟩
    obtain rfl := List.mem_singleton.mp h_j'
    exact h_after h_apply' h_order j (mem_applyJobs.mpr ⟨h_j, h_snapshot, h_apply⟩)

/-- The creations of a snapshot stay in their order, and new ones come last. -/
theorem JobRows.applyJobs_prefix {request : WorkspaceRequest} (h : JobRows db db' request)
    (snapshotId : Uuid) : (db.applyJobs snapshotId).map PrivacyScanJob.scanId <+:
      (db'.applyJobs snapshotId).map PrivacyScanJob.scanId := by
  unfold Workspace.applyJobs
  cases h with
  | changed f hf h_eq =>
    rw [h_eq, List.filter_map, List.map_map]
    have h_filter : ((fun j : PrivacyScanJob => decide (j.snapshotId = snapshotId)
        && decide (j.purpose = .apply)) ∘ f) = fun j => decide (j.snapshotId = snapshotId)
          && decide (j.purpose = .apply) := by
      funext j
      obtain ⟨h_snapshot, h_purpose, -⟩ := hf.keeps j
      rw [Function.comp_apply, h_snapshot, h_purpose]
    have h_ids : PrivacyScanJob.scanId ∘ f = PrivacyScanJob.scanId := funext hf.scanId
    rw [h_filter, h_ids]
  | added job h_eq =>
    rw [h_eq, List.filter_append, List.map_append]
    exact List.prefix_append _ _

/-- With the jobs in order, the latest by creation time is the one inserted last. -/
theorem Workspace.latestIsNewest_of_jobsInOrder (h : db.JobsInOrder) : db.LatestIsNewest := by
  have h_apply : ∀ snapshotId, (db.applyJobs snapshotId).Pairwise fun j j' =>
      j.createdKey < j'.createdKey := by
    intro snapshotId
    refine List.Pairwise.imp_of_mem (fun {j j'} h_j h_j' h_lt => ?_) (h.filter _)
    obtain ⟨-, h_snapshot, h_purpose⟩ := mem_applyJobs.mp h_j
    obtain ⟨-, h_snapshot', h_purpose'⟩ := mem_applyJobs.mp h_j'
    exact h_lt (h_snapshot.trans h_snapshot'.symm) h_purpose h_purpose'
  refine ⟨fun snapshotId => argmax_eq_getLast? (h_apply snapshotId), fun snapshotId => ?_⟩
  have h_complete := argmax_eq_getLast?
    ((h_apply snapshotId).filter fun j => decide (j.state = .complete))
  rw [← h_complete, Workspace.applyJobs, List.filter_filter]
  unfold Workspace.latestCompleteJob Workspace.latestJob
  congr 2
  funext j
  rw [← Bool.and_assoc, Bool.and_comm]

/-- A workspace whose jobs are in order, before any transaction. -/
abbrev InOrderInitial : WorkspaceState → Prop :=
  TxnSystem.Initial fun db => db.WellFormed ∧ db.JobsInOrder

variable {s s' : WorkspaceState}

/-- Runs in order are runs of the workspace. -/
theorem workspaceReachable_of_inOrder (h : Reachable InOrderInitial InOrderStep s) :
    WorkspaceReachable (fun db => db.WellFormed ∧ db.JobsInOrder) s := by
  obtain ⟨s₀, h_initial, h_run⟩ := h
  exact ⟨s₀, h_initial, TxnSystem.run_of_runIf h_run⟩

/-- A step leaves the database alone, or commits a request that started in order. -/
theorem jobRows_of_step (h : Reachable InOrderInitial InOrderStep s) (h_step : InOrderStep s s') :
    s'.db = s.db ∨ ∃ request, StartsInOrder s.db request ∧ JobRows s.db s'.db request := by
  obtain ⟨h_txn, h_order⟩ := h_step
  have h_post : ∀ {i request result}, s'.log = .committed i request result :: s.log →
      WorkspacePost request result s.db s'.db := fun h_log =>
    workspace_post (fun _ h_db => h_db.1) (workspaceReachable_of_inOrder h) h_txn h_log
  cases h_txn with
  | commit i => exact .inr ⟨_, h_order i _ _ rfl, jobRows_of_post (h_post rfl)⟩
  | _ => exact .inl rfl

/-- The jobs stay in order along every run in order. -/
theorem jobsInOrder_of_reachable (h : Reachable InOrderInitial InOrderStep s) :
    s.db.JobsInOrder := by
  obtain ⟨s₀, h_initial, h_run⟩ := h
  -- on the run, with the reachability of the state before its last step
  induction h_run with
  | refl => exact h_initial.1.2
  | tail h_before h_last ih =>
    rcases jobRows_of_step ⟨s₀, h_initial, h_before⟩ h_last with h_db | ⟨request, h_order, h_rows⟩
    · rw [h_db]
      exact ih
    · exact h_rows.jobsInOrder h_order ih

/-- The creations of every snapshot keep their order, and new ones come last. -/
def CreationsGrow (db db' : Workspace) : Prop :=
  ∀ snapshotId, (db.applyJobs snapshotId).map PrivacyScanJob.scanId <+:
    (db'.applyJobs snapshotId).map PrivacyScanJob.scanId

/-- **The latest scan.** In every run whose scans are created in the order in which their
transactions started, the latest job is the newest one in every state. -/
theorem latest_is_newest (h : Reachable InOrderInitial InOrderStep s) :
    s.db.LatestIsNewest ∧ ∀ s', ReflTransGen InOrderStep s s' → CreationsGrow s.db s'.db := by
  refine ⟨Workspace.latestIsNewest_of_jobsInOrder (jobsInOrder_of_reachable h), fun s' h_run => ?_⟩
  refine h.rel_of_run (R := fun s s' => CreationsGrow s.db s'.db) ?_ ?_ ?_ h_run
  · exact fun _ _ => List.prefix_rfl
  · exact fun _ _ _ h_one h_two snapshotId => (h_one snapshotId).trans (h_two snapshotId)
  · intro s₁ s₂ h₁ h_step snapshotId
    rcases jobRows_of_step h₁ h_step with h_db | ⟨request, -, h_rows⟩
    · rw [h_db]
    · exact h_rows.applyJobs_prefix snapshotId

/-- Where a new APPLY job is the latest one, no other of its snapshot has a later key. -/
theorem createdKey_le_of_latestIsNewest {job : PrivacyScanJob}
    (h_rows : db'.jobs.rows = db.jobs.rows ++ [job]) (h_apply : job.purpose = .apply)
    (h_newest : db'.LatestIsNewest) {j : PrivacyScanJob}
    (h_j : j ∈ db.applyJobs job.snapshotId) : j.createdKey ≤ job.createdKey := by
  have h_jobs : db'.applyJobs job.snapshotId = db.applyJobs job.snapshotId ++ [job] := by
    rw [Workspace.applyJobs, h_rows, List.filter_append]
    refine congrArg _ (List.filter_eq_self.mpr fun j' h_j' => ?_)
    obtain rfl := List.mem_singleton.mp h_j'
    rw [h_apply]
    simp only [decide_true, Bool.and_self]
  have h_latest := h_newest.scanState job.snapshotId
  rw [h_jobs, List.getLast?_concat] at h_latest
  have h_mem : j ∈ db'.applyJobs job.snapshotId := by
    rw [h_jobs]
    exact List.mem_append_left _ h_j
  exact List.le_of_mem_argmax h_mem h_latest

/-- A creation of a scan of the legacy snapshot. -/
def createRequest (scanId : Uuid) (now : Time) : WorkspaceRequest :=
  .scan (.create (Uuid.repeated 2) .apply scanId now)

theorem legacy_inOrder : InOrderInitial ⟨legacyWorkspace, fun _ => none, []⟩ :=
  ⟨⟨legacyWorkspace_wellFormed, .nil⟩, fun _ => rfl, rfl⟩

end Runs

/-! ### Scans one after the other -/

/-- The claim whose snapshot an event has loaded. -/
def loadOf : WorkspaceEvent → Option (String × ScanClaim)
  | .committed _ (.scan (.load workerId claim)) (.scan (.loaded (some _))) => some (workerId, claim)
  | _ => none

/-- The claim whose scan an event begins. -/
def loadBegunOf : WorkspaceEvent → Option (String × ScanClaim)
  | .begun _ (.scan (.load workerId claim)) => some (workerId, claim)
  | _ => none

/-- The log says who loaded a claimed scan. -/
theorem loaded_iff {log : List WorkspaceEvent} {workerId : String} {claim : ScanClaim} :
    (∃ e ∈ log, loadOf e = some (workerId, claim)) ↔ ∃ i snapshot,
      .committed i (.scan (.load workerId claim)) (.scan (.loaded (some snapshot))) ∈ log := by
  constructor
  · rintro ⟨e, h_mem, h_load⟩
    unfold loadOf at h_load
    split at h_load
    · cases h_load
      exact ⟨_, _, h_mem⟩
    · cases h_load
  · rintro ⟨i, snapshot, h_mem⟩
    exact ⟨_, h_mem, rfl⟩

/-- The log says which loads have not begun. -/
theorem notBegun_iff {log : List WorkspaceEvent} {workerId : String} {claim : ScanClaim} :
    (∀ e ∈ log, loadBegunOf e ≠ some (workerId, claim)) ↔
      ∀ i, .begun i (.scan (.load workerId claim)) ∉ log := by
  constructor
  · intro h i h_mem
    exact h _ h_mem rfl
  · intro h e h_mem h_begun
    unfold loadBegunOf at h_begun
    split at h_begun
    · cases h_begun
      exact h _ h_mem
    · cases h_begun

/-- The log says who claimed a session. -/
theorem sessionWasClaimed_iff {log : List WorkspaceEvent} {workerId : String}
    {claim : SessionClaim} : (∃ e ∈ log, sessionClaimOf e = some (workerId, claim)) ↔
      SessionWasClaimed log workerId claim := by
  constructor
  · rintro ⟨e, h_mem, h_claim⟩
    unfold sessionClaimOf at h_claim
    split at h_claim
    · cases h_claim
      exact ⟨_, _, _, _, _, h_mem⟩
    · cases h_claim
  · rintro ⟨i, uploadId, now, dbNow, leaseSeconds, h_mem⟩
    exact ⟨_, h_mem, rfl⟩

instance (log : List WorkspaceEvent) (workerId : String) (claim : ScanClaim) :
    Decidable (JobWasClaimed log workerId claim) :=
  decidable_of_iff _ jobWasClaimed_iff.symm

/-- Whether a request may begin can be read from the log. -/
instance (log : List WorkspaceEvent) : (r : WorkspaceRequest) →
    Decidable (workspaceSystem.allowed log r)
  | .scan (.load workerId claim) =>
    have := decidable_of_iff _ (@notBegun_iff log workerId claim)
    inferInstanceAs (Decidable (_ ∧ _ ∧ _))
  | .scan (.publish ..) => decidable_of_iff _ loaded_iff
  | .scan (.fail workerId claim _ _) => inferInstanceAs
      (Decidable (JobWasClaimed log workerId claim))
  | .scan (.create ..) | .scan (.claim ..) | .scan (.heartbeat ..) => .isTrue trivial
  | .importing (.process ..) => decidable_of_iff _ sessionWasClaimed_iff
  | .importing (.create ..) | .importing (.uploadPart ..) | .importing (.complete ..)
  | .importing (.configure ..) | .importing (.abort ..) | .importing (.claim ..)
  | .importing (.heartbeat ..) | .importing (.register ..) | .importing (.migrate ..) =>
    .isTrue trivial
  | .rule _ | .protection _ => .isTrue trivial

/-- A worker's claim of a job that was created in the first configuration. -/
def firstClaim (scanId : Uuid) : ScanClaim where
  scanId := scanId
  snapshotId := Uuid.repeated 2
  purpose := .apply
  pinnedRules := builtinRules
  configVersion := 1
  leaseGeneration := 1
  attemptCount := 1

/-- A worker claims a job, scans its snapshot and publishes what it found. -/
def scanRun (i : ℕ) (scanId : Uuid) (now : Time) (findings : List ScanFinding) :
    List (ℕ × WorkspaceRequest) :=
  [(i, .scan (.claim "privacy-scan-worker-1" scanId now 60)),
    (i + 1, .scan (.load "privacy-scan-worker-1" (firstClaim scanId))),
    (i + 2, .scan (.publish "privacy-scan-worker-1" (firstClaim scanId) findings (now + 1)))]

instance (db : Workspace) : (request : WorkspaceRequest) → Decidable (StartsInOrder db request)
  | .scan (.create snapshotId .apply scanId now) =>
    decidable_of_iff ((db.activeJob snapshotId .apply).isNone = true →
      db.IsAfterJobs snapshotId (toLex (now, scanId.value))) (by
        rw [Option.isNone_iff_eq_none]
        rfl)
  | .importing (.register _ _ now ids) =>
    inferInstanceAs (Decidable (db.IsAfterJobs ids.snapshotId (toLex (now, ids.scanId.value))))
  | .importing (.migrate _ now ids) =>
    inferInstanceAs (Decidable (db.IsAfterJobs ids.snapshotId (toLex (now, ids.scanId.value))))
  | .scan (.create _ (.preview ..) _ _) | .scan (.claim ..) | .scan (.load ..) | .scan (.publish ..)
  | .scan (.fail ..) | .scan (.heartbeat ..) | .importing (.process ..) | .importing (.create ..)
  | .importing (.uploadPart ..) | .importing (.complete ..) | .importing (.configure ..)
  | .importing (.abort ..) | .importing (.claim ..) | .importing (.heartbeat ..) | .rule _
  | .protection _ => .isTrue trivial

/-- A creation, its scan, and another creation. -/
def scannedTwice : List (ℕ × WorkspaceRequest) :=
  (0, createRequest (Uuid.repeated 3) 1) :: scanRun 1 (Uuid.repeated 3) 2 []
    ++ [(4, createRequest (Uuid.repeated 4) 10)]

/-- The second of two creations is the latest and the newest one. -/
theorem latest_is_newest_created : ∃ s : WorkspaceState,
    Reachable InOrderInitial InOrderStep s ∧
      (s.db.applyJobs (Uuid.repeated 2)).map PrivacyScanJob.scanId =
        [Uuid.repeated 3, Uuid.repeated 4] ∧
      (s.db.latestApplyJob (Uuid.repeated 2)).map PrivacyScanJob.scanId = some (Uuid.repeated 4) ∧
      s.db.LatestIsNewest := by
  have h_end : (workspaceSystem.serial scannedTwice legacyWorkspace []).map (fun x =>
      ((x.1.applyJobs (Uuid.repeated 2)).map PrivacyScanJob.scanId,
        (x.1.latestApplyJob (Uuid.repeated 2)).map PrivacyScanJob.scanId)) =
      some ([Uuid.repeated 3, Uuid.repeated 4], some (Uuid.repeated 4)) := by
    decide +kernel
  have h_allowed : workspaceSystem.SerialAllowed scannedTwice legacyWorkspace [] := by
    decide +kernel
  -- the second creation starts after the first one has been published
  have h_order : workspaceSystem.SerialMeets StartsInOrder scannedTwice legacyWorkspace := by
    decide +kernel
  obtain ⟨⟨db, log⟩, h_serial, h_ids⟩ := Option.map_eq_some_iff.mp h_end
  obtain ⟨h_jobs, h_latest⟩ := Prod.mk.inj h_ids
  have h_reachable : Reachable InOrderInitial InOrderStep ⟨db, fun _ => none, log⟩ :=
    ⟨_, legacy_inOrder, TxnSystem.runIf_serial h_allowed h_order h_serial⟩
  exact ⟨_, h_reachable, h_jobs, h_latest, (latest_is_newest h_reachable).1⟩

/-! ### A creation that stalls -/

/-- The creation that has started first. -/
def stalled : WorkspaceRequest := createRequest (Uuid.repeated 3) 1

/-- Another creation and its scan, while one that has started before it stalls. -/
def overtaking : List (ℕ × WorkspaceRequest) :=
  (1, createRequest (Uuid.repeated 4) 2) :: scanRun 2 (Uuid.repeated 4) 3 []

/-- The scan of the creation that stalled. -/
def overtaken : List (ℕ × WorkspaceRequest) := scanRun 5 (Uuid.repeated 3) 6 []

/-- The last creation is complete, and the latest job is another one. -/
def Workspace.IsShadowed (db : Workspace) : Prop :=
  ((db.applyJobs (Uuid.repeated 2)).getLast?.map fun j => (j.scanId, j.state)) =
      some (Uuid.repeated 3, .complete) ∧
    (db.latestApplyJob (Uuid.repeated 2)).map PrivacyScanJob.scanId = some (Uuid.repeated 4) ∧
    (db.latestCompleteJob (Uuid.repeated 2)).map PrivacyScanJob.scanId = some (Uuid.repeated 4)

instance (db : Workspace) : Decidable db.IsShadowed := inferInstanceAs (Decidable (_ ∧ _ ∧ _))

/-- A shadowed database shows an older job as the latest. -/
theorem not_latestIsNewest_of_isShadowed {db : Workspace} (h : db.IsShadowed) :
    (db.latestApplyJob (Uuid.repeated 2)) ≠ (db.applyJobs (Uuid.repeated 2)).getLast? := by
  intro h_eq
  obtain ⟨h_last, h_apply, -⟩ := h
  rw [h_eq] at h_apply
  obtain ⟨j, h_j, h_id⟩ := Option.map_eq_some_iff.mp h_apply
  rw [h_j, Option.map_some, h_id] at h_last
  obtain ⟨h_ids, -⟩ := Prod.mk.inj (Option.some.inj h_last)
  exact absurd h_ids (by decide)

/-- A scan that was created last and is complete is shadowed by one that was created before it. -/
theorem latest_is_not_newest : ∃ s : WorkspaceState,
    Reachable InOrderInitial (TxnSystem.Step workspaceSystem) s ∧ s.db.IsShadowed ∧
      ¬ s.db.LatestIsNewest := by
  have h_run : ((workspaceSystem.serial overtaking legacyWorkspace [.begun 0 stalled]).bind fun x =>
      ((workspaceSystem.program stalled).alone some x.1).bind fun y =>
        (workspaceSystem.serial overtaken y.2 (.committed 0 stalled y.1 :: x.2)).map fun z =>
          decide (z.1.IsShadowed ∧
            workspaceSystem.SerialAllowed overtaken y.2 (.committed 0 stalled y.1 :: x.2))) =
      some true := by
    decide
  obtain ⟨x, h_before, h_run⟩ := Option.bind_eq_some_iff.mp h_run
  obtain ⟨y, h_alone, h_run⟩ := Option.bind_eq_some_iff.mp h_run
  obtain ⟨z, h_after, h_run⟩ := Option.map_eq_some_iff.mp h_run
  obtain ⟨h_shadowed, h_allowed⟩ := of_decide_eq_true h_run
  have h_first : ReflTransGen (TxnSystem.Step workspaceSystem) ⟨legacyWorkspace, fun _ => none, []⟩
      ⟨y.2, fun _ => none, .committed 0 stalled y.1 :: x.2⟩ :=
    TxnSystem.run_overtaken trivial (by decide) (by decide) h_before h_alone
  have h_second := TxnSystem.run_serial h_allowed h_after
  exact ⟨_, ⟨_, legacy_inOrder, h_first.trans h_second⟩, h_shadowed, fun h_newest =>
    not_latestIsNewest_of_isShadowed h_shadowed (h_newest.scanState _)⟩

end DqScoring
