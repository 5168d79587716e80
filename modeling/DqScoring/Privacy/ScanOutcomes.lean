import DqScoring.Privacy.ProtectionVersions

/-!
# The outcomes of scans

A job goes from the queue to a worker and back until it is complete or has failed. Every
write of a worker is fenced by the owner and the generation of its lease, so a worker that
was overtaken writes nothing; a worker scans only what it has claimed, with its first three
attempts. `JobsChange` says what a request does to the table of jobs, and `ScansFenced` is
the invariant; `scan_outcomes` is what they come to.
-/

namespace DqScoring

open Framework Relation

/-! ### Events -/

/-- The claim that an event hands to a worker. -/
def claimOf : WorkspaceEvent → Option (String × ScanClaim)
  | .committed _ (.scan (.claim workerId _ _ _)) (.scan (.claimed (some claim))) =>
    some (workerId, claim)
  | _ => none

/-- The attempt at a job whose scan an event begins. -/
def scanAttempt (scanId : Uuid) : WorkspaceEvent → Option ℕ
  | .begun _ (.scan (.load _ claim)) =>
    if claim.scanId = scanId then some claim.attemptCount else none
  | _ => none

/-- The event records an outcome that ends a job. -/
def endsJob (scanId : Uuid) : WorkspaceEvent → Bool
  | .committed _ (.scan (.publish _ claim _ _)) (.scan (.published true)) =>
    decide (claim.scanId = scanId)
  | .committed _ (.scan (.fail _ claim code _)) (.scan (.failed true)) =>
    decide (claim.scanId = scanId) && !requeues claim code
  | _ => false

/-- Whether a worker claimed a job is written in the log. -/
theorem jobWasClaimed_iff {log : List WorkspaceEvent} {workerId : String} {claim : ScanClaim} :
    JobWasClaimed log workerId claim ↔ ∃ e ∈ log, claimOf e = some (workerId, claim) := by
  constructor
  · rintro ⟨i, scanId, now, leaseSeconds, h_mem⟩
    exact ⟨_, h_mem, rfl⟩
  · rintro ⟨e, h_mem, h_claim⟩
    unfold claimOf at h_claim
    split at h_claim
    · cases h_claim
      exact ⟨_, _, _, _, h_mem⟩
    · cases h_claim

/-- A claim that the log knows is one of the last event or an earlier one. -/
theorem JobWasClaimed.of_cons {log : List WorkspaceEvent} {e : WorkspaceEvent} {workerId : String}
    {claim : ScanClaim} (h : JobWasClaimed (e :: log) workerId claim) :
    claimOf e = some (workerId, claim) ∨ JobWasClaimed log workerId claim := by
  obtain ⟨e', h_mem, h_claim⟩ := jobWasClaimed_iff.mp h
  rcases List.mem_cons.mp h_mem with rfl | h_later
  · exact .inl h_claim
  · exact .inr (jobWasClaimed_iff.mpr ⟨e', h_later, h_claim⟩)

/-- A claim stays in the log. -/
theorem JobWasClaimed.of_suffix {log log' : List WorkspaceEvent} {workerId : String}
    {claim : ScanClaim} (h : JobWasClaimed log workerId claim) (h_suffix : log <:+ log') :
    JobWasClaimed log' workerId claim := by
  obtain ⟨i, scanId, now, leaseSeconds, h_mem⟩ := h
  exact ⟨i, scanId, now, leaseSeconds, h_suffix.mem h_mem⟩

/-! ### What a request does to the jobs -/

section Jobs

variable {db db' : Workspace}

/-- A request that hands out no job and ends none. -/
structure NoOutcome (request : WorkspaceRequest) (result : WorkspaceResult) : Prop where
  claims : ∀ i, claimOf (.committed i request result) = none
  ends : ∀ i id, endsJob id (.committed i request result) = false

/-- What a request does to the table of jobs. -/
inductive JobsChange (jobs jobs' : Table PrivacyScanJob.scanId) :
    WorkspaceRequest → WorkspaceResult → Prop
  | kept (request result) : jobs' = jobs → NoOutcome request result →
      JobsChange jobs jobs' request result
  | inserted (job request result) : jobs.insert job = some jobs' →
      jobs'.HasUniqueIndex Workspace.activeJobKey → NoOutcome request result →
      JobsChange jobs jobs' request result
  | claimed (workerId scanId now leaseSeconds job) : jobs.find? scanId = some job →
      job.isClaimable now →
      jobs' = jobs.update scanId (PrivacyScanJob.claim workerId (now + leaseSeconds))
        (PrivacyScanJob.claim_scanId workerId (now + leaseSeconds)) →
      JobsChange jobs jobs' (.scan (.claim workerId scanId now leaseSeconds))
        (.scan (.claimed (some (job.claim workerId (now + leaseSeconds)).toClaim)))
  /-- A write behind a fence ends the job exactly if the job is not active after it. -/
  | fenced (scanId job f request result) (hf : KeepsJob f) : jobs.find? scanId = some job →
      job.state = .running → (f job).attemptCount = job.attemptCount →
      jobs' = jobs.update scanId f hf.scanId →
      (∀ i, claimOf (.committed i request result) = none) →
      (∀ i id, endsJob id (.committed i request result)
        = (decide (scanId = id) && !(f job).state.isActive)) →
      JobsChange jobs jobs' request result

/-- A fenced worker runs the job under its generation. -/
theorem state_of_isFenced {job : PrivacyScanJob} {workerId : String} {generation : ℕ} {now : Time}
    (h : job.isFenced workerId generation now) :
    job.state = .running ∧ job.leaseOwner = some workerId ∧ job.leaseGeneration = generation := by
  simp only [PrivacyScanJob.isFenced, Bool.and_eq_true, decide_eq_true_eq] at h
  exact ⟨h.1.1.1, h.1.1.2, h.1.2⟩

/-- What each scan request does to the jobs, as one move per job. -/
theorem jobsChange_of_scanPost {request : ScanRequest} {result : ScanResult}
    (h : ScanPost request result db db') :
    JobsChange db.jobs db'.jobs (.scan request) (.scan result) := by
  -- the jobs a request inserts, moves or ends
  cases h with
  | submitted _ _ _ _ _ _ _ h_submitted =>
    cases h_submitted with
    | inProgress => exact .kept _ _ rfl ⟨fun _ => rfl, fun _ _ => rfl⟩
    | queued _ _ rows _ _ h_rows h_unique =>
      exact .inserted _ _ _ h_rows h_unique ⟨fun _ => rfl, fun _ _ => rfl⟩
  | claimed _ _ _ _ _ _ _ h_claimed =>
    cases h_claimed with
    | nothing => exact .kept _ _ rfl ⟨fun _ => rfl, fun _ _ => rfl⟩
    | claimed job h_job h_claimable => exact .claimed _ _ _ _ job h_job h_claimable rfl
  | extended _ scanId _ _ _ _ _ _ h_updated =>
    cases h_updated with
    | lost => exact .kept _ _ rfl ⟨fun _ => rfl, fun _ _ => rfl⟩
    | updated job _ h_job h_fenced =>
      obtain ⟨h_running, -⟩ := state_of_isFenced h_fenced
      refine .fenced scanId job _ _ _ (keepsJob_extend _) h_job h_running rfl rfl (fun _ => rfl)
        fun i id => ?_
      -- the job goes on
      show false = (_ && !job.state.isActive)
      rw [h_running]
      exact (Bool.and_false _).symm
  | loaded => exact .kept _ _ rfl ⟨fun _ => rfl, fun _ _ => rfl⟩
  | published _ claim _ _ _ _ _ h_published =>
    -- both kinds of a publication complete the job
    have h_complete : ∀ {job : PrivacyScanJob} {workerId findings now} {db₁ : Workspace},
        db.jobs.find? claim.scanId = some job → job.isFenced workerId claim.leaseGeneration now →
        db₁.jobs = db.jobs.update claim.scanId PrivacyScanJob.complete
          PrivacyScanJob.complete_scanId →
        JobsChange db.jobs db₁.jobs (.scan (.publish workerId claim findings now))
          (.scan (.published true)) := by
      intro job workerId findings now db₁ h_job h_fenced h_jobs
      exact .fenced claim.scanId job _ _ _ keepsJob_complete h_job
        (state_of_isFenced h_fenced).1 rfl h_jobs (fun _ => rfl) fun i id => (Bool.and_true _).symm
    -- a lost claim publishes nothing
    cases h_published with
    | gone => exact .kept _ _ rfl ⟨fun _ => rfl, fun _ _ => rfl⟩
    | lost => exact .kept _ _ rfl ⟨fun _ => rfl, fun _ _ => rfl⟩
    | preview _ job _ h_job h_fenced => exact h_complete h_job h_fenced rfl
    | applied _ job _ _ _ h_job h_fenced => exact h_complete h_job h_fenced rfl
  | failed _ claim code _ _ _ _ h_updated =>
    cases h_updated with
    | lost => exact .kept _ _ rfl ⟨fun _ => rfl, fun _ _ => rfl⟩
    | updated job hf h_job h_fenced =>
      obtain ⟨h_running, -⟩ := state_of_isFenced h_fenced
      cases h_requeues : requeues claim code with
      | true =>
        -- queued again, so the job is not ended
        have h_failed : failedJob claim code = PrivacyScanJob.requeue := if_pos h_requeues
        refine .fenced claim.scanId job _ _ _ keepsJob_requeue h_job h_running rfl ?_ (fun _ => rfl)
          fun i id => ?_
        · simp only [h_failed]
          rfl
        · show (_ && !requeues claim code) = _
          rw [h_requeues]
          rfl
      | false =>
        -- failed, which ends it
        have h_failed : failedJob claim code = PrivacyScanJob.fail code := by
          rw [failedJob, h_requeues]
          rfl
        refine .fenced claim.scanId job _ _ _ (keepsJob_fail code) h_job h_running rfl ?_
          (fun _ => rfl) fun i id => ?_
        · simp only [h_failed]
          rfl
        · show (_ && !requeues claim code) = _
          rw [h_requeues]
          rfl

/-- A registration adds jobs only for the snapshot it registers. -/
theorem jobsChange_of_registered {uploadId : Uuid} {acknowledgedWarnings : List String} {now : Time}
    {ids : RegistrationIds} {answer : Except RegistrationError DatasetSnapshot}
    {request : WorkspaceRequest} {result : WorkspaceResult} (h_no : NoOutcome request result)
    (h : Registered uploadId acknowledgedWarnings now ids db answer db') :
    JobsChange db.jobs db'.jobs request result := by
  cases h with
  | resolved session _ _ dbA _ _ _ _ h_asset h_added =>
    have h_dbA : dbA.jobs = db.jobs := by
      cases h_asset <;> rfl
    cases h_added with
    | conflict => exact .kept _ _ h_dbA h_no
    | duplicate => exact .kept _ _ h_dbA h_no
    | created _ _ h_version =>
      have h_jobs := h_version.jobs
      cases h_config : session.manifest.privacyConfigVersion with
      | none =>
        rw [h_config] at h_jobs
        exact .kept _ _ (Eq.trans h_jobs h_dbA) h_no
      | some version =>
        rw [h_config, h_dbA] at h_jobs
        exact .inserted _ _ _ h_jobs.1 h_jobs.2 h_no
  | _ => exact .kept _ _ rfl h_no

/-- What each request of the workspace does to the jobs. -/
theorem jobsChange_of_post {request : WorkspaceRequest} {result : WorkspaceResult}
    (h : WorkspacePost request result db db') :
    JobsChange db.jobs db'.jobs request result := by
  cases h with
  | rule _ _ _ _ h_rule =>
    refine .kept _ _ ?_ ⟨fun _ => rfl, fun _ _ => rfl⟩
    rw [h_rule.frame]
  | scan _ _ _ _ h_scan => exact jobsChange_of_scanPost h_scan
  | protection _ _ _ _ h_protection =>
    refine .kept _ _ ?_ ⟨fun _ => rfl, fun _ _ => rfl⟩
    rw [h_protection.frame]
  | importing _ _ _ _ h_import =>
    have h_no : ∀ {request result}, NoOutcome (.importing request) (.importing result) :=
      ⟨fun _ => rfl, fun _ _ => rfl⟩
    cases h_import with
    | created _ _ _ _ _ _ _ _ _ h_created =>
      refine .kept _ _ ?_ h_no
      cases h_created <;> rw [initialized_frame db]
    | partUploaded _ _ _ _ _ _ _ h_uploaded => cases h_uploaded <;> exact .kept _ _ rfl h_no
    | completed _ _ _ _ _ _ _ _ h_changed => cases h_changed <;> exact .kept _ _ rfl h_no
    | configured _ _ _ _ _ _ h_changed => cases h_changed <;> exact .kept _ _ rfl h_no
    | aborted _ _ _ _ _ h_changed => cases h_changed <;> exact .kept _ _ rfl h_no
    | claimed _ _ _ _ _ _ _ _ h_claimed => cases h_claimed <;> exact .kept _ _ rfl h_no
    | extended _ _ _ _ _ _ _ _ _ h_updated => cases h_updated <;> exact .kept _ _ rfl h_no
    | processed _ _ _ _ _ _ _ _ h_processed =>
      refine .kept _ _ ?_ h_no
      rw [h_processed.fenced.frame, initialized_frame db]
    | registered _ _ _ _ _ _ _ h_registered => exact jobsChange_of_registered h_no h_registered
    | migrated _ _ _ _ _ _ h_migrated =>
      obtain ⟨rows, -, h_registered⟩ := h_migrated
      show JobsChange ({ db with sessions := rows } : Workspace).jobs db'.jobs _ _
      exact jobsChange_of_registered h_no h_registered

/-- A job that is there stays, and one that has ended stays as it is. -/
theorem JobsChange.find? {jobs jobs' : Table PrivacyScanJob.scanId} {request : WorkspaceRequest}
    {result : WorkspaceResult} (h : JobsChange jobs jobs' request result) {id : Uuid}
    {job : PrivacyScanJob} (h_job : jobs.find? id = some job) :
    ∃ job', jobs'.find? id = some job' ∧ job'.snapshotId = job.snapshotId ∧
      job'.purpose = job.purpose ∧ job.attemptCount ≤ job'.attemptCount ∧
      (job.state.isActive = false → job' = job) := by
  cases h with
  | kept _ _ h_eq =>
    rw [h_eq]
    exact ⟨job, h_job, rfl, rfl, le_rfl, fun _ => rfl⟩
  | inserted _ _ _ h_insert =>
    exact ⟨job, find?_of_insert_of_find? h_insert h_job, rfl, rfl, le_rfl, fun _ => rfl⟩
  | claimed workerId scanId now leaseSeconds job₀ h_job₀ h_claimable h_eq =>
    rw [h_eq, Table.find?_update]
    by_cases h_id : id = scanId
    · subst h_id
      rw [h_job] at h_job₀
      obtain rfl := Option.some.inj h_job₀
      rw [if_pos rfl, h_job]
      refine ⟨_, rfl, rfl, rfl, Nat.le_succ _, fun h_ended => ?_⟩
      -- a job that is claimed is in the queue or running
      simp only [PrivacyScanJob.isClaimable, Bool.or_eq_true, Bool.and_eq_true,
        decide_eq_true_eq] at h_claimable
      rcases h_claimable with h_state | ⟨h_state, -⟩ <;> rw [h_state] at h_ended <;> cases h_ended
    · rw [if_neg h_id]
      exact ⟨job, h_job, rfl, rfl, le_rfl, fun _ => rfl⟩
  | fenced scanId job₀ f _ _ hf h_job₀ h_running h_attempts h_eq =>
    rw [h_eq, Table.find?_update]
    by_cases h_id : id = scanId
    · subst h_id
      rw [h_job] at h_job₀
      obtain rfl := Option.some.inj h_job₀
      rw [if_pos rfl, h_job]
      obtain ⟨h_snapshot, h_purpose, -⟩ := hf.keeps job
      refine ⟨_, rfl, h_snapshot, h_purpose, h_attempts.ge, fun h_ended => ?_⟩
      rw [h_running] at h_ended
      cases h_ended
    · rw [if_neg h_id]
      exact ⟨job, h_job, rfl, rfl, le_rfl, fun _ => rfl⟩

/-- The index of active jobs keeps at most one job of a snapshot for a purpose. -/
theorem JobsChange.hasUniqueIndex {jobs jobs' : Table PrivacyScanJob.scanId}
    {request : WorkspaceRequest} {result : WorkspaceResult}
    (h : JobsChange jobs jobs' request result)
    (h_unique : jobs.HasUniqueIndex Workspace.activeJobKey) :
    jobs'.HasUniqueIndex Workspace.activeJobKey := by
  cases h with
  | kept _ _ h_eq =>
    rw [h_eq]
    exact h_unique
  | inserted _ _ _ _ h_unique' => exact h_unique'
  | claimed workerId scanId now leaseSeconds job h_job h_claimable h_eq =>
    rw [h_eq]
    refine h_unique.update _ fun job' h_job' => .inl ?_
    rw [h_job] at h_job'
    obtain rfl := Option.some.inj h_job'
    -- it was active before
    simp only [PrivacyScanJob.isClaimable, Bool.or_eq_true, Bool.and_eq_true,
      decide_eq_true_eq] at h_claimable
    rcases h_claimable with h_state | ⟨h_state, -⟩ <;>
      simp [Workspace.activeJobKey, PrivacyScanJob.claim, h_state, JobState.isActive]
  | fenced scanId job f _ _ hf h_job h_running _ h_eq =>
    rw [h_eq]
    refine h_unique.update _ fun job' h_job' => ?_
    rw [h_job] at h_job'
    obtain rfl := Option.some.inj h_job'
    obtain ⟨h_snapshot, h_purpose, -⟩ := hf.keeps job
    rw [Workspace.activeJobKey, Workspace.activeJobKey, h_snapshot, h_purpose, h_running]
    cases (f job).state.isActive with
    | false => exact .inr rfl
    | true => exact .inl rfl

/-- A job that is handed out is there, and the claim is its next attempt. -/
theorem JobsChange.of_claim {jobs jobs' : Table PrivacyScanJob.scanId} {request : WorkspaceRequest}
    {result : WorkspaceResult} (h : JobsChange jobs jobs' request result) {i : ℕ}
    {workerId : String} {claim : ScanClaim}
    (h_claim : claimOf (.committed i request result) = some (workerId, claim)) :
    ∃ job job', jobs.find? claim.scanId = some job ∧ jobs'.find? claim.scanId = some job' ∧
      claim.attemptCount = job.attemptCount + 1 ∧ claim = job'.toClaim := by
  cases h with
  | kept _ _ _ h_no =>
    rw [h_no.claims] at h_claim
    cases h_claim
  | inserted _ _ _ _ _ h_no =>
    rw [h_no.claims] at h_claim
    cases h_claim
  | claimed workerId' scanId now leaseSeconds job h_job h_claimable h_eq =>
    cases h_claim
    obtain ⟨-, rfl⟩ := Table.find?_eq_some_iff.mp h_job
    refine ⟨job, _, h_job, ?_, rfl, rfl⟩
    rw [h_eq, Table.find?_update]
    exact (if_pos rfl).trans (congrArg (Option.map _) h_job)
  | fenced _ _ _ _ _ _ _ _ _ _ h_none =>
    rw [h_none] at h_claim
    cases h_claim

/-- A job that is ended was running. -/
theorem JobsChange.of_end {jobs jobs' : Table PrivacyScanJob.scanId} {request : WorkspaceRequest}
    {result : WorkspaceResult} (h : JobsChange jobs jobs' request result) {i : ℕ} {id : Uuid}
    (h_end : endsJob id (.committed i request result) = true) :
    ∃ job job', jobs.find? id = some job ∧ job.state = .running ∧ jobs'.find? id = some job' ∧
      job'.state.isActive = false := by
  cases h with
  | kept _ _ _ h_no =>
    rw [h_no.ends] at h_end
    cases h_end
  | inserted _ _ _ _ _ h_no =>
    rw [h_no.ends] at h_end
    cases h_end
  | claimed => cases h_end
  | fenced scanId job f _ _ hf h_job h_running _ h_eq _ h_ends =>
    rw [h_ends, Bool.and_eq_true, decide_eq_true_eq, Bool.not_eq_true'] at h_end
    obtain ⟨rfl, h_ended⟩ := h_end
    refine ⟨job, f job, h_job, h_running, ?_, h_ended⟩
    rw [h_eq, Table.find?_update, if_pos rfl, h_job]
    rfl

/-- A job that was active and is not any more has been ended. -/
theorem JobsChange.ends {jobs jobs' : Table PrivacyScanJob.scanId} {request : WorkspaceRequest}
    {result : WorkspaceResult} (h : JobsChange jobs jobs' request result) {id : Uuid}
    {job job' : PrivacyScanJob} (h_job : jobs.find? id = some job)
    (h_job' : jobs'.find? id = some job') (h_active : job.state.isActive = true)
    (h_inactive : job'.state.isActive = false) (i : ℕ) :
    endsJob id (.committed i request result) = true := by
  have h_changed : jobs'.find? id ≠ some job := by
    intro h_eq
    rw [h_eq] at h_job'
    rw [← Option.some.inj h_job', h_active] at h_inactive
    cases h_inactive
  cases h with
  | kept _ _ h_eq =>
    rw [h_eq] at h_changed
    exact absurd h_job h_changed
  | inserted _ _ _ h_insert => exact absurd (find?_of_insert_of_find? h_insert h_job) h_changed
  | claimed workerId scanId now leaseSeconds job₀ h_job₀ _ h_eq =>
    rw [h_eq, Table.find?_update] at h_changed h_job'
    by_cases h_id : id = scanId
    · rw [if_pos h_id, h_job₀] at h_job'
      -- a job that is claimed is active
      obtain rfl := Option.some.inj h_job'
      cases h_inactive
    · rw [if_neg h_id] at h_changed
      exact absurd h_job h_changed
  | fenced scanId job₀ f _ _ hf h_job₀ _ _ h_eq _ h_ends =>
    rw [h_eq, Table.find?_update] at h_changed h_job'
    by_cases h_id : id = scanId
    · rw [if_pos h_id, h_job₀] at h_job'
      obtain rfl := Option.some.inj h_job'
      rw [h_ends, h_inactive, decide_eq_true h_id.symm]
      rfl
    · rw [if_neg h_id] at h_changed
      exact absurd h_job h_changed

end Jobs

/-! ### The invariant -/

/-- A tenant before its first scan. -/
def Unscanned (db : Workspace) : Prop := db.WellFormed ∧ db.jobs = Table.empty

/-- What holds of the jobs and of what the log says of them. -/
structure ScansFenced (db : Workspace) (log : List WorkspaceEvent) : Prop where
  allowed : TxnSystem.LogAllowed WorkspaceRequest.allowed log
  index : db.jobs.HasUniqueIndex Workspace.activeJobKey
  claims : ∀ workerId claim, JobWasClaimed log workerId claim →
    ∃ job, db.jobs.find? claim.scanId = some job ∧ job.snapshotId = claim.snapshotId ∧
      job.purpose = claim.purpose ∧ claim.attemptCount ≤ job.attemptCount ∧ 1 ≤ claim.attemptCount
  distinct : ∀ workerId claim workerId' claim', JobWasClaimed log workerId claim →
    JobWasClaimed log workerId' claim' → claim.scanId = claim'.scanId →
    claim.attemptCount = claim'.attemptCount → workerId = workerId' ∧ claim = claim'
  scans : ∀ id, (log.filterMap (scanAttempt id)).Nodup ∧
    ∀ n ∈ log.filterMap (scanAttempt id), 1 ≤ n ∧ n ≤ maxScanAttempts
  ended : ∀ id, log.countP (endsJob id) ≤ 1 ∧ (0 < log.countP (endsJob id) →
    ∃ job, db.jobs.find? id = some job ∧ job.state.isActive = false)

namespace ScansFenced

variable {db db' : Workspace} {log : List WorkspaceEvent}

/-- Before any scan there is nothing to fence. -/
theorem of_unscanned (h : Unscanned db) : ScansFenced db [] where
  allowed := trivial
  index := by
    rw [h.2]
    exact List.nodup_nil
  claims := by
    rintro workerId claim ⟨_, _, _, _, h_mem⟩
    cases h_mem
  distinct := by
    rintro workerId claim _ _ ⟨_, _, _, _, h_mem⟩
    cases h_mem
  scans id := ⟨List.nodup_nil, fun n h_n => by cases h_n⟩
  ended id := ⟨Nat.zero_le 1, fun h_pos => absurd h_pos (Nat.lt_irrefl 0)⟩

/-- A load that is in the log has a claim that is in the log. -/
theorem claimed_of_load (h : TxnSystem.LogAllowed WorkspaceRequest.allowed log) {i : ℕ}
    {workerId : String} {claim : ScanClaim}
    (h_mem : .begun i (.scan (.load workerId claim)) ∈ log) : JobWasClaimed log workerId claim := by
  obtain ⟨before, h_before, h_claimed, -⟩ := h.of_mem h_mem
  exact h_claimed.of_suffix h_before

/-- Beginning a request is no claim and no outcome; a scan that begins is a new attempt. -/
theorem begun (h : ScansFenced db log) {i : ℕ} {request : WorkspaceRequest}
    (h_allowed : request.allowed log) : ScansFenced db (.begun i request :: log) := by
  have h_claims : ∀ {workerId claim}, JobWasClaimed (.begun i request :: log) workerId claim →
      JobWasClaimed log workerId claim :=
    fun h_claimed => h_claimed.of_cons.resolve_left fun h_none => by cases h_none
  refine ⟨⟨h_allowed, h.allowed⟩, h.index, fun w c h_c => h.claims w c (h_claims h_c),
    fun w c w' c' h_c h_c' => h.distinct w c w' c' (h_claims h_c) (h_claims h_c'), fun id => ?_,
    fun id => ?_⟩
  · -- a scan begins with an attempt of its claim
    rw [List.filterMap_cons]
    cases h_attempt : scanAttempt id (.begun i request) with
    | none => exact h.scans id
    | some n =>
      unfold scanAttempt at h_attempt
      split at h_attempt
      · rename_i _ _ workerId claim h_event
        cases h_event
        split at h_attempt
        · rename_i h_id
          subst h_id
          obtain rfl := Option.some.inj h_attempt
          obtain ⟨h_claimed, h_le, h_first⟩ := h_allowed
          obtain ⟨job, -, -, -, -, h_pos⟩ := h.claims workerId claim h_claimed
          refine ⟨List.nodup_cons.mpr ⟨fun h_mem => ?_, (h.scans _).1⟩, fun n h_n => ?_⟩
          · -- an earlier scan with this attempt is of this claim, which is loaded once
            obtain ⟨e, h_e, h_same⟩ := List.mem_filterMap.mp h_mem
            unfold scanAttempt at h_same
            split at h_same
            · rename_i _ j workerId' claim'
              split at h_same
              · rename_i h_id
                obtain ⟨rfl, rfl⟩ := h.distinct workerId' claim' workerId claim
                  (claimed_of_load h.allowed h_e) h_claimed h_id (Option.some.inj h_same)
                exact h_first j h_e
              · cases h_same
            · cases h_same
          · rcases List.mem_cons.mp h_n with rfl | h_old
            · exact ⟨h_pos, h_le⟩
            · exact (h.scans _).2 n h_old
        · cases h_attempt
      · cases h_attempt
  · -- nothing is ended at the beginning
    rw [List.countP_cons_of_neg (by simp [endsJob])]
    exact h.ended id

/-- A rolled back request changes no job. -/
theorem rolledBack (h : ScansFenced db log) {i : ℕ} {request : WorkspaceRequest}
    {error : Option HttpError} : ScansFenced db (.rolledBack i request error :: log) := by
  have h_claims : ∀ {workerId claim},
      JobWasClaimed (.rolledBack i request error :: log) workerId claim →
      JobWasClaimed log workerId claim :=
    fun h_claimed => h_claimed.of_cons.resolve_left fun h_none => by cases h_none
  refine ⟨h.allowed, h.index, fun w c h_c => h.claims w c (h_claims h_c),
    fun w c w' c' h_c h_c' => h.distinct w c w' c' (h_claims h_c) (h_claims h_c'), h.scans,
    fun id => ?_⟩
  rw [List.countP_cons_of_neg (by simp [endsJob])]
  exact h.ended id

/-- A commit keeps every job's claims and outcomes accounted for by the log: one case per
move of a job. -/
theorem committed (h : ScansFenced db log) {i : ℕ} {request : WorkspaceRequest}
    {result : WorkspaceResult} (h_change : JobsChange db.jobs db'.jobs request result)
    (h_begun : .begun i request ∈ log) : ScansFenced db' (.committed i request result :: log) := by
  refine ⟨⟨h_begun, h.allowed⟩, h_change.hasUniqueIndex h.index, fun w c h_c => ?_,
    fun w c w' c' h_c h_c' h_id h_attempt => ?_, h.scans, fun id => ?_⟩
  · -- the claims of the log, old and new
    rcases h_c.of_cons with h_new | h_old
    · obtain ⟨job, job', -, h_job', h_attempt, rfl⟩ := h_change.of_claim h_new
      refine ⟨job', h_job', rfl, rfl, le_rfl, ?_⟩
      rw [h_attempt]
      exact Nat.le_add_left 1 _
    · obtain ⟨job, h_job, h_snapshot, h_purpose, h_le, h_pos⟩ := h.claims w c h_old
      obtain ⟨job', h_job', h_snapshot', h_purpose', h_le', -⟩ := h_change.find? h_job
      exact ⟨job', h_job', h_snapshot'.trans h_snapshot, h_purpose'.trans h_purpose,
        h_le.trans h_le', h_pos⟩
  · -- a new claim is one attempt later than all those before
    have h_later : ∀ {w c w' c'}, claimOf (.committed i request result) = some (w, c) →
        JobWasClaimed log w' c' → c.scanId = c'.scanId → c.attemptCount ≠ c'.attemptCount := by
      intro w c w' c' h_new h_old h_id h_eq
      obtain ⟨job, -, h_job, -, h_attempt, -⟩ := h_change.of_claim h_new
      obtain ⟨job', h_job', -, -, h_le, -⟩ := h.claims w' c' h_old
      rw [h_id, h_job'] at h_job
      obtain rfl := Option.some.inj h_job
      omega
    rcases h_c.of_cons with h_new | h_old
    · rcases h_c'.of_cons with h_new' | h_old'
      · rw [h_new] at h_new'
        exact Prod.mk.inj (Option.some.inj h_new')
      · exact absurd h_attempt (h_later h_new h_old' h_id)
    · rcases h_c'.of_cons with h_new' | h_old'
      · exact absurd h_attempt.symm (h_later h_new' h_old h_id.symm)
      · exact h.distinct w c w' c' h_old h_old' h_id h_attempt
  · -- at most one end per job
    obtain ⟨h_le, h_ended⟩ := h.ended id
    cases h_end : endsJob id (.committed i request result) with
    | false =>
      rw [List.countP_cons_of_neg (by simp [h_end])]
      refine ⟨h_le, fun h_pos => ?_⟩
      obtain ⟨job, h_job, h_inactive⟩ := h_ended h_pos
      obtain ⟨job', h_job', -, -, -, h_same⟩ := h_change.find? h_job
      rw [h_same h_inactive] at h_job'
      exact ⟨job, h_job', h_inactive⟩
    | true =>
      obtain ⟨job, job', h_job, h_running, h_job', h_inactive⟩ := h_change.of_end h_end
      -- a job that is running has not ended before
      have h_zero : log.countP (endsJob id) = 0 := by
        by_contra h_ne
        obtain ⟨job₀, h_job₀, h_inactive₀⟩ := h_ended (Nat.pos_of_ne_zero h_ne)
        rw [h_job] at h_job₀
        obtain rfl := Option.some.inj h_job₀
        rw [h_running] at h_inactive₀
        cases h_inactive₀
      rw [List.countP_cons_of_pos h_end, h_zero]
      exact ⟨le_rfl, fun _ => ⟨job', h_job', h_inactive⟩⟩

/-- Each step keeps the jobs accounted for by the log. -/
theorem effect (h : ScansFenced db log) {log' : List WorkspaceEvent}
    (h_effect : WorkspaceEffect db log db' log') : ScansFenced db' log' := by
  cases h_effect with
  | statement => exact h
  | begun i request _ _ h_allowed => exact h.begun h_allowed
  | rolledBack => exact h.rolledBack
  | committed _ _ _ _ _ _ _ _ _ h_post h_begun =>
    exact h.committed (jobsChange_of_post h_post) h_begun

end ScansFenced

/-- The invariant of all runs. -/
theorem scansFenced {s : WorkspaceState} (h : WorkspaceReachable Unscanned s) :
    ScansFenced s.db s.log :=
  workspace_invariant (fun _ h_db => h_db.1) (fun _ => .of_unscanned)
    (fun h_old h_effect => h_old.effect h_effect) h

/-- A step that changes the jobs commits a request. -/
theorem jobsChange_of_step {s s' : WorkspaceState} (h : WorkspaceReachable Unscanned s)
    (h_step : TxnSystem.Step workspaceSystem s s') (h_ne : s'.db.jobs ≠ s.db.jobs) :
    ∃ i request result, s'.log = .committed i request result :: s.log ∧
      JobsChange s.db.jobs s'.db.jobs request result := by
  obtain ⟨db, opened, log⟩ := s
  obtain ⟨db', opened', log'⟩ := s'
  have h_effect : WorkspaceEffect db log db' log' :=
    workspace_effect (fun _ h_db => h_db.1) h h_step
  cases h_effect with
  | committed i request result _ _ _ _ _ _ h_post =>
    exact ⟨i, request, result, rfl, jobsChange_of_post h_post⟩
  | _ => exact absurd rfl h_ne

/-- A job that has ended stays as it is. -/
theorem ended_of_run {s s' : WorkspaceState} (h : WorkspaceReachable Unscanned s)
    (h_run : ReflTransGen (TxnSystem.Step workspaceSystem) s s') {id : Uuid} {job : PrivacyScanJob}
    (h_job : s.db.jobs.find? id = some job) (h_ended : job.state.isActive = false) :
    s'.db.jobs.find? id = some job := by
  induction h_run with
  | refl => exact h_job
  | @tail s₁ s₂ h_before h_last ih =>
    by_cases h_eq : s₂.db.jobs = s₁.db.jobs
    · rw [h_eq]
      exact ih
    · obtain ⟨i, request, result, -, h_change⟩ := jobsChange_of_step (h.run h_before) h_last h_eq
      obtain ⟨job', h_job', -, -, -, h_same⟩ := h_change.find? ih
      rw [h_same h_ended] at h_job'
      exact h_job'

/-- A publication is one of the job that was claimed. -/
theorem claimed_of_publish {s s' : WorkspaceState} (h : WorkspaceReachable Unscanned s)
    (h_step : TxnSystem.Step workspaceSystem s s') {i : ℕ} {workerId : String} {claim : ScanClaim}
    {findings : List ScanFinding} {now : Time} {result : WorkspaceResult}
    (h_log : s'.log = .committed i (.scan (.publish workerId claim findings now)) result :: s.log) :
    JobWasClaimed s.log workerId claim := by
  have h_after := (scansFenced (h.next h_step)).allowed
  rw [h_log] at h_after
  have h_allowed : TxnSystem.LogAllowed WorkspaceRequest.allowed s.log := h_after.of_cons
  obtain ⟨before, h_before, j, snapshot, h_load⟩ := h_allowed.of_mem h_after.1
  exact ScansFenced.claimed_of_load h_allowed
    (h_allowed.begun_of_committed (h_before.mem h_load))

/-- The requests of an APPLY scan that change its findings or the protection of its asset. -/
def ScanRequest.isApply : ScanRequest → Bool
  | create _ selection _ _ => decide (selection.purpose = .apply)
  | publish _ job _ _ => decide (job.purpose = .apply)
  | _ => false

/-- What a publication commits behind its fence. -/
structure Publication (workerId : String) (claim : ScanClaim) (findings : List ScanFinding)
    (now : Time) (db db' : Workspace) (job : PrivacyScanJob) (snapshot : DatasetSnapshot) :
    Prop where
  found : db.jobs.find? claim.scanId = some job
  owner : job.state = .running ∧ job.leaseOwner = some workerId ∧
    job.leaseGeneration = claim.leaseGeneration
  unexpired : job.isFenced workerId claim.leaseGeneration now
  ofSnapshot : db.snapshots.find? job.snapshotId = some snapshot
  completed : db'.jobs.find? claim.scanId = some job.complete
  applied : job.purpose = .apply →
    (∃ decisions, db'.findings.rows = db.findings.rows ++
      scanFindingRows claim decisions findings) ∧
      db'.protectionVersion snapshot.assetId = db.protectionVersion snapshot.assetId + 1
  previewed : job.purpose = .preview → db'.findings = db.findings ∧
    ∀ assetId, db'.protectionVersion assetId = db.protectionVersion assetId

/-- What a step does to scans and to what they publish. -/
structure ScanStep (s s' : WorkspaceState) : Prop where
  published : ∀ i workerId claim findings now,
    s'.log = .committed i (.scan (.publish workerId claim findings now)) (.scan (.published true))
      :: s.log →
    ∃ job snapshot, Publication workerId claim findings now s.db s'.db job snapshot
  failed : ∀ i workerId claim code now,
    s'.log = .committed i (.scan (.fail workerId claim code now)) (.scan (.failed true)) :: s.log →
    ∃ job, s.db.jobs.find? claim.scanId = some job ∧ job.state = .running ∧
      job.leaseOwner = some workerId ∧ job.leaseGeneration = claim.leaseGeneration ∧
      s'.db.jobs.find? claim.scanId = some (failedJob claim code job)
  /-- A job becomes COMPLETE by its publication only. -/
  completes : ∀ id job job', s.db.jobs.find? id = some job → job.state ≠ .complete →
    s'.db.jobs.find? id = some job' → job'.state = .complete →
    ∃ i workerId claim findings now, claim.scanId = id ∧
      s'.log = .committed i (.scan (.publish workerId claim findings now))
        (.scan (.published true)) :: s.log
  /-- A publication whose lease is lost publishes nothing. -/
  lost : ∀ i workerId claim findings now,
    s'.log = .committed i (.scan (.publish workerId claim findings now)) (.scan (.published false))
      :: s.log →
    s'.db.jobs = s.db.jobs ∧ s'.db.findings = s.db.findings ∧
      ∀ assetId, s'.db.protectionVersion assetId = s.db.protectionVersion assetId
  /-- A PREVIEW scan changes no finding and no version, whatever it does. -/
  preview : ∀ i request result, s'.log = .committed i (.scan request) result :: s.log →
    request.isApply = false → s'.db.findings = s.db.findings ∧
      ∀ assetId, s'.db.protectionVersion assetId = s.db.protectionVersion assetId

section Publication

variable {db db' : Workspace}

/-- What a publication that was accepted has written. -/
theorem publication_of_published {workerId : String} {claim : ScanClaim}
    {findings : List ScanFinding} {now : Time} {job₀ : PrivacyScanJob}
    (h_job₀ : db.jobs.find? claim.scanId = some job₀)
    (h_snapshot₀ : job₀.snapshotId = claim.snapshotId)
    (h_purpose₀ : job₀.purpose = claim.purpose)
    (h : ScanPublished workerId claim findings now db true db') :
    ∃ job snapshot, Publication workerId claim findings now db db' job snapshot := by
  have h_complete : (db.jobs.update claim.scanId PrivacyScanJob.complete
      PrivacyScanJob.complete_scanId).find? claim.scanId = some job₀.complete := by
    rw [Table.find?_update, if_pos rfl, h_job₀]
    rfl
  cases h with
  | preview snapshot job h_snapshot h_job h_fenced h_purpose =>
    rw [h_job₀] at h_job
    obtain rfl := Option.some.inj h_job
    have h_found : db.snapshots.find? job₀.snapshotId = some snapshot := by
      rw [h_snapshot₀]
      exact h_snapshot
    refine ⟨job₀, snapshot, h_job₀, state_of_isFenced h_fenced, h_fenced, h_found, h_complete,
      fun h_apply => ?_, fun _ => ⟨rfl, fun assetId => ?_⟩⟩
    · rw [h_purpose₀, h_purpose] at h_apply
      cases h_apply
    · exact Workspace.protectionVersion_ensureRevision db snapshot.assetId assetId
  | applied snapshot job decisions db₁ h_snapshot h_job h_fenced h_purpose h_inserted =>
    rw [h_job₀] at h_job
    obtain rfl := Option.some.inj h_job
    have h_found : db.snapshots.find? job₀.snapshotId = some snapshot := by
      rw [h_snapshot₀]
      exact h_snapshot
    refine ⟨job₀, snapshot, h_job₀, state_of_isFenced h_fenced, h_fenced, h_found, h_complete,
      fun _ => ⟨⟨decisions, h_inserted.rows⟩, ?_⟩, fun h_preview => ?_⟩
    · exact (protectionVersion_of_bumped rfl).trans (if_pos rfl)
    · rw [h_purpose₀, h_purpose] at h_preview
      cases h_preview

/-- A request that applies nothing leaves findings and versions alone. -/
theorem kept_of_not_isApply {request : ScanRequest} {result : ScanResult}
    (h : ScanPost request result db db') (h_not : request.isApply = false) :
    db'.findings = db.findings ∧
      ∀ assetId, db'.protectionVersion assetId = db.protectionVersion assetId := by
  refine ⟨?_, fun assetId => ?_⟩
  · cases h with
    | submitted _ _ _ _ _ _ _ h_submitted =>
      cases h_submitted with
      | inProgress => rfl
      | queued => rw [initialized_frame db]
    | claimed _ _ _ _ _ _ _ h_claimed => cases h_claimed <;> rfl
    | extended _ _ _ _ _ _ _ _ h_updated => rw [h_updated.frame]
    | loaded => rfl
    | published _ _ _ _ _ _ _ h_published =>
      cases h_published with
      | applied _ _ _ _ _ _ _ h_apply =>
        rw [ScanRequest.isApply, h_apply] at h_not
        cases h_not
      | _ => rfl
    | failed _ _ _ _ _ _ _ h_updated => rw [h_updated.frame]
  · -- a request that is not of an APPLY scan is no accepted change
    rcases countsChange_of_scanPost h with ⟨h_change, -⟩ | ⟨-, h_same⟩
    · cases h_change with
      | queued => cases h_not
      | published _ _ _ _ _ h_apply =>
        rw [ScanRequest.isApply, h_apply] at h_not
        cases h_not
    · exact h_same

end Publication

/-- What one step can do to a scan, said once for the claims about runs. -/
theorem scanStep {s s' : WorkspaceState} (h : WorkspaceReachable Unscanned s)
    (h_step : TxnSystem.Step workspaceSystem s s') : ScanStep s s' := by
  have h_post : ∀ {i request result}, s'.log =
    .committed i (.scan request) (.scan result) :: s.log → ScanPost request result s.db s'.db := by
    intro i request result h_log
    cases workspace_post (fun _ h_db => h_db.1) h h_step h_log with
    | scan _ _ _ _ h_scan => exact h_scan
  have h_failed : ∀ i workerId claim code now,
      s'.log = .committed i (.scan (.fail workerId claim code now))
        (.scan (.failed true)) :: s.log →
      ∃ job, s.db.jobs.find? claim.scanId = some job ∧ job.state = .running ∧
        job.leaseOwner = some workerId ∧ job.leaseGeneration = claim.leaseGeneration ∧
        s'.db.jobs.find? claim.scanId = some (failedJob claim code job) := by
    intro i workerId claim code now h_log
    have h_scan := h_post h_log
    generalize h_db' : s'.db = db' at h_scan
    cases h_scan with
    | failed _ _ _ _ _ _ _ h_updated =>
      cases h_updated with
      | updated job hf h_job h_fenced =>
        obtain ⟨h_running, h_owner, h_generation⟩ := state_of_isFenced h_fenced
        refine ⟨job, h_job, h_running, h_owner, h_generation, ?_⟩
        show (s.db.jobs.update claim.scanId (failedJob claim code) hf).find? claim.scanId = _
        rw [Table.find?_update, if_pos rfl, h_job]
        rfl
  -- the publication, a failure, and what only an apply scan changes
  refine ⟨?_, h_failed, ?_, ?_, ?_⟩
  · -- the publication is of the claim the scan has loaded
    intro i workerId claim findings now h_log
    obtain ⟨job₀, h_job₀, h_snapshot₀, h_purpose₀, -⟩ :=
      (scansFenced h).claims workerId claim (claimed_of_publish h h_step h_log)
    cases h_post h_log with
    | published _ _ _ _ _ _ _ h_published =>
      exact publication_of_published h_job₀ h_snapshot₀ h_purpose₀ h_published
  · -- a job completes by its publication only
    intro id job job' h_job h_not h_job' h_complete
    have h_inactive : job'.state.isActive = false := by
      rw [h_complete]
      rfl
    obtain ⟨i, request, result, h_log, h_change⟩ := jobsChange_of_step h h_step
      (by
        rintro h_eq
        rw [h_eq, h_job] at h_job'
        exact h_not (Option.some.inj h_job' ▸ h_complete))
    have h_active : job.state.isActive = true := by
      obtain ⟨job₁, h_job₁, -, -, -, h_same⟩ := h_change.find? h_job
      rw [h_job'] at h_job₁
      by_contra h_ended
      rw [← h_same (Bool.eq_false_iff.mpr h_ended), ← Option.some.inj h_job₁] at h_not
      exact h_not h_complete
    have h_end := h_change.ends h_job h_job' h_active h_inactive i
    unfold endsJob at h_end
    split at h_end
    · rename_i _ j workerId claim findings now h_event
      cases h_event
      exact ⟨i, workerId, claim, findings, now, of_decide_eq_true h_end, h_log⟩
    · -- a failure leaves the job failed
      rename_i _ j workerId claim code now h_event
      cases h_event
      rw [Bool.and_eq_true, decide_eq_true_eq, Bool.not_eq_true'] at h_end
      obtain ⟨rfl, h_requeues⟩ := h_end
      obtain ⟨job₁, -, -, -, -, h_job₁⟩ := h_failed i workerId claim code now h_log
      rw [h_job', failedJob, h_requeues] at h_job₁
      rw [Option.some.inj h_job₁] at h_complete
      cases h_complete
    · cases h_end
  · -- a publication without its lease changes nothing
    intro i workerId claim findings now h_log
    have h_scan := h_post h_log
    generalize h_db' : s'.db = db' at h_scan
    cases h_scan with
    | published _ _ _ _ _ _ _ h_published =>
      cases h_published with
      | gone => exact ⟨rfl, rfl, fun _ => rfl⟩
      | lost snapshot =>
        exact ⟨rfl, rfl, fun assetId =>
          Workspace.protectionVersion_ensureRevision s.db snapshot.assetId assetId⟩
  · -- and nothing else does what an apply scan does
    intro i request result h_log h_not
    cases workspace_post (fun _ h_db => h_db.1) h h_step h_log with
    | scan _ _ _ _ h_scan => exact kept_of_not_isApply h_scan h_not

/-- **Scan outcomes.** In every interleaving a snapshot has at most one active job for a purpose;
a job that is COMPLETE or FAILED stays as it is; a job is scanned at most three times and ended at
most once; and each step writes what `ScanStep` says. -/
theorem scan_outcomes {s : WorkspaceState} (h : WorkspaceReachable Unscanned s) :
    (∀ job ∈ s.db.jobs.rows, ∀ job' ∈ s.db.jobs.rows, job.state.isActive → job'.state.isActive →
      job.snapshotId = job'.snapshotId → job.purpose = job'.purpose → job = job') ∧
    (∀ s' id job, ReflTransGen (TxnSystem.Step workspaceSystem) s s' →
      s.db.jobs.find? id = some job → job.state = .complete ∨ job.state = .failed →
      s'.db.jobs.find? id = some job) ∧
    (∀ id, (s.log.filterMap (scanAttempt id)).length ≤ maxScanAttempts) ∧
    (∀ id, s.log.countP (endsJob id) ≤ 1) ∧
    ∀ s', TxnSystem.Step workspaceSystem s s' → ScanStep s s' := by
  have h_fenced := scansFenced h
  refine ⟨?_, ?_, fun id => ?_, fun id => (h_fenced.ended id).1, fun s' h_step => scanStep h h_step⟩
  · intro job h_job job' h_job' h_active h_active' h_snapshot h_purpose
    refine h_fenced.index.eq_of_mem h_job h_job' (k := (job.snapshotId, job.purpose))
      (if_pos h_active) ?_
    rw [h_snapshot, h_purpose]
    exact if_pos h_active'
  · intro s' id job h_run h_job h_state
    refine ended_of_run h h_run h_job ?_
    rcases h_state with h_state | h_state <;> rw [h_state] <;> rfl
  · obtain ⟨h_nodup, h_range⟩ := h_fenced.scans id
    have h_sub : s.log.filterMap (scanAttempt id) ⊆ List.range' 1 maxScanAttempts := by
      intro n h_n
      obtain ⟨h_pos, h_le⟩ := h_range n h_n
      rw [List.mem_range'_1]
      omega
    have h_length := (List.subperm_of_subset h_nodup h_sub).length_le
    rwa [List.length_range'] at h_length

/-- A scan that a worker has claimed. -/
theorem scan_outcomes_claimed : ∃ s : WorkspaceState,
    s.db.jobs.rows.map PrivacyScanJob.state = [.running] ∧
      (∀ id, s.log.countP (endsJob id) ≤ 1) ∧
      ∀ s', TxnSystem.Step workspaceSystem s s' → ScanStep s s' := by
  have h_jobs : (workspaceSystem.serial [(0, .scan (.create (Uuid.repeated 2) .apply
      (Uuid.repeated 3) 0)), (1, .scan (.claim "privacy-scan-worker-1" (Uuid.repeated 3) 1 60))]
        legacyWorkspace []).map (fun x => x.1.jobs.rows.map PrivacyScanJob.state)
      = some [.running] := by
    decide
  obtain ⟨⟨db, log⟩, h_serial, h_eq⟩ := Option.map_eq_some_iff.mp h_jobs
  have h_run := TxnSystem.run_serial (TxnSystem.serialAllowed_of_forall (by simp [workspaceSystem,
    WorkspaceRequest.allowed]) _ _) h_serial
  have h_outcomes := scan_outcomes
    ⟨_, ⟨⟨legacyWorkspace_wellFormed, rfl⟩, fun _ => rfl, rfl⟩, h_run⟩
  exact ⟨_, h_eq, h_outcomes.2.2.2.1, h_outcomes.2.2.2.2⟩

end DqScoring
