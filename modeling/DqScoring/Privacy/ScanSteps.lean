import DqScoring.Privacy.ProtectionSteps
import DqScoring.Privacy.ScanJobs

/-!
# What each transaction of a scan commits

A fenced update commits only what the lease of its worker covers: the row is locked when
the lease is checked. A publication locks the asset, its protection revision and the job,
in this order, so that its findings, the version and the end of the job are one change.
-/

namespace DqScoring

open Framework

section Steps

variable {held : List RowLock} {db db' : Workspace}

/-! ### Changes of jobs and findings -/

/-- An update that keeps what a job is for. -/
structure KeepsJob (f : PrivacyScanJob → PrivacyScanJob) : Prop where
  scanId : ∀ j, (f j).scanId = j.scanId
  keeps : ∀ j, (f j).snapshotId = j.snapshotId ∧ (f j).purpose = j.purpose ∧
    (f j).pinnedRules = j.pinnedRules ∧ (f j).configVersion = j.configVersion ∧
    (f j).createdAt = j.createdAt

/-- Whoever holds a job's lock may update it. -/
theorem guarantee_updateJob {scanId : Uuid} {f : PrivacyScanJob → PrivacyScanJob}
    (h_inv : db.WellFormed) (h_held : .job scanId ∈ held) (hf : KeepsJob f) :
    workspaceDiscipline.guarantee held db (db.updateJob scanId f hf.scanId) := by
  refine guarantee_jobs h_inv ?_ ?_
  · intro id job h_job
    rw [Table.find?_update]
    by_cases h_id : id = scanId
    · subst h_id
      rw [if_pos rfl, h_job]
      exact ⟨f job, rfl, hf.keeps job⟩
    · rw [if_neg h_id]
      exact ⟨job, h_job, rfl, rfl, rfl, rfl, rfl⟩
  · intro id h_id job h_job
    rw [Table.find?_update, if_neg]
    · exact h_job
    · rintro rfl
      exact h_id h_held

/-- An insert succeeds when the id is new and no other job of the snapshot and purpose is
active. -/
theorem insertJob_eq_some_iff {job : PrivacyScanJob} :
    db.insertJob job = some db' ↔ ∃ rows, db.jobs.insert job = some rows ∧
      rows.HasUniqueIndex Workspace.activeJobKey ∧ db' = { db with jobs := rows } := by
  rw [Workspace.insertJob]
  constructor
  · intro h
    obtain ⟨rows, h_rows, h_checked⟩ := Option.bind_eq_some_iff.mp h
    by_cases h_unique : rows.HasUniqueIndex Workspace.activeJobKey
    · rw [if_pos h_unique] at h_checked
      exact ⟨rows, h_rows, h_unique, (Option.some.inj h_checked).symm⟩
    · rw [if_neg h_unique] at h_checked
      cases h_checked
  · rintro ⟨rows, h_rows, h_unique, rfl⟩
    rw [h_rows, Option.bind_eq_bind, Option.bind_some, if_pos h_unique]
    rfl

/-- A new row leaves the rows that are there. -/
theorem find?_of_insert_of_find? {ρ κ : Type} [DecidableEq κ] {key : ρ → κ} {t t' : Table key}
    {r r' : ρ} {k : κ} (h : t.insert r = some t') (h_find : t.find? k = some r') :
    t'.find? k = some r' := by
  rw [Table.find?_of_insert h, if_neg]
  · exact h_find
  · rintro rfl
    rw [Table.find?_none_of_insert h] at h_find
    cases h_find

/-- A new job is nobody's locked row. -/
theorem guarantee_insertJob {job : PrivacyScanJob} {rows : Table PrivacyScanJob.scanId}
    (h_inv : db.WellFormed) (h : db.jobs.insert job = some rows) :
    workspaceDiscipline.guarantee held db { db with jobs := rows } := by
  refine guarantee_jobs h_inv ?_ fun id _ row h_row => find?_of_insert_of_find? h h_row
  exact fun id row h_row => ⟨row, find?_of_insert_of_find? h h_row, rfl, rfl, rfl, rfl, rfl⟩

/-- Inserted findings come after those that are there, and no index is broken. -/
structure FindingsInserted (findings : List SensitiveDataFinding) (db db' : Workspace) : Prop where
  rows : db'.findings.rows = db.findings.rows ++ findings
  stay : ∀ id row, db.findings.find? id = some row → db'.findings.find? id = some row
  index : db.findings.HasUniqueIndex Workspace.scanRuleKey →
    db'.findings.HasUniqueIndex Workspace.scanRuleKey
  eq : db' = { db with findings := db'.findings }

/-- Inserted findings are the new ones beside the old. -/
theorem findingsInserted_of_insertFindings {findings : List SensitiveDataFinding}
    (h : db.insertFindings findings = some db') : FindingsInserted findings db db' := by
  rw [Workspace.insertFindings] at h
  induction findings generalizing db with
  | nil =>
    obtain rfl := Option.some.inj h
    exact ⟨(List.append_nil _).symm, fun _ _ => id, id, rfl⟩
  | cons f findings ih =>
    rw [List.foldlM_cons] at h
    obtain ⟨db₁, h_insert, h_rest⟩ := Option.bind_eq_some_iff.mp h
    obtain ⟨rows, h_rows, h_checked⟩ := Option.bind_eq_some_iff.mp h_insert
    split at h_checked
    · rename_i h_unique
      obtain rfl := Option.some.inj h_checked
      have h_later := ih h_rest
      refine ⟨?_, fun id row h_row => ?_, fun _ => h_later.index h_unique.1, h_later.eq⟩
      · rw [h_later.rows, Table.rows_of_insert h_rows, List.append_assoc, List.singleton_append]
      · exact h_later.stay id row (find?_of_insert_of_find? h_rows h_row)
    · cases h_checked

/-! ### Submission -/

/-- What `create_scan` commits: the revision of the asset, and a new job if none is active. -/
inductive ScanSubmitted (snapshotId : Uuid) (selection : ScanSelection) (scanId : Uuid)
    (now : Time) (db : Workspace) : ScanSubmission → Workspace → Prop
  | inProgress (snapshot job) : db.snapshots.find? snapshotId = some snapshot →
      ScanSubmitted snapshotId selection scanId now db (.inProgress job)
        (db.ensureRevision snapshot.assetId)
  | queued (snapshot pin rows) : db.snapshots.find? snapshotId = some snapshot →
      pin.configVersion ≤ db.currentConfigVersion →
      db.jobs.insert (queuedJob scanId snapshotId selection.purpose pin now) = some rows →
      rows.HasUniqueIndex Workspace.activeJobKey →
      ScanSubmitted snapshotId selection scanId now db
        (.queued (queuedJob scanId snapshotId selection.purpose pin now))
        { db.initialized with
          jobs := rows
          revisions := if selection.purpose = .apply then db.bumped snapshot.assetId
            else (db.ensureRevision snapshot.assetId).revisions }

/-- Reading a scan either finds the row or ends in an error. -/
theorem wp_getScan {K : PrivacyScanJob → List RowLock → (Workspace → Option Workspace) →
      Workspace → Prop} {scanId : Uuid} {writes : Workspace → Option Workspace}
    (h : ∀ db' view job, workspaceDiscipline.rely held db db' → writes db' = some view →
      view.jobs.find? scanId = some job → K job held writes db') :
    workspaceDiscipline.wp (getScan scanId) K held writes db := by
  rw [getScan, Discipline.wp_bind, Discipline.wp_select]
  intro db₁ h₁ view h_view
  cases h_find : view.jobs.find? scanId with
  | none => exact Discipline.wp_raise _
  | some job => exact h db₁ view job h₁ h_view h_find

theorem readsOnly_getScan (scanId : Uuid) : (getScan scanId).ReadsOnly := by
  refine (Txn.readsOnly_select _).bind fun job => ?_
  cases job with
  | none => trivial
  | some job => trivial

/-- The row of the protection revision is not a rule. -/
theorem leavesRules_ensureRevision (assetId : Uuid) :
    LeavesRules fun db => some (db.ensureRevision assetId) := by
  rintro db _ ⟨⟩
  exact ⟨rfl, rfl⟩

/-- A selection changes the rules of a pin, never its version. -/
theorem wp_pinSelection {K : PinnedPrivacyRules → List RowLock →
      (Workspace → Option Workspace) → Workspace → Prop} {selection : ScanSelection}
    {pin : PinnedPrivacyRules} {writes : Workspace → Option Workspace}
    (h : ∀ db' pin', workspaceDiscipline.rely held db db' →
      pin'.configVersion = pin.configVersion → K pin' held writes db') :
    workspaceDiscipline.wp (pinSelection pin selection) K held writes db := by
  cases selection with
  | apply => exact h db pin (.refl _ _) rfl
  | preview ruleId revision =>
    rw [pinSelection, Discipline.wp_bind, Discipline.wp_select]
    intro db₁ h₁ view _
    cases view.rules.find? fun r =>
        decide (r.ruleId = ruleId) && decide (r.revision = revision) with
    | none => exact Discipline.wp_raise _
    | some rule => exact h db₁ _ h₁ rfl

/-- What is inserted and counted for a job when the transaction commits. -/
theorem queueScan_writes {w : Workspace → Option Workspace} {job : PrivacyScanJob}
    {assetId : Uuid} (h_w : w db = some ((db.ensureRevision assetId).initialized))
    (h : (((w db).bind (Workspace.insertJob job)).bind fun v =>
      some (if job.purpose = .apply then v.bumpRevision assetId else v)) = some db') :
    ∃ rows, db.jobs.insert job = some rows ∧ rows.HasUniqueIndex Workspace.activeJobKey ∧
      db' = { db.initialized with
        jobs := rows
        revisions := if job.purpose = .apply then db.bumped assetId
          else (db.ensureRevision assetId).revisions } := by
  have h_fields : (db.ensureRevision assetId).initialized
      = { db.initialized with revisions := (db.ensureRevision assetId).revisions } := by
    rw [Workspace.initialized, Workspace.initialized]
    show (if db.configVersion.isSome then _ else _) = _
    split <;> rfl
  rw [h_w, Option.bind_some, h_fields] at h
  obtain ⟨v, h_insert, h_v⟩ := Option.bind_eq_some_iff.mp h
  obtain ⟨rows, h_rows, h_unique, rfl⟩ := insertJob_eq_some_iff.mp h_insert
  have h_jobs : db.initialized.jobs = db.jobs := by
    rw [Workspace.initialized]
    split <;> rfl
  refine ⟨rows, h_jobs ▸ h_rows, h_unique, ?_⟩
  rw [← Option.some.inj h_v]
  by_cases h_apply : job.purpose = .apply
  · rw [if_pos h_apply, if_pos h_apply]
    rfl
  · rw [if_neg h_apply, if_neg h_apply]

/-- Only scans that apply change the protection revision. -/
theorem wp_whenApply_bumpRevision {K : Unit → List RowLock → (Workspace → Option Workspace) →
      Workspace → Prop} {purpose : ScanPurpose} {assetId : Uuid}
    {writes : Workspace → Option Workspace}
    (h : K () held (fun db => (writes db).bind fun v =>
      some (if purpose = .apply then v.bumpRevision assetId else v)) db) :
    workspaceDiscipline.wp (whenApply purpose (bumpRevision assetId)) K held writes db := by
  rw [whenApply]
  cases purpose with
  | apply =>
    rw [if_pos rfl]
    exact h
  | preview =>
    -- nothing is counted, so nothing more is written
    have h_writes : (fun db => (writes db).bind fun v =>
        some (if ScanPurpose.preview = .apply then v.bumpRevision assetId else v)) = writes := by
      funext db
      cases writes db with
      | none => rfl
      | some v => rfl
    rw [h_writes] at h
    exact h

/-- A new job and the protection version of its locked asset. -/
theorem guarantee_queueScan {job : PrivacyScanJob} {rows : Table PrivacyScanJob.scanId}
    {assetId : Uuid} (h_inv : db.WellFormed) (h_held : .asset assetId ∈ held)
    (h_seeding : db.configVersion = none → .seeding ∈ held)
    (h_insert : db.jobs.insert job = some rows) :
    workspaceDiscipline.guarantee held db { db.initialized with
      jobs := rows
      revisions := if job.purpose = .apply then db.bumped assetId
        else (db.ensureRevision assetId).revisions } := by
  have h_initialized := guarantee_initialized h_inv h_seeding
  have h_fields : db.initialized.jobs = db.jobs ∧ db.initialized.revisions = db.revisions := by
    rw [Workspace.initialized]
    split <;> exact ⟨rfl, rfl⟩
  have h_job : workspaceDiscipline.guarantee held _ _ :=
    guarantee_insertJob h_initialized.inv (h_fields.1.symm ▸ h_insert)
  refine (h_initialized.trans h_job).trans (guarantee_revisions h_job.inv fun id h_id => ?_)
  have h_other : ¬ id = assetId := by
    rintro rfl
    exact h_id h_held
  show Table.find? _ id = db.initialized.revisions.find? id
  rw [h_fields.2]
  split
  · rw [Workspace.find?_bumped, if_neg h_other]
  · rw [Workspace.find?_ensureRevision, if_neg h_other]

/-- Submitting a scan inserts one job for the rules it pins, or changes nothing. -/
theorem meets_createScan (snapshotId : Uuid) (selection : ScanSelection) (scanId : Uuid)
    (now : Time) :
    workspaceDiscipline.Meets (createScan snapshotId selection scanId now)
      fun submission db db' => ScanSubmitted snapshotId selection scanId now db submission db' := by
  intro db h_inv
  rw [createScan, Discipline.wp_bind, Discipline.wp_select]
  rintro db₁ h₁ view ⟨⟩
  -- the snapshot is read first, and its asset locked
  cases h_snapshot : db₁.snapshots.find? snapshotId with
  | none => exact Discipline.wp_raise _
  | some snapshot =>
    simp only [Discipline.wp_bind, Discipline.wp_forUpdate]
    intro db₂ h₂
    refine wp_lockRevision fun db₃ h₃ => ?_
    rw [Discipline.wp_select]
    rintro db₄ h₄ view ⟨⟩
    -- the snapshot stays what it was
    have h_weaker : ∀ l ∈ [RowLock.asset snapshot.assetId],
        l ∈ [RowLock.revision snapshot.assetId, .asset snapshot.assetId] := by simp
    have h_rely₄ : workspaceDiscipline.rely [] db₁ db₄ :=
      h₂.trans ((h₃.trans (h₄.mono h_weaker)).mono fun l hl => by cases hl)
    have h_inv₄ := h_rely₄.inv (h₁.inv h_inv)
    have h_snapshot₄ := h_rely₄.grow.snapshots _ _ h_snapshot
    have h_held : RowLock.asset snapshot.assetId
        ∈ [RowLock.revision snapshot.assetId, .asset snapshot.assetId] := by simp
    show workspaceDiscipline.wp _ _ _ _ _
    -- an active job of the same purpose is answered
    cases (db₄.ensureRevision snapshot.assetId).activeJob snapshotId selection.purpose with
    | some existing =>
      show workspaceDiscipline.wp (ite _ _ _) _ _ _ _
      split
      · exact Discipline.wp_raise _
      rw [Discipline.wp_bind]
      refine Discipline.wp_readsOnly (readsOnly_getScan _) fun job db₅ h₅ => ?_
      rintro db₆ h₆ db' ⟨⟩
      have h_rely₆ := h₅.trans h₆
      exact ⟨guarantee_ensureRevision (h_rely₆.inv h_inv₄) h_held,
        .inProgress snapshot job (h_rely₆.grow.snapshots _ _ h_snapshot₄)⟩
    | none =>
      -- otherwise the configuration is pinned and a job queued
      show workspaceDiscipline.wp _ _ _ _ _
      simp only [Discipline.wp_bind, loadPinnedRules]
      refine wp_ensureInitialized (leavesRules_ensureRevision _) fun db₅ held w h₅ h_sub
        h_init => ?_
      have h_inv₅ := h₅.inv h_inv₄
      refine wp_ensureInitialized_again h_inv₅ h_init fun db₆ h₆ => ?_
      have h_init₆ := h_init.mono (fun _ => id) h₆
      have h_inv₆ := h₆.inv h_inv₅
      refine wp_readPinnedRules h_inv₆ h_init₆ (leavesRules_ensureRevision _) fun db₇ h₇ => ?_
      have h_init₇ := h_init₆.mono (fun _ => id) h₇
      have h_inv₇ := h₇.inv h_inv₆
      refine wp_pinSelection fun db₈ pin h₈ h_pin => ?_
      have h_init₈ := h_init₇.mono (fun _ => id) h₈
      have h_inv₈ := h₈.inv h_inv₇
      have h_rely₈ := ((h₅.trans ((h₆.mono h_sub).trans (h₇.mono h_sub))).trans (h₈.mono h_sub))
      simp only [queueScan, Discipline.wp_bind, Discipline.wp_exec]
      -- an apply scan changes the version of the asset
      refine wp_whenApply_bumpRevision (wp_getScan fun db₉ view job h₉ h_view h_job => ?_)
      -- the row read is the new one
      have h_inv₉ := h₉.inv h_inv₈
      have h_writes : ∀ db₁, workspaceDiscipline.rely held db₈ db₁ → db₁.WellFormed →
          w db₁ = some ((db₁.ensureRevision snapshot.assetId).initialized) :=
        fun db₁ h h_inv => (h_init₈ db₁ h h_inv).1
      obtain ⟨rows₉, h_rows₉, -, rfl⟩ := queueScan_writes (h_writes db₉ h₉ h_inv₉) h_view
      have h_row : rows₉.find? scanId
          = some (queuedJob scanId snapshotId selection.purpose pin now) := by
        rw [Table.find?_of_insert h_rows₉]
        exact if_pos rfl
      obtain rfl := Option.some.inj (h_row.symm.trans h_job)
      -- the writes are applied when the transaction commits
      intro db₁₀ h₁₀ db' h_db'
      have h_inv₁₀ := h₁₀.inv h_inv₉
      have h_rely₁₀ := h₉.trans h₁₀
      obtain ⟨rows, h_rows, h_unique, h_eq⟩ :=
        queueScan_writes (h_writes db₁₀ h_rely₁₀ h_inv₁₀) h_db'
      have h_seeding := (h_init₈ db₁₀ h_rely₁₀ h_inv₁₀).2
      have h_version : pin.configVersion ≤ db₁₀.currentConfigVersion := by
        rw [h_pin]
        exact (pinnedAt_of_rely h_inv₇ h_init₇ (h₈.trans h_rely₁₀)).version
      have h_grow₁₀ := (h_rely₈.trans (h_rely₁₀.mono h_sub)).grow
      rw [h_eq]
      exact ⟨guarantee_queueScan h_inv₁₀ (h_sub _ h_held) h_seeding h_rows,
        .queued snapshot pin rows (h_grow₁₀.snapshots _ _ h_snapshot₄) h_version h_rows h_unique⟩

/-! ### The worker -/

theorem keepsJob_claim (workerId : String) (expiresAt : Time) :
    KeepsJob (PrivacyScanJob.claim workerId expiresAt) :=
  ⟨fun _ => rfl, fun _ => ⟨rfl, rfl, rfl, rfl, rfl⟩⟩

theorem keepsJob_extend (expiresAt : Time) : KeepsJob (PrivacyScanJob.extend expiresAt) :=
  ⟨fun _ => rfl, fun _ => ⟨rfl, rfl, rfl, rfl, rfl⟩⟩

theorem keepsJob_complete : KeepsJob PrivacyScanJob.complete :=
  ⟨fun _ => rfl, fun _ => ⟨rfl, rfl, rfl, rfl, rfl⟩⟩

theorem keepsJob_requeue : KeepsJob PrivacyScanJob.requeue :=
  ⟨fun _ => rfl, fun _ => ⟨rfl, rfl, rfl, rfl, rfl⟩⟩

theorem keepsJob_fail (code : ScanErrorCode) : KeepsJob (PrivacyScanJob.fail code) :=
  ⟨fun _ => rfl, fun _ => ⟨rfl, rfl, rfl, rfl, rfl⟩⟩

/-- What `claim_next_job` commits: the lease of a candidate, or nothing. -/
inductive JobClaimed (workerId : String) (scanId : Uuid) (now leaseSeconds : Time)
    (db : Workspace) : Option ScanClaim → Workspace → Prop
  | nothing : JobClaimed workerId scanId now leaseSeconds db none db
  | claimed (job) : db.jobs.find? scanId = some job → job.isClaimable now →
      JobClaimed workerId scanId now leaseSeconds db
        (some (job.claim workerId (now + leaseSeconds)).toClaim)
        (db.updateJob scanId (PrivacyScanJob.claim workerId (now + leaseSeconds))
          (PrivacyScanJob.claim_scanId workerId (now + leaseSeconds)))

/-- Claiming gives the job to one worker under a new generation. -/
theorem meets_claimNextJob (workerId : String) (scanId : Uuid) (now leaseSeconds : Time) :
    workspaceDiscipline.Meets (claimNextJob workerId scanId now leaseSeconds)
      fun claim db db' => JobClaimed workerId scanId now leaseSeconds db claim db' := by
  intro db h_inv
  simp only [claimNextJob, Discipline.wp_bind, Discipline.wp_forUpdate, Discipline.wp_select]
  rintro db₁ h₁ db₂ h₂ view ⟨⟩
  have h_inv₂ := h₂.inv (h₁.inv h_inv)
  cases h_find : (db₂.jobs.find? scanId).filter (PrivacyScanJob.isClaimable now) with
  | none =>
    rintro db₃ h₃ db' ⟨⟩
    exact ⟨.refl _ (h₃.inv h_inv₂), .nothing⟩
  | some job =>
    obtain ⟨h_job, h_claimable⟩ := Option.filter_eq_some_iff.mp h_find
    simp only [Discipline.wp_bind, Discipline.wp_exec]
    rintro db₃ h₃ db' ⟨⟩
    -- the row is locked, so it is the candidate still
    exact ⟨guarantee_updateJob (h₃.inv h_inv₂) List.mem_cons_self (keepsJob_claim _ _),
      .claimed job (rely_job h₃ List.mem_cons_self h_job) h_claimable⟩

/-- What a fenced update commits: the update of a job whose lease is in force, or nothing. -/
inductive FencedUpdate (workerId : String) (scanId : Uuid) (generation : ℕ) (now : Time)
    (f : PrivacyScanJob → PrivacyScanJob) (db : Workspace) : Bool → Workspace → Prop
  | lost : FencedUpdate workerId scanId generation now f db false db
  | updated (job) (hf : ∀ j, (f j).scanId = j.scanId) : db.jobs.find? scanId = some job →
      job.isFenced workerId generation now →
      FencedUpdate workerId scanId generation now f db true (db.updateJob scanId f hf)

/-- A fenced update writes only while the generation and the lease are the worker's. -/
theorem meets_updateFenced (workerId : String) (scanId : Uuid) (generation : ℕ) (now : Time)
    {f : PrivacyScanJob → PrivacyScanJob} (hf : KeepsJob f) :
    workspaceDiscipline.Meets (updateFenced workerId scanId generation now f hf.scanId)
      fun flag db db' => FencedUpdate workerId scanId generation now f db flag db' := by
  intro db h_inv
  simp only [updateFenced, Discipline.wp_bind, Discipline.wp_forUpdate, Discipline.wp_select]
  rintro db₁ h₁ db₂ h₂ view ⟨⟩
  have h_inv₂ := h₂.inv (h₁.inv h_inv)
  split
  · rename_i h_any
    obtain ⟨job, h_job, h_fenced⟩ := (Option.any_eq_true _ _).mp h_any
    simp only [Discipline.wp_bind, Discipline.wp_exec]
    rintro db₃ h₃ db' ⟨⟩
    exact ⟨guarantee_updateJob (h₃.inv h_inv₂) List.mem_cons_self hf,
      .updated job hf.scanId (rely_job h₃ List.mem_cons_self h_job) h_fenced⟩
  · rintro db₃ h₃ db' ⟨⟩
    exact ⟨.refl _ (h₃.inv h_inv₂), .lost⟩

/-- What `_publish` commits. -/
inductive ScanPublished (workerId : String) (claim : ScanClaim) (findings : List ScanFinding)
    (now : Time) (db : Workspace) : Bool → Workspace → Prop
  /-- The snapshot is gone. -/
  | gone : ScanPublished workerId claim findings now db false db
  /-- The lease is lost; the version 0 of an asset without one is kept. -/
  | lost (snapshot) : db.snapshots.find? claim.snapshotId = some snapshot →
      ScanPublished workerId claim findings now db false (db.ensureRevision snapshot.assetId)
  | preview (snapshot job) : db.snapshots.find? claim.snapshotId = some snapshot →
      db.jobs.find? claim.scanId = some job →
      job.isFenced workerId claim.leaseGeneration now → claim.purpose = .preview →
      ScanPublished workerId claim findings now db true
        ((db.ensureRevision snapshot.assetId).updateJob claim.scanId PrivacyScanJob.complete
          PrivacyScanJob.complete_scanId)
  | applied (snapshot job decisions db₁) : db.snapshots.find? claim.snapshotId = some snapshot →
      db.jobs.find? claim.scanId = some job →
      job.isFenced workerId claim.leaseGeneration now → claim.purpose = .apply →
      FindingsInserted (scanFindingRows claim decisions findings) db db₁ →
      ScanPublished workerId claim findings now db true
        { db.updateJob claim.scanId PrivacyScanJob.complete PrivacyScanJob.complete_scanId with
          findings := db₁.findings, revisions := db.bumped snapshot.assetId }

/-- What a transaction knows once it has locked a job behind its fence. -/
theorem wp_lockFenced {K : Option Uuid → List RowLock → (Workspace → Option Workspace) →
      Workspace → Prop} {workerId : String} {claim : ScanClaim} {now : Time}
    (h_gone : ∀ db', workspaceDiscipline.rely held db db' → K none held some db')
    (h : ∀ db' snapshot assetId, workspaceDiscipline.rely held db db' →
      db'.snapshots.find? claim.snapshotId = some snapshot →
      (assetId = none ∨ ∃ job, assetId = some snapshot.assetId ∧
        db'.jobs.find? claim.scanId = some job ∧
        job.isFenced workerId claim.leaseGeneration now) →
      K assetId (.job claim.scanId :: .revision snapshot.assetId :: .asset snapshot.assetId :: held)
        (fun db => some (db.ensureRevision snapshot.assetId)) db') :
    workspaceDiscipline.wp (lockFenced workerId claim now) K held some db := by
  rw [lockFenced, Discipline.wp_bind, Discipline.wp_select]
  rintro db₁ h₁ view ⟨⟩
  cases h_snapshot : db₁.snapshots.find? claim.snapshotId with
  | none => exact h_gone db₁ h₁
  | some snapshot =>
    simp only [Discipline.wp_bind, Discipline.wp_forUpdate]
    intro db₂ h₂
    refine wp_lockRevision fun db₃ h₃ db₄ h₄ => ?_
    rw [Discipline.wp_select]
    rintro db₅ h₅ view ⟨⟩
    have h_rely : workspaceDiscipline.rely held db₁ db₅ :=
      h₂.trans ((h₃.mono fun l hl => List.mem_cons_of_mem _ hl).trans
        ((h₄.mono fun l hl => List.mem_cons_of_mem _ (List.mem_cons_of_mem _ hl)).trans
          (h₅.mono fun l hl =>
            List.mem_cons_of_mem _ (List.mem_cons_of_mem _ (List.mem_cons_of_mem _ hl)))))
    have h_snapshot₅ := h_rely.grow.snapshots _ _ h_snapshot
    show workspaceDiscipline.wp (ite _ _ _) _ _ _ _
    split
    · rename_i h_any
      obtain ⟨job, h_job, h_fenced⟩ := (Option.any_eq_true _ _).mp h_any
      exact h db₅ snapshot _ (h₁.trans h_rely) h_snapshot₅ (.inr ⟨job, rfl, h_job, h_fenced⟩)
    · exact h db₅ snapshot none (h₁.trans h_rely) h_snapshot₅ (.inl rfl)

theorem readsOnly_previousDecisions (claim : ScanClaim) : (previousDecisions claim).ReadsOnly := by
  refine (Txn.readsOnly_select _).bind fun previous => ?_
  cases previous with
  | none => trivial
  | some previous => exact Txn.readsOnly_select _

/-- Publishing completes the job and inserts its findings in one commit, while the worker
owns it. -/
theorem meets_publish (workerId : String) (claim : ScanClaim) (findings : List ScanFinding)
    (now : Time) :
    workspaceDiscipline.Meets (publish workerId claim findings now)
      fun flag db db' => ScanPublished workerId claim findings now db flag db' := by
  intro db h_inv
  rw [publish, Discipline.wp_bind]
  -- the claim must still hold the lease
  refine wp_lockFenced (fun db₁ h₁ => ?_) fun db₁ snapshot assetId h₁ h_snapshot h_asset => ?_
  · rintro db₂ h₂ db' ⟨⟩
    exact ⟨.refl _ (h₂.inv (h₁.inv h_inv)), .gone⟩
  have h_held : RowLock.asset snapshot.assetId
      ∈ [RowLock.job claim.scanId, .revision snapshot.assetId, .asset snapshot.assetId] := by simp
  -- the lease is lost: nothing but the row of the version
  rcases h_asset with rfl | ⟨job, rfl, h_job, h_fenced⟩
  · rintro db₂ h₂ db' ⟨⟩
    exact ⟨guarantee_ensureRevision (h₂.inv (h₁.inv h_inv)) h_held,
      .lost snapshot (h₂.grow.snapshots _ _ h_snapshot)⟩
  show workspaceDiscipline.wp _ _ _ _ _
  rw [Discipline.wp_bind, whenApply]
  have h_preview : claim.purpose ≠ .apply → claim.purpose = .preview := by
    intro h_ne
    cases h : claim.purpose with
    | apply => exact absurd h h_ne
    | preview => rfl
  split
  · rename_i h_apply
    simp only [writeFindings, Discipline.wp_bind, Discipline.wp_exec, bumpRevision]
    refine Discipline.wp_readsOnly (readsOnly_previousDecisions claim) fun decisions db₂ h₂ => ?_
    intro db₃ h₃ db' h_db'
    have h_rely₃ := h₂.trans h₃
    have h_inv₃ := h_rely₃.inv (h₁.inv h_inv)
    -- the writes: findings, version, job
    obtain ⟨v, h_v, h_rest⟩ := Option.bind_eq_some_iff.mp h_db'
    obtain ⟨v', h_insert, h_v'⟩ := Option.bind_eq_some_iff.mp h_v
    have h_inserted := findingsInserted_of_insertFindings h_insert
    obtain rfl := Option.some.inj h_rest
    obtain rfl := Option.some.inj h_v'
    have h_inserted₃ : FindingsInserted (scanFindingRows claim decisions findings) db₃
        { db₃ with findings := v'.findings } :=
      ⟨h_inserted.rows, h_inserted.stay, h_inserted.index, rfl⟩
    have h_revision : workspaceDiscipline.guarantee [RowLock.job claim.scanId,
        .revision snapshot.assetId, .asset snapshot.assetId] db₃ _ := guarantee_bumped h_inv₃ h_held
    have h_both := h_revision.trans (guarantee_findings h_revision.inv
      (fun id row h_row => ⟨row, h_inserted.stay id row h_row, rfl⟩)
      fun id _ row h_row => h_inserted.stay id row h_row)
    have h_all := h_both.trans (guarantee_updateJob h_both.inv List.mem_cons_self keepsJob_complete)
    have h_eq : ((v'.bumpRevision snapshot.assetId).updateJob claim.scanId PrivacyScanJob.complete
        PrivacyScanJob.complete_scanId)
          = { db₃.updateJob claim.scanId PrivacyScanJob.complete PrivacyScanJob.complete_scanId with
              findings := v'.findings, revisions := db₃.bumped snapshot.assetId } := by
      rw [h_inserted.eq]
      rfl
    rw [h_eq]
    exact ⟨h_all, .applied snapshot job decisions { db₃ with findings := v'.findings }
      (h_rely₃.grow.snapshots _ _ h_snapshot) (rely_job h_rely₃ List.mem_cons_self h_job) h_fenced
      h_apply h_inserted₃⟩
  · -- a preview completes its job only
    rename_i h_apply
    show workspaceDiscipline.wp _ _ _ _ _
    simp only [Discipline.wp_bind, Discipline.wp_exec]
    rintro db₃ h₃ db' ⟨⟩
    have h_revision : workspaceDiscipline.guarantee [RowLock.job claim.scanId,
        .revision snapshot.assetId, .asset snapshot.assetId] db₃ _ :=
      guarantee_ensureRevision (h₃.inv (h₁.inv h_inv)) h_held
    exact ⟨h_revision.trans (guarantee_updateJob h_revision.inv List.mem_cons_self
      keepsJob_complete), .preview snapshot job (h₃.grow.snapshots _ _ h_snapshot)
        (rely_job h₃ List.mem_cons_self h_job) h_fenced (h_preview h_apply)⟩

/-- What the failure of a scan does to its job. -/
def failedJob (claim : ScanClaim) (code : ScanErrorCode) : PrivacyScanJob → PrivacyScanJob :=
  if requeues claim code then PrivacyScanJob.requeue else PrivacyScanJob.fail code

/-- Reporting a failure requeues the job or ends it, while the worker owns it. -/
theorem meets_failScan (workerId : String) (claim : ScanClaim) (code : ScanErrorCode)
    (now : Time) :
    workspaceDiscipline.Meets (failScan workerId claim code now)
      fun flag db db' => FencedUpdate workerId claim.scanId claim.leaseGeneration now
        (failedJob claim code) db flag db' := by
  rw [failScan, failedJob]
  split
  · exact meets_updateFenced workerId claim.scanId claim.leaseGeneration now keepsJob_requeue
  · exact meets_updateFenced workerId claim.scanId claim.leaseGeneration now (keepsJob_fail code)

end Steps

/-! ### Requests -/

/-- The requests on scans, with the clock and the row a claim takes. -/
inductive ScanRequest where
  | create (snapshotId : Uuid) (selection : ScanSelection) (scanId : Uuid) (now : Time)
  | claim (workerId : String) (scanId : Uuid) (now leaseSeconds : Time)
  | heartbeat (workerId : String) (scanId : Uuid) (generation : ℕ) (now leaseSeconds : Time)
  | load (workerId : String) (claim : ScanClaim)
  | publish (workerId : String) (claim : ScanClaim) (findings : List ScanFinding) (now : Time)
  | fail (workerId : String) (claim : ScanClaim) (code : ScanErrorCode) (now : Time)

/-- The result of a request. -/
inductive ScanResult where
  | submitted (submission : ScanSubmission)
  | claimed (claim : Option ScanClaim)
  | extended (flag : Bool)
  | loaded (snapshot : Option DatasetSnapshot)
  | published (flag : Bool)
  | failed (flag : Bool)

/-- The transaction of a request. -/
def ScanRequest.program : ScanRequest → WorkspaceTxn ScanResult
  | create snapshotId selection scanId now => do
    let submission ← createScan snapshotId selection scanId now
    return .submitted submission
  | claim workerId scanId now leaseSeconds => do
    let claim ← claimNextJob workerId scanId now leaseSeconds
    return .claimed claim
  | heartbeat workerId scanId generation now leaseSeconds => do
    let flag ← scanHeartbeat workerId scanId generation now leaseSeconds
    return .extended flag
  | load _ job => do
    let snapshot ← loadSnapshot job
    return .loaded snapshot
  | publish workerId job findings now => do
    let flag ← DqScoring.publish workerId job findings now
    return .published flag
  | fail workerId job code now => do
    let flag ← failScan workerId job code now
    return .failed flag

/-- What the commit of a request does. -/
inductive ScanPost : ScanRequest → ScanResult → Workspace → Workspace → Prop
  | submitted (snapshotId selection scanId now submission db db') :
      ScanSubmitted snapshotId selection scanId now db submission db' →
      ScanPost (.create snapshotId selection scanId now) (.submitted submission) db db'
  | claimed (workerId scanId now leaseSeconds claim db db') :
      JobClaimed workerId scanId now leaseSeconds db claim db' →
      ScanPost (.claim workerId scanId now leaseSeconds) (.claimed claim) db db'
  | extended (workerId scanId generation now leaseSeconds flag db db') :
      FencedUpdate workerId scanId generation now (PrivacyScanJob.extend (now + leaseSeconds)) db
        flag db' →
      ScanPost (.heartbeat workerId scanId generation now leaseSeconds) (.extended flag) db db'
  | loaded (workerId claim snapshot db) :
      ScanPost (.load workerId claim) (.loaded snapshot) db db
  | published (workerId claim findings now flag db db') :
      ScanPublished workerId claim findings now db flag db' →
      ScanPost (.publish workerId claim findings now) (.published flag) db db'
  | failed (workerId claim code now flag db db') :
      FencedUpdate workerId claim.scanId claim.leaseGeneration now (failedJob claim code) db
        flag db' →
      ScanPost (.fail workerId claim code now) (.failed flag) db db'

/-- Each request of the scan service keeps its contract. -/
theorem meets_scan (request : ScanRequest) :
    workspaceDiscipline.Meets request.program (ScanPost request) := by
  cases request with
  | create snapshotId selection scanId now =>
    exact (meets_createScan snapshotId selection scanId now).andThen fun _ _ _ h =>
      .submitted _ _ _ _ _ _ _ h
  | claim workerId scanId now leaseSeconds =>
    exact (meets_claimNextJob workerId scanId now leaseSeconds).andThen fun _ _ _ h =>
      .claimed _ _ _ _ _ _ _ h
  | heartbeat workerId scanId generation now leaseSeconds =>
    exact (meets_updateFenced workerId scanId generation now (keepsJob_extend _)).andThen
      fun _ _ _ h => .extended _ _ _ _ _ _ _ _ h
  | load workerId claim =>
    refine (meets_readsOnly (Txn.readsOnly_select _)).andThen fun _ _ _ h => ?_
    subst h
    exact .loaded _ _ _ _
  | publish workerId claim findings now =>
    exact (meets_publish workerId claim findings now).andThen fun _ _ _ h =>
      .published _ _ _ _ _ _ _ h
  | fail workerId claim code now =>
    exact (meets_failScan workerId claim code now).andThen fun _ _ _ h =>
      .failed _ _ _ _ _ _ _ h

end DqScoring
