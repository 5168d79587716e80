import DqScoring.Imports.RegistrationSteps
import DqScoring.Privacy.ProtectionSteps

/-!
# The system of a workspace

All the transactions of a tenant run in one system: the requests of the routes and of the
command that migrates legacy snapshots, and the transactions of the two workers. A worker
processes only what it has claimed. Everything else may begin at any time.

`meets_workspace` collects what each transaction commits, so that a property of all
interleavings has one case for each request (`WorkspacePost`).
-/

namespace DqScoring

open Framework

/-! ### Imports -/

/-- The requests on upload sessions and the transactions of the import worker. -/
inductive ImportRequest where
  | create (userId : Uuid) (request : CreateImportRequest) (maxBytes : ℕ) (storage : StagingAnswer)
      (uploadId : Uuid) (now : Time)
  | uploadPart (uploadId : Uuid) (upload : PartUpload) (partBytes : ℕ) (now : Time)
  | complete (uploadId : Uuid) (parts : List (ℕ × String)) (partBytes : ℕ)
      (storage : CompletionAnswer) (now : Time)
  | configure (uploadId : Uuid) (columnNames : List String) (now : Time)
  | abort (uploadId : Uuid) (isAborted : Bool)
  | claim (workerId : String) (uploadId : Uuid) (now dbNow leaseSeconds : Time)
  | heartbeat (workerId : String) (uploadId : Uuid) (generation : ℕ) (now dbNow leaseSeconds : Time)
  | process (workerId : String) (claim : SessionClaim) (outcome : ImportOutcome) (dbNow : Time)
  | register (uploadId : Uuid) (acknowledgedWarnings : List String) (now : Time)
      (ids : RegistrationIds)
  | migrate (m : LegacyMigration) (now : Time) (ids : RegistrationIds)

/-- The result of a request. -/
inductive ImportResult where
  | session (answer : Except ImportProblem UploadSession)
  | part (answer : Except ImportProblem UploadPart)
  | claimed (claim : Option SessionClaim)
  | extended (flag : Bool)
  | processed (ended : SessionEnd) (isRecorded : Bool)
  | registered (answer : Except RegistrationError DatasetSnapshot)

/-- The transaction of a request. -/
def ImportRequest.program : ImportRequest → WorkspaceTxn ImportResult
  | create userId request maxBytes storage uploadId now => do
    let answer ← createImportSession userId request maxBytes storage uploadId now
    return .session answer
  | uploadPart uploadId upload partBytes now => do
    let answer ← DqScoring.uploadPart uploadId upload partBytes now
    return .part answer
  | complete uploadId parts partBytes storage now => do
    let answer ← completeImport uploadId parts partBytes storage now
    return .session answer
  | configure uploadId columnNames now => do
    let answer ← configureImportSession uploadId columnNames now
    return .session answer
  | abort uploadId isAborted => do
    let answer ← abortImportSession uploadId isAborted
    return .session answer
  -- the request of a worker for one candidate
  | claim workerId uploadId now dbNow leaseSeconds => do
    let claimed ← claimNextSession workerId uploadId now dbNow leaseSeconds
    return .claimed claimed
  | heartbeat workerId uploadId generation now dbNow leaseSeconds => do
    let flag ← importHeartbeat workerId uploadId generation now dbNow leaseSeconds
    return .extended flag
  | process workerId claimed outcome dbNow => do
    let ended ← processSession workerId claimed outcome dbNow
    return .processed ended.1 ended.2
  | register uploadId acknowledgedWarnings now ids => do
    let answer ← registerSnapshot uploadId acknowledgedWarnings now ids
    return .registered answer
  | migrate m now ids => do
    let snapshot ← migrateSnapshot m now ids
    return .registered (.ok snapshot)

/-- What the commit of a request does. -/
inductive ImportPost : ImportRequest → ImportResult → Workspace → Workspace → Prop
  | created (userId request maxBytes storage uploadId now answer db db') :
      SessionCreated uploadId db answer db' →
      ImportPost (.create userId request maxBytes storage uploadId now) (.session answer) db db'
  | partUploaded (uploadId upload partBytes now answer db db') :
      PartUploaded uploadId db answer db' →
      ImportPost (.uploadPart uploadId upload partBytes now) (.part answer) db db'
  | completed (uploadId parts partBytes storage now answer db db') :
      SessionChanged uploadId (checkComplete parts partBytes storage now) UploadSession.stage db
        answer db' →
      ImportPost (.complete uploadId parts partBytes storage now) (.session answer) db db'
  | configured (uploadId columnNames now answer db db') :
      SessionChanged uploadId (checkConfigure now) (UploadSession.configure columnNames) db
        answer db' →
      ImportPost (.configure uploadId columnNames now) (.session answer) db db'
  | aborted (uploadId isAborted answer db db') :
      SessionChanged uploadId (checkAbort isAborted) UploadSession.abort db answer db' →
      ImportPost (.abort uploadId isAborted) (.session answer) db db'
  | claimed (workerId uploadId now dbNow leaseSeconds claim db db') :
      SessionClaimed workerId uploadId now dbNow leaseSeconds db claim db' →
      ImportPost (.claim workerId uploadId now dbNow leaseSeconds) (.claimed claim) db db'
  | extended (workerId uploadId generation now dbNow leaseSeconds flag db db') :
      FencedSession workerId uploadId generation dbNow
        (UploadSession.extend (now + leaseSeconds)) db flag db' →
      ImportPost (.heartbeat workerId uploadId generation now dbNow leaseSeconds) (.extended flag)
        db db'
  | processed (workerId claim outcome dbNow ended isRecorded db db') :
      SessionProcessed workerId claim outcome dbNow ended isRecorded db db' →
      ImportPost (.process workerId claim outcome dbNow) (.processed ended isRecorded) db db'
  | registered (uploadId acknowledgedWarnings now ids answer db db') :
      Registered uploadId acknowledgedWarnings now ids db answer db' →
      ImportPost (.register uploadId acknowledgedWarnings now ids) (.registered answer) db db'
  | migrated (m now ids snapshot db db') : SnapshotMigrated m now ids snapshot db db' →
      ImportPost (.migrate m now ids) (.registered (.ok snapshot)) db db'

/-- Each import request keeps its contract. -/
theorem meets_import (request : ImportRequest) :
    workspaceDiscipline.Meets request.program (ImportPost request) := by
  cases request with
  | create userId request maxBytes storage uploadId now =>
    exact (meets_createImportSession userId request maxBytes storage uploadId now).andThen
      fun _ _ _ h => .created _ _ _ _ _ _ _ _ _ h
  | uploadPart uploadId upload partBytes now =>
    exact (meets_uploadPart uploadId upload partBytes now).andThen fun _ _ _ h =>
      .partUploaded _ _ _ _ _ _ _ h
  | complete uploadId parts partBytes storage now =>
    exact (meets_changeSession uploadId _ _ _).andThen fun _ _ _ h =>
      .completed _ _ _ _ _ _ _ _ h
  | configure uploadId columnNames now =>
    exact (meets_changeSession uploadId _ _ _).andThen fun _ _ _ h => .configured _ _ _ _ _ _ h
  | abort uploadId isAborted =>
    exact (meets_changeSession uploadId _ _ _).andThen fun _ _ _ h => .aborted _ _ _ _ _ h
  | claim workerId uploadId now dbNow leaseSeconds =>
    exact (meets_claimNextSession workerId uploadId now dbNow leaseSeconds).andThen fun _ _ _ h =>
      .claimed _ _ _ _ _ _ _ _ h
  | heartbeat workerId uploadId generation now dbNow leaseSeconds =>
    exact (meets_updateSessionFenced workerId uploadId generation dbNow _ _).andThen
      fun _ _ _ h => .extended _ _ _ _ _ _ _ _ _ h
  | process workerId claimed outcome dbNow =>
    exact (meets_processSession workerId claimed outcome dbNow).andThen fun _ _ _ h =>
      .processed _ _ _ _ _ _ _ _ h
  | register uploadId acknowledgedWarnings now ids =>
    exact (meets_registerSnapshot uploadId acknowledgedWarnings now ids).andThen fun _ _ _ h =>
      .registered _ _ _ _ _ _ _ h
  | migrate m now ids =>
    exact (meets_migrateSnapshot m now ids).andThen fun _ _ _ h => .migrated _ _ _ _ _ _ h

/-! ### The workspace -/

/-- A transaction of the workspace. -/
inductive WorkspaceRequest where
  | rule (request : RuleRequest)
  | scan (request : ScanRequest)
  | protection (request : ProtectionRequest)
  | importing (request : ImportRequest)

/-- Its result. -/
inductive WorkspaceResult where
  | rule (result : RuleResult)
  | scan (result : ScanResult)
  | protection (result : ProtectionResult)
  | importing (result : ImportResult)

/-- The program of a request. -/
def WorkspaceRequest.program : WorkspaceRequest → WorkspaceTxn WorkspaceResult
  | rule request => do
    let result ← request.program
    return .rule result
  | scan request => do
    let result ← request.program
    return .scan result
  | protection request => do
    let result ← request.program
    return .protection result
  | importing request => do
    let result ← request.program
    return .importing result

/-- An event of a workspace. Transactions are told apart by a number. -/
abbrev WorkspaceEvent := TxnEvent ℕ WorkspaceRequest HttpError WorkspaceResult

/-- A worker has claimed a job. -/
def JobWasClaimed (log : List WorkspaceEvent) (workerId : String) (claim : ScanClaim) : Prop :=
  ∃ i scanId now leaseSeconds, .committed i (.scan (.claim workerId scanId now leaseSeconds))
    (.scan (.claimed (some claim))) ∈ log

/-- A worker has claimed a session. -/
def SessionWasClaimed (log : List WorkspaceEvent) (workerId : String) (claim : SessionClaim) :
    Prop :=
  ∃ i uploadId now dbNow leaseSeconds,
    .committed i (.importing (.claim workerId uploadId now dbNow leaseSeconds))
      (.importing (.claimed (some claim))) ∈ log

/-- The claim of a session that an event hands to a worker. -/
def sessionClaimOf : WorkspaceEvent → Option (String × SessionClaim)
  | .committed _ (.importing (.claim workerId _ _ _ _)) (.importing (.claimed (some claim))) =>
    some (workerId, claim)
  | _ => none

/-- When a request may begin: `process_job` loads the snapshot of a claim once, scans it, and then
publishes or fails; it fails at once where the attempts are exhausted. -/
def WorkspaceRequest.allowed (log : List WorkspaceEvent) : WorkspaceRequest → Prop
  | scan (.load workerId claim) =>
    -- a claim is loaded once, within its attempts
    JobWasClaimed log workerId claim ∧ claim.attemptCount ≤ maxScanAttempts ∧
      ∀ i, .begun i (scan (.load workerId claim)) ∉ log
  | scan (.publish workerId claim _ _) =>
    -- what is published has been loaded before
    ∃ i snapshot, .committed i (scan (.load workerId claim)) (.scan (.loaded (some snapshot))) ∈ log
  | scan (.fail workerId claim _ _) => JobWasClaimed log workerId claim
  -- a processing belongs to a claim that was handed out
  | importing (.process workerId claim _ _) => SessionWasClaimed log workerId claim
  | _ => True

/-- The transactions of a workspace. -/
def workspaceSystem : TxnSystem ℕ WorkspaceRequest Workspace RowLock HttpError WorkspaceResult where
  program := WorkspaceRequest.program
  allowed := WorkspaceRequest.allowed

/-- A state of the workspace and of its open transactions. -/
abbrev WorkspaceState := TxnState ℕ WorkspaceRequest Workspace RowLock HttpError WorkspaceResult

/-- A state that some interleaving reaches. -/
abbrev WorkspaceReachable (initialDb : Workspace → Prop) : WorkspaceState → Prop :=
  Reachable (TxnSystem.Initial initialDb) (TxnSystem.Step workspaceSystem)

/-- What the commit of a request does. -/
inductive WorkspacePost : WorkspaceRequest → WorkspaceResult → Workspace → Workspace → Prop
  | rule (request result db db') : RulePost request result db db' →
      WorkspacePost (.rule request) (.rule result) db db'
  | scan (request result db db') : ScanPost request result db db' →
      WorkspacePost (.scan request) (.scan result) db db'
  | protection (request result db db') : ProtectionPost request db db' →
      WorkspacePost (.protection request) (.protection result) db db'
  | importing (request result db db') : ImportPost request result db db' →
      WorkspacePost (.importing request) (.importing result) db db'

/-- Each request of the workspace keeps its contract. -/
theorem meets_workspace (request : WorkspaceRequest) :
    workspaceDiscipline.Meets (workspaceSystem.program request) (WorkspacePost request) := by
  cases request with
  | rule request => exact (meets_rule request).andThen fun _ _ _ h => .rule _ _ _ _ h
  | scan request => exact (meets_scan request).andThen fun _ _ _ h => .scan _ _ _ _ h
  | protection request =>
    exact (meets_protection request).andThen fun _ _ _ h => .protection _ _ _ _ h
  | importing request => exact (meets_import request).andThen fun _ _ _ h => .importing _ _ _ _ h

/-- The workspace of a new tenant. -/
def emptyWorkspace : Workspace where
  sessions := Table.empty
  assets := Table.empty
  snapshots := Table.empty
  jobs := Table.empty
  findings := Table.empty
  revisions := Table.empty
  classifications := Table.empty
  policies := Table.empty
  configVersion := none
  rules := []

/-- The empty workspace keeps all keys. -/
theorem emptyWorkspace_wellFormed : emptyWorkspace.WellFormed where
  assetOfSnapshot _ h_row := by cases h_row
  rules_length := rfl
  configVersion_pos _ h_v := by cases h_v

/-- A snapshot of a local file, as the import of before object storage left it. -/
def legacySnapshot : DatasetSnapshot where
  snapshotId := Uuid.repeated 2
  assetId := Uuid.repeated 1
  versionNumber := 1
  sourceKind := .localFile
  sourceDescriptor :=
    let file : StoredObject := ⟨"", "customers.csv", "", "5f2b", 16⟩
    ⟨file, .csv, file⟩
  contentSha256 := "5f2b"
  columns := [{ name := "email" }]
  totalRows := 1
  manifest := {}

/-- The workspace of a tenant with that snapshot. -/
def legacyWorkspace : Workspace :=
  { emptyWorkspace with
    assets := ⟨[{ assetId := Uuid.repeated 1, assetName := "customers", slug := "customers"
                  format := .csv, currentSnapshotId := some (Uuid.repeated 2), versionCount := 1 }],
      List.nodup_singleton _⟩
    snapshots := ⟨[legacySnapshot], List.nodup_singleton _⟩ }

/-- The workspace of a migrated snapshot keeps all keys. -/
theorem legacyWorkspace_wellFormed : legacyWorkspace.WellFormed where
  assetOfSnapshot row h_row := by
    obtain rfl := List.mem_singleton.mp h_row
    rfl
  rules_length := rfl
  configVersion_pos _ h_v := by cases h_v

/-! ### What a request leaves alone -/

section Frames

variable {db db' : Workspace}

theorem initialized_frame (db : Workspace) : db.initialized =
    { db with configVersion := db.initialized.configVersion, rules := db.initialized.rules } := by
  rw [Workspace.initialized]
  split <;> rfl

/-- The rule service changes the configuration only. -/
theorem RulePost.frame {request : RuleRequest} {result : RuleResult}
    (h : RulePost request result db db') :
    db' = { db with configVersion := db'.configVersion, rules := db'.rules } := by
  cases h with
  | initialized => exact initialized_frame db
  | created _ _ _ _ _ h_created =>
    obtain ⟨rules, -, rfl⟩ := h_created.2.inserted
    rfl
  | updated _ _ _ _ _ h_updated =>
    obtain ⟨_, -, -, -, h_added⟩ := h_updated
    obtain ⟨rules, -, rfl⟩ := h_added.inserted
    rfl
  | pinned => exact initialized_frame db

/-- A fenced update touches jobs only. -/
theorem FencedUpdate.frame {workerId : String} {scanId : Uuid} {generation : ℕ} {now : Time}
    {f : PrivacyScanJob → PrivacyScanJob} {flag : Bool}
    (h : FencedUpdate workerId scanId generation now f db flag db') :
    db' = { db with jobs := db'.jobs } := by
  cases h <;> rfl

/-- Scans change jobs, findings and protection versions, and may initialise the configuration. -/
theorem ScanPost.frame {request : ScanRequest} {result : ScanResult}
    (h : ScanPost request result db db') :
    db' = { db with
      jobs := db'.jobs, findings := db'.findings, revisions := db'.revisions
      configVersion := db'.configVersion, rules := db'.rules } := by
  cases h with
  | submitted _ _ _ _ _ _ _ h_submitted =>
    cases h_submitted with
    | inProgress => rfl
    | queued => rw [initialized_frame db]
  | claimed _ _ _ _ _ _ _ h_claimed => cases h_claimed <;> rfl
  | extended _ _ _ _ _ _ _ _ h_updated => rw [h_updated.frame]
  | loaded => rfl
  | published _ _ _ _ _ _ _ h_published => cases h_published <;> rfl
  | failed _ _ _ _ _ _ _ h_updated => rw [h_updated.frame]

/-- Requests on the protection change declarations, findings and protection versions. -/
theorem ProtectionPost.frame {request : ProtectionRequest} (h : ProtectionPost request db db') :
    db' = { db with
      findings := db'.findings, revisions := db'.revisions
      classifications := db'.classifications, policies := db'.policies } := by
  cases h with
  | classified _ _ _ _ _ h_updated =>
    obtain ⟨rows, rfl⟩ := h_updated.writes
    rfl
  | policySet _ _ _ _ _ h_updated =>
    obtain ⟨rows, rfl⟩ := h_updated.writes
    rfl
  | reviewed _ _ _ _ _ _ _ _ h_reviewed => rw [h_reviewed.writes]; rfl
  | resolved => rfl
  | policyRead => rfl

/-- A change of a session touches sessions only. -/
theorem SessionChanged.frame {uploadId : Uuid} {check : UploadSession → Except ImportProblem Bool}
    {f : UploadSession → UploadSession} {answer : Except ImportProblem UploadSession}
    (h : SessionChanged uploadId check f db answer db') :
    db' = { db with sessions := db'.sessions } := by
  cases h <;> rfl

/-- A fenced update of a session touches sessions only. -/
theorem FencedSession.frame {workerId : String} {uploadId : Uuid} {generation : ℕ} {dbNow : Time}
    {f : UploadSession → UploadSession} {flag : Bool}
    (h : FencedSession workerId uploadId generation dbNow f db flag db') :
    db' = { db with sessions := db'.sessions } := by
  cases h <;> rfl

/-- A registration changes no revision, declaration or rule. -/
theorem Registered.frame {uploadId : Uuid} {acknowledgedWarnings : List String} {now : Time}
    {ids : RegistrationIds} {answer : Except RegistrationError DatasetSnapshot}
    (h : Registered uploadId acknowledgedWarnings now ids db answer db') :
    db' = { db with
      sessions := db'.sessions, assets := db'.assets, snapshots := db'.snapshots
      jobs := db'.jobs, findings := db'.findings } := by
  cases h with
  | resolved _ _ _ dbA _ _ _ _ h_asset h_added =>
    have h_dbA : dbA = { db with assets := dbA.assets } := by
      cases h_asset <;> rfl
    cases h_added with
    | conflict => rw [h_dbA]
    | duplicate => rw [h_dbA]; rfl
    | created _ _ h_version => rw [h_version.eq, h_dbA]; rfl
  | _ => rfl

/-- Imports change no protection version, and may initialise the configuration. -/
theorem ImportPost.frame {request : ImportRequest} {result : ImportResult}
    (h : ImportPost request result db db') :
    db' = { db with
      sessions := db'.sessions, assets := db'.assets, snapshots := db'.snapshots
      jobs := db'.jobs, findings := db'.findings
      configVersion := db'.configVersion, rules := db'.rules } := by
  cases h with
  | created _ _ _ _ _ _ _ _ _ h_created =>
    cases h_created with
    | answered => rw [initialized_frame db]
    | created => rw [initialized_frame db]
  | partUploaded _ _ _ _ _ _ _ h_uploaded => cases h_uploaded <;> rfl
  | completed _ _ _ _ _ _ _ _ h_changed => rw [h_changed.frame]
  | configured _ _ _ _ _ _ h_changed => rw [h_changed.frame]
  | aborted _ _ _ _ _ h_changed => rw [h_changed.frame]
  | claimed _ _ _ _ _ _ _ _ h_claimed => cases h_claimed <;> rfl
  | extended _ _ _ _ _ _ _ _ _ h_updated => rw [h_updated.frame]
  | processed _ _ _ _ _ _ _ _ h_processed =>
    rw [h_processed.fenced.frame, initialized_frame db]
  | registered _ _ _ _ _ _ _ h_registered => rw [h_registered.frame]
  | migrated _ _ _ _ _ _ h_migrated =>
    obtain ⟨rows, -, h_registered⟩ := h_migrated
    rw [h_registered.frame]

end Frames

/-! ### The rules of the system -/

/-- What a step does to the committed workspace and the log. -/
abbrev WorkspaceEffect : Workspace → List WorkspaceEvent → Workspace → List WorkspaceEvent → Prop :=
  TxnSystem.Effect workspaceDiscipline WorkspacePost WorkspaceRequest.allowed

/-- What one step does to database and log, from any reachable state. -/
theorem workspace_effect {initialDb : Workspace → Prop}
    (h_initial : ∀ db, initialDb db → db.WellFormed) {s s' : WorkspaceState}
    (h : WorkspaceReachable initialDb s) (h_step : TxnSystem.Step workspaceSystem s s') :
    WorkspaceEffect s.db s.log s'.db s'.log :=
  TxnSystem.effect_of_step meets_workspace h_initial h h_step

/-- What a step that commits a request does. -/
theorem workspace_post {initialDb : Workspace → Prop}
    (h_initial : ∀ db, initialDb db → db.WellFormed) {s s' : WorkspaceState}
    (h : WorkspaceReachable initialDb s) (h_step : TxnSystem.Step workspaceSystem s s') {i : ℕ}
    {request : WorkspaceRequest} {result : WorkspaceResult}
    (h_log : s'.log = .committed i request result :: s.log) :
    WorkspacePost request result s.db s'.db := by
  obtain ⟨db, opened, log⟩ := s
  obtain ⟨db', opened', log'⟩ := s'
  obtain rfl : log' = .committed i request result :: log := h_log
  have h_effect : WorkspaceEffect db log db' _ := workspace_effect h_initial h h_step
  cases h_effect with
  | committed _ _ _ _ _ _ _ _ _ h_post => exact h_post

/-- What holds initially and over every effect holds along all runs. -/
theorem workspace_invariant {initialDb : Workspace → Prop}
    {P : Workspace → List WorkspaceEvent → Prop}
    (h_initial : ∀ db, initialDb db → db.WellFormed) (h_holds : ∀ db, initialDb db → P db [])
    (h_effect : ∀ {db log db' log'}, P db log → WorkspaceEffect db log db' log' → P db' log')
    {s : WorkspaceState} (h : WorkspaceReachable initialDb s) : P s.db s.log :=
  TxnSystem.committed_invariant meets_workspace h_initial h_holds h_effect h

end DqScoring
