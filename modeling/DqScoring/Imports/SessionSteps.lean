import DqScoring.Imports.Sessions

/-!
# What each transaction of an upload session commits

Every change of a session holds the lock of its row, so a change that was decided from the
row is a change of that row. The one exception is `record_part`, which decides from a row
it has not locked, and updates the row as it is when the lock is granted.
-/

namespace DqScoring

open Framework

section Steps

variable {held : List RowLock} {db db' : Workspace} {uploadId : Uuid}
  {f : UploadSession → UploadSession}

/-- Whoever holds a session's lock may update it. -/
theorem guarantee_updateSession (h_inv : db.WellFormed) (h_held : .session uploadId ∈ held)
    (hf : KeepsUploadId f) :
    workspaceDiscipline.guarantee held db (db.updateSession uploadId f hf) := by
  refine guarantee_sessions h_inv fun id h_id row h_row => ?_
  rw [Table.find?_update, if_neg]
  · exact h_row
  · rintro rfl
    exact h_id h_held

/-- What a request under the lock of its session commits. -/
inductive SessionChanged (uploadId : Uuid) (check : UploadSession → Except ImportProblem Bool)
    (f : UploadSession → UploadSession) (db : Workspace) :
    Except ImportProblem UploadSession → Workspace → Prop
  | unchanged (answer) : SessionChanged uploadId check f db answer db
  | changed (session) (hf : KeepsUploadId f) : db.sessions.find? uploadId = some session →
      check session = .ok true →
      SessionChanged uploadId check f db (.ok (f session)) (db.updateSession uploadId f hf)

/-- A checked change of a session commits its update, its refusal or nothing. -/
theorem meets_changeSession (uploadId : Uuid) (check : UploadSession → Except ImportProblem Bool)
    (f : UploadSession → UploadSession) (hf : KeepsUploadId f) :
    workspaceDiscipline.Meets (changeSession uploadId check f hf)
      fun answer db db' => SessionChanged uploadId check f db answer db' := by
  intro db h_inv
  simp only [changeSession, Discipline.wp_bind, Discipline.wp_forUpdate, Discipline.wp_select]
  rintro db₁ h₁ db₂ h₂ view ⟨⟩
  have h_inv₂ := h₂.inv (h₁.inv h_inv)
  have h_unchanged : ∀ answer, workspaceDiscipline.commits
      (fun answer db db' => SessionChanged uploadId check f db answer db') answer
        [RowLock.session uploadId] some db₂ := by
    rintro answer db₃ h₃ db' ⟨⟩
    exact ⟨.refl _ (h₃.inv h_inv₂), .unchanged answer⟩
  cases h_find : db₂.sessions.find? uploadId with
  | none => exact h_unchanged _
  | some session =>
    cases h_check : check session with
    | error problem =>
      simp only [h_check]
      exact h_unchanged _
    | ok flag =>
      cases flag with
      | false =>
        simp only [h_check]
        exact h_unchanged _
      | true =>
        simp only [h_check, Discipline.wp_bind, Discipline.wp_exec]
        rintro db₃ h₃ db' ⟨⟩
        -- the row is locked, so it is the one that was checked
        exact ⟨guarantee_updateSession (h₃.inv h_inv₂) List.mem_cons_self hf,
          .changed session hf (rely_session h₃ List.mem_cons_self h_find) h_check⟩

/-! ### Creation -/

/-- What `create_import_session` commits. -/
inductive SessionCreated (uploadId : Uuid) (db : Workspace) :
    Except ImportProblem UploadSession → Workspace → Prop
  | answered (answer) : SessionCreated uploadId db answer db.initialized
  | created (session rows) : session.uploadId = uploadId →
      session.status = .staged ∨ session.status = .initiated → session.leaseGeneration = 0 →
      session.registeredSnapshotId = none → db.sessions.insert session = some rows →
      SessionCreated uploadId db (.ok session) { db.initialized with sessions := rows }

/-- An insert adds one session. -/
theorem insertSession_eq_some {session : UploadSession} (h : db.insertSession session = some db') :
    ∃ rows, db.sessions.insert session = some rows ∧ db' = { db with sessions := rows } := by
  obtain ⟨rows, h_rows, h_checked⟩ := Option.bind_eq_some_iff.mp h
  split at h_checked
  · exact ⟨rows, h_rows, (Option.some.inj h_checked).symm⟩
  · cases h_checked

/-- A new session is open or in the queue. -/
theorem status_of_stagedUpload {sizeBytes maxBytes : ℕ} {storage : StagingAnswer}
    {status : SessionStatus} {size : ℕ} {multipartId : Option String}
    (h : stagedUpload sizeBytes maxBytes storage = .ok (status, size, multipartId)) :
    status = .staged ∨ status = .initiated := by
  cases storage with
  | selected n =>
    rw [stagedUpload] at h
    split at h
    · cases h
    · cases h
      exact .inl rfl
  | multipart id =>
    cases h
    exact .inr rfl
  | _ => cases h

/-- The session of a request, with its status, its size and its upload. -/
def CreateImportRequest.session (req : CreateImportRequest) (userId uploadId : Uuid) (now : Time)
    (staged : SessionStatus × ℕ × Option String) : UploadSession where
  uploadId := uploadId
  createdBy := userId
  clientRequestId := req.clientRequestId
  assetId := req.assetId
  assetName := req.assetName
  format := req.format
  sizeBytes := staged.2.1
  multipartId := staged.2.2
  status := staged.1
  expiresAt := some (now + sessionLifetime)
  manifest := { requestFingerprint := some req.fingerprint }

/-- What `create_import_session` commits, with the session that it inserts. -/
inductive SessionInserted (userId : Uuid) (req : CreateImportRequest) (maxBytes : ℕ)
    (storage : StagingAnswer) (uploadId : Uuid) (now : Time) (db : Workspace) :
    Except ImportProblem UploadSession → Workspace → Prop
  | answered (answer) :
      SessionInserted userId req maxBytes storage uploadId now db answer db.initialized
  | inserted (staged rows) : stagedUpload req.sizeBytes maxBytes storage = .ok staged →
      db.sessions.insert (req.session userId uploadId now staged) = some rows →
      SessionInserted userId req maxBytes storage uploadId now db
        (.ok (req.session userId uploadId now staged)) { db.initialized with sessions := rows }

/-- Creating a session inserts it with its staging answer, or refuses the request. -/
theorem meets_createImportSession_inserted (userId : Uuid) (req : CreateImportRequest)
    (maxBytes : ℕ) (storage : StagingAnswer) (uploadId : Uuid) (now : Time) :
    workspaceDiscipline.Meets
      (createImportSession userId req maxBytes storage uploadId now)
      fun answer db db' =>
        SessionInserted userId req maxBytes storage uploadId now db answer db' := by
  intro db h_inv
  rw [createImportSession, Discipline.wp_bind]
  refine wp_ensureInitialized leavesRules_some fun db₁ held w h₁ _ h_init => ?_
  have h_inv₁ := h₁.inv h_inv
  -- an answer commits the seeding at most
  have h_answer : ∀ answer {db₂}, workspaceDiscipline.rely held db₁ db₂ →
      workspaceDiscipline.commits (fun answer db db' =>
        SessionInserted userId req maxBytes storage uploadId now db answer db')
          answer held w db₂ := by
    intro answer db₂ h₂ db₃ h₃ db' h_db'
    have h_inv₃ := h₃.inv (h₂.inv h_inv₁)
    obtain ⟨h_w, h_seeding⟩ := h_init db₃ (h₂.trans h₃) h_inv₃
    rw [h_w, Option.map_some] at h_db'
    obtain rfl := Option.some.inj h_db'
    exact ⟨guarantee_initialized h_inv₃ h_seeding, .answered answer⟩
  rw [Discipline.wp_bind, Discipline.wp_select]
  intro db₂ h₂ view _
  cases view.sessions.rows.find? fun s =>
      decide (s.createdBy = userId) && decide (s.clientRequestId = req.clientRequestId) with
  | some existing =>
    -- a session of the same key answers, with a conflict for another body
    show workspaceDiscipline.wp (ite _ _ _) _ _ _ _
    split <;> exact h_answer _ h₂
  | none =>
    -- nothing yet: the quota and the size are checked first
    rw [Discipline.wp_bind, Discipline.wp_select]
    intro db₃ h₃ view _
    have h_rely₃ := h₂.trans h₃
    show workspaceDiscipline.wp (ite _ _ (ite _ _ _)) _ _ _ _
    split
    · exact h_answer _ h_rely₃
    split
    · exact h_answer _ h_rely₃
    -- the parts are announced to the store before the row is written
    cases h_staged : stagedUpload req.sizeBytes maxBytes storage with
    | error problem => exact h_answer _ h_rely₃
    | ok staged =>
      -- the row is inserted with the seeding of the workspace
      obtain ⟨status, sizeBytes, multipartId⟩ := staged
      simp only [Discipline.wp_bind, Discipline.wp_exec]
      intro db₄ h₄ db' h_db'
      have h_inv₄ := h₄.inv (h_rely₃.inv h_inv₁)
      obtain ⟨h_w, h_seeding⟩ := h_init db₄ (h_rely₃.trans h₄) h_inv₄
      simp only [h_w, Option.map_some, Option.bind_some] at h_db'
      obtain ⟨rows, h_rows, h_eq⟩ := insertSession_eq_some h_db'
      have h_sessions : db₄.initialized.sessions = db₄.sessions := by
        rw [Workspace.initialized]
        split <;> rfl
      rw [h_sessions] at h_rows
      have h_initialized := guarantee_initialized h_inv₄ h_seeding
      subst h_eq
      refine ⟨h_initialized.trans (guarantee_sessions h_initialized.inv fun id _ row h_row => ?_),
        .inserted _ rows h_staged h_rows⟩
      rw [h_sessions] at h_row
      -- no row of the session was there before
      rw [Table.find?_of_insert h_rows, if_neg]
      · exact h_row
      · rintro rfl
        rw [Table.find?_none_of_insert h_rows] at h_row
        cases h_row

/-- Creating a session inserts one row at most. -/
theorem meets_createImportSession (userId : Uuid) (req : CreateImportRequest) (maxBytes : ℕ)
    (storage : StagingAnswer) (uploadId : Uuid) (now : Time) :
    workspaceDiscipline.Meets
      (createImportSession userId req maxBytes storage uploadId now)
      fun answer db db' => SessionCreated uploadId db answer db' := by
  refine (meets_createImportSession_inserted userId req maxBytes storage uploadId now).mono
    fun answer db db' h_inserted => ?_
  cases h_inserted with
  | answered answer => exact .answered answer
  | inserted staged rows h_staged h_rows =>
    exact .created _ rows rfl (status_of_stagedUpload h_staged) rfl rfl h_rows

/-! ### Parts -/

/-- What `upload_part` commits. -/
inductive PartUploaded (uploadId : Uuid) (db : Workspace) :
    Except ImportProblem UploadPart → Workspace → Prop
  | answered (answer) : PartUploaded uploadId db answer db
  | recorded (part) : PartUploaded uploadId db (.ok part)
      (db.updateSession uploadId (UploadSession.recordPart part) (keepsUploadId_recordPart part))

/-- An upload records its part, or answers from the part that is there. -/
theorem meets_uploadPart (uploadId : Uuid) (upload : PartUpload) (partBytes : ℕ) (now : Time) :
    workspaceDiscipline.Meets (uploadPart uploadId upload partBytes now)
      fun answer db db' => PartUploaded uploadId db answer db' := by
  intro db h_inv
  simp only [uploadPart, Discipline.wp_bind, Discipline.wp_forUpdate, Discipline.wp_select]
  rintro db₁ h₁ db₂ h₂ view ⟨⟩
  have h_inv₂ := h₂.inv (h₁.inv h_inv)
  have h_answer : ∀ answer, workspaceDiscipline.commits
      (fun answer db db' => PartUploaded uploadId db answer db') answer
        [RowLock.part uploadId upload.partNumber] some db₂ := by
    rintro answer db₃ h₃ db' ⟨⟩
    exact ⟨.refl _ (h₃.inv h_inv₂), .answered answer⟩
  cases h_find : db₂.sessions.find? uploadId with
  | none => exact h_answer _
  | some session =>
    cases h_check : checkPart session upload partBytes now with
    | some problem =>
      simp only [h_check]
      exact h_answer _
    | none =>
      simp only [h_check]
      cases session.part upload.partNumber with
      | some existing =>
        show workspaceDiscipline.wp (ite _ _ _) _ _ _ _
        split <;> exact h_answer _
      | none =>
        cases upload.etag with
        | none => exact Discipline.wp_raise _
        | some etag =>
          simp only [recordPart, Discipline.wp_bind, Discipline.wp_forUpdate, Discipline.wp_exec]
          rintro db₃ h₃ db₄ h₄ db₅ h₅ db' ⟨⟩
          have h_inv₅ := h₅.inv (h₄.inv (h₃.inv h_inv₂))
          exact ⟨guarantee_updateSession h_inv₅ List.mem_cons_self (keepsUploadId_recordPart _),
            .recorded _⟩

/-! ### The worker -/

/-- What `claim_next_session` commits: the candidate, given up or claimed. -/
inductive SessionClaimed (workerId : String) (uploadId : Uuid) (now dbNow leaseSeconds : Time)
    (db : Workspace) : Option SessionClaim → Workspace → Prop
  | nothing : SessionClaimed workerId uploadId now dbNow leaseSeconds db none db
  | taken (session) : db.sessions.find? uploadId = some session → session.isClaimable dbNow →
      SessionClaimed workerId uploadId now dbNow leaseSeconds db
        (if (claimedSession workerId now leaseSeconds session).status = .verifying then
          some (claimedSession workerId now leaseSeconds session).toClaim else none)
        (db.updateSession uploadId (claimedSession workerId now leaseSeconds)
          (keepsUploadId_claimedSession workerId now leaseSeconds))

/-- Claiming gives the session to one worker under a new generation. -/
theorem meets_claimNextSession (workerId : String) (uploadId : Uuid)
    (now dbNow leaseSeconds : Time) :
    workspaceDiscipline.Meets (claimNextSession workerId uploadId now dbNow leaseSeconds)
      fun claim db db' => SessionClaimed workerId uploadId now dbNow leaseSeconds db claim db' := by
  intro db h_inv
  simp only [claimNextSession, Discipline.wp_bind, Discipline.wp_forUpdate, Discipline.wp_select]
  rintro db₁ h₁ db₂ h₂ view ⟨⟩
  have h_inv₂ := h₂.inv (h₁.inv h_inv)
  cases h_find : (db₂.sessions.find? uploadId).filter (UploadSession.isClaimable dbNow) with
  | none =>
    rintro db₃ h₃ db' ⟨⟩
    exact ⟨.refl _ (h₃.inv h_inv₂), .nothing⟩
  | some session =>
    obtain ⟨h_session, h_claimable⟩ := Option.filter_eq_some_iff.mp h_find
    simp only [Discipline.wp_bind, Discipline.wp_exec]
    rintro db₃ h₃ db' ⟨⟩
    exact ⟨guarantee_updateSession (h₃.inv h_inv₂) List.mem_cons_self
      (keepsUploadId_claimedSession _ _ _),
      .taken session (rely_session h₃ List.mem_cons_self h_session) h_claimable⟩

/-- What a fenced update of a session commits. -/
inductive FencedSession (workerId : String) (uploadId : Uuid) (generation : ℕ) (dbNow : Time)
    (f : UploadSession → UploadSession) (db : Workspace) : Bool → Workspace → Prop
  | lost : FencedSession workerId uploadId generation dbNow f db false db
  | updated (session) (hf : KeepsUploadId f) : db.sessions.find? uploadId = some session →
      session.isFenced workerId generation dbNow →
      FencedSession workerId uploadId generation dbNow f db true (db.updateSession uploadId f hf)

/-- A fenced update, last in a transaction that has written `w'` before. What `P` says is known
from before. -/
theorem wp_updateSessionFenced {w : Workspace → Option Workspace} (workerId : String)
    (uploadId : Uuid) (generation : ℕ) (dbNow : Time) (h_inv : db.WellFormed)
    (hf : KeepsUploadId f)
    {w' : Workspace → Workspace} {P : Workspace → Prop}
    (h_P : ∀ db₁, workspaceDiscipline.rely held db db₁ → P db₁)
    (h_w : ∀ db₁, workspaceDiscipline.rely held db db₁ → db₁.WellFormed →
      w db₁ = some (w' db₁) ∧ (w' db₁).sessions = db₁.sessions ∧
        workspaceDiscipline.guarantee held db₁ (w' db₁)) :
    workspaceDiscipline.wp (updateSessionFenced workerId uploadId generation dbNow f hf)
      (workspaceDiscipline.commits fun flag db db' =>
        FencedSession workerId uploadId generation dbNow f (w' db) flag db' ∧ P db) held w db := by
  have h_sub : ∀ l ∈ held, l ∈ RowLock.session uploadId :: held :=
    fun l hl => List.mem_cons_of_mem _ hl
  simp only [updateSessionFenced, Discipline.wp_bind, Discipline.wp_forUpdate,
    Discipline.wp_select]
  intro db₁ h₁ db₂ h₂ view h_view
  have h_rely₂ := h₁.trans (h₂.mono h_sub)
  have h_inv₂ := h_rely₂.inv h_inv
  obtain ⟨h_w₂, h_sessions₂, -⟩ := h_w db₂ h_rely₂ h_inv₂
  rw [h_w₂] at h_view
  obtain rfl := Option.some.inj h_view
  -- the guard of the UPDATE is evaluated on the row
  split
  · rename_i h_any
    obtain ⟨session, h_session, h_fenced⟩ := (Option.any_eq_true _ _).mp h_any
    rw [h_sessions₂] at h_session
    simp only [Discipline.wp_bind, Discipline.wp_exec]
    intro db₃ h₃ db' h_db'
    have h_inv₃ := h₃.inv h_inv₂
    have h_rely₃ := h_rely₂.trans (h₃.mono h_sub)
    obtain ⟨h_w₃, h_sessions₃, h_guarantee⟩ := h_w db₃ h_rely₃ h_inv₃
    simp only [h_w₃, Option.bind_some] at h_db'
    obtain rfl := Option.some.inj h_db'
    -- nobody moved the locked row in between
    refine ⟨(h_guarantee.mono h_sub).trans
      (guarantee_updateSession h_guarantee.inv List.mem_cons_self hf),
      .updated session hf ?_ h_fenced, h_P db₃ h_rely₃⟩
    rw [h_sessions₃]
    exact rely_session h₃ List.mem_cons_self h_session
  · -- the row is no longer the worker's
    intro db₃ h₃ db' h_db'
    have h_rely₃ := h_rely₂.trans (h₃.mono h_sub)
    obtain ⟨h_w₃, -, h_guarantee⟩ := h_w db₃ h_rely₃ (h₃.inv h_inv₂)
    rw [h_w₃] at h_db'
    obtain rfl := Option.some.inj h_db'
    exact ⟨h_guarantee.mono h_sub, .lost, h_P db₃ h_rely₃⟩

/-- A fenced update writes only while the generation and the lease are the worker's. -/
theorem meets_updateSessionFenced (workerId : String) (uploadId : Uuid) (generation : ℕ)
    (dbNow : Time) (f : UploadSession → UploadSession) (hf : KeepsUploadId f) :
    workspaceDiscipline.Meets (updateSessionFenced workerId uploadId generation dbNow f hf)
      fun flag db db' => FencedSession workerId uploadId generation dbNow f db flag db' := by
  intro db h_inv
  have h_nothing : ∀ db₁, workspaceDiscipline.rely [] db db₁ → db₁.WellFormed →
      some db₁ = some db₁ ∧ db₁.sessions = db₁.sessions ∧
        workspaceDiscipline.guarantee [] db₁ db₁ :=
    fun db₁ _ h_inv₁ => ⟨rfl, rfl, .refl _ h_inv₁⟩
  have h_fenced := wp_updateSessionFenced workerId uploadId generation dbNow h_inv hf
    (P := fun _ => True) (fun _ _ => trivial) h_nothing
  refine Discipline.wp_mono (fun flag held' w db₁ h_commits db₂ h₂ db' h_db' => ?_) h_fenced
  obtain ⟨h_guarantee, h_update, -⟩ := h_commits db₂ h₂ db' h_db'
  exact ⟨h_guarantee, h_update⟩

theorem readsOnly_declaredProtection (assetId : Option Uuid) :
    (declaredProtection assetId).ReadsOnly := by
  cases assetId with
  | none => trivial
  | some assetId => exact Txn.readsOnly_select _

/-- A session ends verified only with the inspection and the pin that it was processed with. -/
def SessionEnd.ComesFrom (outcome : ImportOutcome) (pin : PinnedPrivacyRules) : SessionEnd → Prop
  | verified inspection pin' _ => outcome = .inspected inspection ∧ pin' = pin
  | rejected _ => True
  | failed _ => True

/-- The codes with which the processing of a session fails it. -/
def SessionEnd.HasCode : SessionEnd → Prop
  | failed errorCode =>
    errorCode = "SNAPSHOT_VERSIONING_REQUIRED" ∨ errorCode = "INTERNAL_WORKER_ERROR"
  | _ => True

/-- The end of a session comes from the outcome of its processing and the rules it pinned.
-/
theorem wp_sessionEnd {K : SessionEnd → List RowLock → (Workspace → Option Workspace) →
      Workspace → Prop} {claim : SessionClaim} {outcome : ImportOutcome} {pin : PinnedPrivacyRules}
    {w : Workspace → Option Workspace}
    (h : ∀ db' ended, workspaceDiscipline.rely held db db' → ended.ComesFrom outcome pin →
      ended.HasCode → K ended held w db') :
    workspaceDiscipline.wp (sessionEnd claim outcome pin) K held w db := by
  have h_stop : ∀ {db' ended}, workspaceDiscipline.rely held db db' →
      ended.ComesFrom outcome pin → ended.HasCode → K ended held w db' :=
    fun h₁ h₂ h₃ => h _ _ h₁ h₂ h₃
  rw [sessionEnd]
  split
  · exact h_stop (.refl _ _) trivial (.inl rfl)
  · rw [Discipline.wp_bind]
    refine Discipline.wp_readsOnly (readsOnly_declaredProtection _) fun version db₁ h₁ => ?_
    cases outcome with
    | versioningRequired => exact h_stop h₁ trivial (.inl rfl)
    | rejected errorCode => exact h_stop h₁ trivial trivial
    | workerError => exact h_stop h₁ trivial (.inr rfl)
    | inspected inspection =>
      show workspaceDiscipline.wp _ _ _ _ _
      rw [Discipline.wp_bind]
      refine Discipline.wp_readsOnly (readsOnly_declaredProtection _) fun version' db₂ h₂ => ?_
      show workspaceDiscipline.wp (ite _ _ _) _ _ _ _
      split
      · exact h_stop (h₁.trans h₂) trivial trivial
      · exact h_stop (h₁.trans h₂) ⟨rfl, rfl⟩ trivial

/-- What `process_session` commits: its end, if the lease is in force. -/
structure SessionProcessed (workerId : String) (claim : SessionClaim) (outcome : ImportOutcome)
    (dbNow : Time) (ended : SessionEnd) (isRecorded : Bool) (db db' : Workspace) : Prop where
  comesFrom : ∃ pin, PinnedAt pin db ∧ ended.ComesFrom outcome pin
  fenced : FencedSession workerId claim.uploadId claim.leaseGeneration dbNow
    (ended.apply claim.format) db.initialized isRecorded db'

/-- Processing ends a session once, with an error code where it rejects. -/
theorem meets_processSession_code (workerId : String) (claim : SessionClaim)
    (outcome : ImportOutcome) (dbNow : Time) :
    workspaceDiscipline.Meets (processSession workerId claim outcome dbNow)
      fun ended db db' =>
        SessionProcessed workerId claim outcome dbNow ended.1 ended.2 db db' ∧
          ended.1.HasCode := by
  intro db h_inv
  simp only [processSession, loadPinnedRules, Discipline.wp_bind]
  refine wp_ensureInitialized leavesRules_some fun db₁ held w h₁ _ h_init => ?_
  have h_inv₁ := h₁.inv h_inv
  refine wp_readPinnedRules h_inv₁ h_init leavesRules_some fun db₂ h₂ => ?_
  have h_init₂ := h_init.mono (fun _ => id) h₂
  have h_inv₂ := h₂.inv h_inv₁
  refine wp_sessionEnd fun db₃ ended h₃ h_comes h_code => ?_
  have h_init₃ := h_init₂.mono (fun _ => id) h₃
  have h_w : ∀ db₄, workspaceDiscipline.rely held db₃ db₄ → db₄.WellFormed →
      w db₄ = some db₄.initialized ∧ db₄.initialized.sessions = db₄.sessions ∧
        workspaceDiscipline.guarantee held db₄ db₄.initialized := by
    intro db₄ h₄ h_inv₄
    obtain ⟨h_w, h_seeding⟩ := h_init₃ db₄ h₄ h_inv₄
    refine ⟨h_w, ?_, guarantee_initialized h_inv₄ h_seeding⟩
    rw [Workspace.initialized]
    split <;> rfl
  -- the pin is that of a version so far, whenever the transaction commits
  have h_fenced := wp_updateSessionFenced workerId claim.uploadId claim.leaseGeneration dbNow
    (h₃.inv h_inv₂) (ended.keepsUploadId_apply claim.format)
    (fun db₄ h₄ => pinnedAt_of_rely h_inv₂ h_init₂ (h₃.trans h₄)) h_w
  refine Discipline.wp_mono (fun flag held' w db₄ h_commits db₅ h₅ db' h_db' => ?_) h_fenced
  obtain ⟨h_guarantee, h_update, h_pinned⟩ := h_commits db₅ h₅ db' h_db'
  exact ⟨h_guarantee, ⟨⟨_, h_pinned, h_comes⟩, h_update⟩, h_code⟩

/-- Processing ends a session once. -/
theorem meets_processSession (workerId : String) (claim : SessionClaim) (outcome : ImportOutcome)
    (dbNow : Time) :
    workspaceDiscipline.Meets (processSession workerId claim outcome dbNow)
      fun ended db db' =>
        SessionProcessed workerId claim outcome dbNow ended.1 ended.2 db db' :=
  (meets_processSession_code workerId claim outcome dbNow).mono fun _ _ _ h => h.1

end Steps

end DqScoring
