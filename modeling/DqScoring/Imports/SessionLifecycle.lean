import DqScoring.Workspace.System

/-!
# The life of an upload session

A session goes from its upload through the queue and the verification to its registration.
`SessionMove` lists what a request can do to a session, and `SessionsChange` what it does
to the table. A worker writes behind the fence of its lease; since only a claim counts the
generation up, the manifest of a verified session is the work of one attempt, that of the
current generation (`session_lifecycle`).
-/

namespace DqScoring

open Framework Relation

/-! ### Events -/

/-- The end of a processing that an event records. -/
def recordedEnd : WorkspaceEvent → Option (String × SessionClaim × SessionEnd)
  | .committed _ (.importing (.process workerId claim _ _)) (.importing (.processed ended true)) =>
    some (workerId, claim, ended)
  | _ => none

/-- The event records the end of a processing of a session in a generation. -/
def recordsEnd (uploadId : Uuid) (generation : ℕ) (e : WorkspaceEvent) : Bool :=
  (recordedEnd e).any fun (_, claim, _) =>
    decide (claim.uploadId = uploadId) && decide (claim.leaseGeneration = generation)

/-! ### Moves -/

/-- What a request that changes a session does to it. -/
inductive SessionMove : ImportRequest → ImportResult → UploadSession → UploadSession → Prop
  | recorded (uploadId upload partBytes now part session) :
      SessionMove (.uploadPart uploadId upload partBytes now) (.part (.ok part)) session
        (session.recordPart part)
  | staged (uploadId parts partBytes storage now session) : session.isOpen →
      SessionMove (.complete uploadId parts partBytes storage now) (.session (.ok session.stage))
        session session.stage
  | configured (uploadId columnNames now session) :
      session.status = .verified ∨ session.status = .rejected →
      SessionMove (.configure uploadId columnNames now)
        (.session (.ok (session.configure columnNames))) session (session.configure columnNames)
  | aborted (uploadId isAborted session) :
      session.status ∈ [.initiated, .uploading, .staged, .verified, .aborted] →
      SessionMove (.abort uploadId isAborted) (.session (.ok session.abort)) session session.abort
  | claimed (workerId uploadId now dbNow leaseSeconds session) : session.isClaimable dbNow →
      SessionMove (.claim workerId uploadId now dbNow leaseSeconds)
        (.claimed (some (session.claim workerId (now + leaseSeconds)).toClaim)) session
        (session.claim workerId (now + leaseSeconds))
  | gaveUp (workerId uploadId now dbNow leaseSeconds reason session) : session.isClaimable dbNow →
      SessionMove (.claim workerId uploadId now dbNow leaseSeconds) (.claimed none) session
        (session.giveUp reason)
  | extended (workerId uploadId generation now dbNow leaseSeconds session) :
      session.isFenced workerId generation dbNow →
      SessionMove (.heartbeat workerId uploadId generation now dbNow leaseSeconds) (.extended true)
        session (session.extend (now + leaseSeconds))
  | processed (workerId claim outcome dbNow pin ended session) :
      session.isFenced workerId claim.leaseGeneration dbNow → session.uploadId = claim.uploadId →
      ended.ComesFrom outcome pin →
      SessionMove (.process workerId claim outcome dbNow) (.processed ended true) session
        (ended.apply claim.format session)
  | registered (uploadId acknowledgedWarnings now ids assetId snapshot session) :
      session.status = .verified →
      SessionMove (.register uploadId acknowledgedWarnings now ids) (.registered (.ok snapshot))
        session (session.register assetId snapshot.snapshotId)

/-- A worker claims staged sessions, or verifying ones whose lease ran out. -/
theorem status_of_claimable {session : UploadSession} {dbNow : Time}
    (h : session.isClaimable dbNow) : session.status = .staged ∨ session.status = .verifying := by
  simp only [UploadSession.isClaimable, Bool.or_eq_true, Bool.and_eq_true, decide_eq_true_eq] at h
  exact h.imp id And.left

/-- Parts go to sessions that are open. -/
theorem status_of_open {session : UploadSession} (h : session.isOpen) :
    session.status = .initiated ∨ session.status = .uploading := by
  simp only [UploadSession.isOpen, Bool.or_eq_true, decide_eq_true_eq] at h
  exact h

/-- What a fence checks: the lease is that of the worker, and the session is being verified. -/
theorem lease_of_fenced {session : UploadSession} {workerId : String} {generation : ℕ}
    {dbNow : Time} (h : session.isFenced workerId generation dbNow) :
    session.status = .verifying ∧ session.leaseOwner = some workerId ∧
      session.leaseGeneration = generation := by
  simp only [UploadSession.isFenced, Bool.and_eq_true, decide_eq_true_eq] at h
  exact ⟨h.2, h.1.1.2, h.1.1.1⟩

/-- A session has a snapshot exactly if it is registered. -/
def HasSnapshotIffRegistered (session : UploadSession) : Prop :=
  session.registeredSnapshotId.isSome ↔ session.status = .registered

/-- What an inspection leaves in the manifest of a session. -/
structure Inspected (format : FileFormat) (inspection : ImportInspection)
    (session : UploadSession) : Prop where
  source : session.manifest.sourceDescriptor = some (inspection.sourceDescriptor format)
  columns : session.manifest.columns = some inspection.columns
  scan : session.manifest.sensitiveScan = some inspection.sensitiveScan

namespace SessionMove

variable {request : ImportRequest} {result : ImportResult} {session session' : UploadSession}

/-- A part is recorded whatever the status is. Any other move of a registered session there is none,
and an aborted one can only be aborted again. -/
theorem cases_terminal (h : SessionMove request result session session') :
    (∃ part, session' = session.recordPart part) ∨
      session.status ≠ .registered ∧ (session.status = .aborted → session' = session.abort) := by
  have h_other : session.status ≠ .registered → session.status ≠ .aborted →
      session.status ≠ .registered ∧ (session.status = .aborted → session' = session.abort) :=
    fun h_registered h_aborted => ⟨h_registered, fun h_eq => absurd h_eq h_aborted⟩
  cases h with
  | recorded _ _ _ _ part => exact .inl ⟨part, rfl⟩
  | staged _ _ _ _ _ _ h_open =>
    rcases status_of_open h_open with h_status | h_status <;>
      exact .inr (h_other (by simp [h_status]) (by simp [h_status]))
  | configured _ _ _ _ h_status =>
    rcases h_status with h_status | h_status <;>
      exact .inr (h_other (by simp [h_status]) (by simp [h_status]))
  | aborted _ _ _ h_status =>
    refine .inr ⟨fun h_registered => ?_, fun _ => rfl⟩
    rw [h_registered] at h_status
    exact absurd h_status (by decide)
  | claimed _ _ _ _ _ _ h_claimable =>
    rcases status_of_claimable h_claimable with h_status | h_status <;>
      exact .inr (h_other (by simp [h_status]) (by simp [h_status]))
  | gaveUp _ _ _ _ _ _ _ h_claimable =>
    rcases status_of_claimable h_claimable with h_status | h_status <;>
      exact .inr (h_other (by simp [h_status]) (by simp [h_status]))
  | extended _ _ _ _ _ _ _ h_fenced =>
    have h_status := (lease_of_fenced h_fenced).1
    exact .inr (h_other (by simp [h_status]) (by simp [h_status]))
  | processed _ _ _ _ _ _ _ h_fenced =>
    have h_status := (lease_of_fenced h_fenced).1
    exact .inr (h_other (by simp [h_status]) (by simp [h_status]))
  | registered _ _ _ _ _ _ _ h_status =>
    exact .inr (h_other (by simp [h_status]) (by simp [h_status]))

/-- Only the first part changes the status. -/
theorem recordPart_status (part : UploadPart) {session : UploadSession}
    (h : session.status ≠ .initiated) : (session.recordPart part).status = session.status :=
  if_neg h

/-- A registered session stays registered, as the snapshot it is. -/
theorem registered_stays (h : SessionMove request result session session')
    (h_status : session.status = .registered) :
    session'.status = .registered ∧
      session'.registeredSnapshotId = session.registeredSnapshotId := by
  rcases h.cases_terminal with ⟨part, rfl⟩ | ⟨h_not, -⟩
  · rw [recordPart_status part (by simp [h_status])]
    exact ⟨h_status, rfl⟩
  · exact absurd h_status h_not

/-- No operation leaves the status ABORTED. -/
theorem aborted_stays (h : SessionMove request result session session')
    (h_status : session.status = .aborted) : session'.status = .aborted := by
  rcases h.cases_terminal with ⟨part, rfl⟩ | ⟨-, h_abort⟩
  · rw [recordPart_status part (by simp [h_status])]
    exact h_status
  · rw [h_abort h_status]
    rfl

/-- Registration sets snapshot and status in one update, and no other operation touches
either. -/
theorem hasSnapshotIffRegistered (h : SessionMove request result session session')
    (h_iff : HasSnapshotIffRegistered session) : HasSnapshotIffRegistered session' := by
  -- a move to another status has none, as before
  have h_none : session.status ≠ .registered → session'.status ≠ .registered →
      session'.registeredSnapshotId = session.registeredSnapshotId →
      HasSnapshotIffRegistered session' := by
    intro h_before h_after h_eq
    rw [HasSnapshotIffRegistered, h_eq]
    exact ⟨fun h_some => absurd (h_iff.mp h_some) h_before, fun h_registered =>
      absurd h_registered h_after⟩
  by_cases h_status : session.status = .registered
  · obtain ⟨h_status', h_eq⟩ := h.registered_stays h_status
    rw [HasSnapshotIffRegistered, h_eq, h_status']
    exact ⟨fun _ => rfl, fun _ => h_iff.mpr h_status⟩
  · cases h with
    | recorded _ _ _ _ part =>
      refine h_none h_status ?_ rfl
      show (if session.status = .initiated then SessionStatus.uploading else session.status) ≠ _
      split
      · decide
      · exact h_status
    | processed _ claim _ _ _ ended =>
      cases ended <;> exact h_none h_status (fun h_eq => by cases h_eq) rfl
    | extended => exact h_none h_status h_status rfl
    | registered => exact ⟨fun _ => rfl, fun _ => rfl⟩
    | _ => exact h_none h_status (fun h_eq => by cases h_eq) rfl

/-- The generation stays and no session starts being verified, or a claim counts it up. -/
theorem generation (h : SessionMove request result session session') :
    session'.leaseGeneration = session.leaseGeneration ∧
        (session'.status = .verifying → session.status = .verifying) ∨
      session'.leaseGeneration = session.leaseGeneration + 1 ∧
        ∃ workerId uploadId now dbNow leaseSeconds,
          request = .claim workerId uploadId now dbNow leaseSeconds ∧
            result = .claimed (some session'.toClaim) := by
  cases h with
  | recorded _ _ _ _ part =>
    refine .inl ⟨rfl, fun h_verifying => ?_⟩
    by_cases h_initiated : session.status = .initiated
    · rw [UploadSession.recordPart, h_initiated] at h_verifying
      cases h_verifying
    · rwa [recordPart_status part h_initiated] at h_verifying
  | claimed workerId uploadId now dbNow leaseSeconds =>
    exact .inr ⟨rfl, workerId, uploadId, now, dbNow, leaseSeconds, rfl, rfl⟩
  | extended => exact .inl ⟨rfl, id⟩
  | processed _ _ _ _ _ ended => cases ended <;> exact .inl ⟨rfl, fun h_eq => by cases h_eq⟩
  | _ => exact .inl ⟨rfl, fun h_eq => by cases h_eq⟩

/-- A session leaves VERIFYING by the processing of the holder of its lease, or as one that a claim
gives up. -/
theorem leaves_verifying (h : SessionMove request result session session')
    (h_before : session.status = .verifying) (h_after : session'.status ≠ .verifying) :
    (∃ workerId claim outcome dbNow ended, request = .process workerId claim outcome dbNow ∧
      result = .processed ended true ∧ claim.uploadId = session.uploadId ∧
      session.leaseOwner = some workerId ∧ session.leaseGeneration = claim.leaseGeneration) ∨
    result = .claimed none ∧ session'.status = .failed := by
  cases h with
  | recorded _ _ _ _ part =>
    rw [recordPart_status part (by simp [h_before])] at h_after
    exact absurd h_before h_after
  | staged _ _ _ _ _ _ h_open =>
    rcases status_of_open h_open with h_status | h_status <;> rw [h_before] at h_status <;>
      cases h_status
  | configured _ _ _ _ h_status =>
    rcases h_status with h_status | h_status <;> rw [h_before] at h_status <;> cases h_status
  | aborted _ _ _ h_status =>
    rw [h_before] at h_status
    exact absurd h_status (by decide)
  | claimed => exact absurd rfl h_after
  | gaveUp => exact .inr ⟨rfl, rfl⟩
  | extended => exact absurd h_before h_after
  | processed workerId claim outcome dbNow _ ended _ h_fenced h_id =>
    obtain ⟨-, h_owner, h_generation⟩ := lease_of_fenced h_fenced
    exact .inl ⟨workerId, claim, outcome, dbNow, ended, rfl, rfl, h_id.symm, h_owner, h_generation⟩
  | registered _ _ _ _ _ _ _ h_status =>
    rw [h_before] at h_status
    cases h_status

/-- A session that is verified was verified before, or is so by the processing of this request. -/
theorem verified (h : SessionMove request result session session')
    (h_status : session'.status = .verified) :
    session.status = .verified ∧ session'.leaseGeneration = session.leaseGeneration ∧
        (∀ format inspection, Inspected format inspection session →
          Inspected format inspection session') ∨
      ∃ workerId claim outcome dbNow inspection pin policyVersion,
        request = .process workerId claim outcome dbNow ∧
        result = .processed (.verified inspection pin policyVersion) true ∧
        outcome = .inspected inspection ∧ claim.uploadId = session'.uploadId ∧
        claim.leaseGeneration = session'.leaseGeneration ∧
        Inspected claim.format inspection session' := by
  cases h with
  | recorded _ _ _ _ part =>
    have h_before : session.status = .verified := by
      by_cases h_initiated : session.status = .initiated
      · rw [UploadSession.recordPart, h_initiated] at h_status
        cases h_status
      · rwa [recordPart_status part h_initiated] at h_status
    exact .inl ⟨h_before, rfl, fun _ _ h_inspected =>
      ⟨h_inspected.source, h_inspected.columns, h_inspected.scan⟩⟩
  | extended _ _ _ _ _ _ _ h_fenced =>
    have h_verifying := (lease_of_fenced h_fenced).1
    rw [show (session.extend _).status = session.status from rfl, h_verifying] at h_status
    cases h_status
  | processed workerId claim outcome dbNow pin ended _ h_fenced h_id h_comes =>
    obtain ⟨-, -, h_generation⟩ := lease_of_fenced h_fenced
    cases ended with
    | verified inspection pin' policyVersion =>
      exact .inr ⟨workerId, claim, outcome, dbNow, inspection, pin', policyVersion, rfl, rfl,
        h_comes.1, h_id.symm, h_generation.symm, rfl, rfl, rfl⟩
    | rejected => cases h_status
    | failed => cases h_status
  | _ => cases h_status

end SessionMove

/-! ### What a request does to the sessions -/

/-- The result hands a session to a worker, or records the end of its processing. -/
def ImportResult.isLease : ImportResult → Bool
  | claimed (some _) => true
  | processed _ true => true
  | _ => false

/-- What a request does to the table of sessions. -/
inductive SessionsChange (sessions sessions' : Table UploadSession.uploadId) :
    ImportRequest → ImportResult → Prop
  | kept (request result) : sessions' = sessions → result.isLease = false →
      SessionsChange sessions sessions' request result
  | created (session : UploadSession) (request result) :
      sessions.insert session = some sessions' →
      session.status = .staged ∨ session.status = .initiated → session.leaseGeneration = 0 →
      session.registeredSnapshotId = none → result.isLease = false →
      SessionsChange sessions sessions' request result
  | moved (session f request result) (hf : KeepsUploadId f) :
      sessions.find? session.uploadId = some session →
      SessionMove request result session (f session) →
      sessions' = sessions.update session.uploadId f hf →
      SessionsChange sessions sessions' request result
  | migrated (m now ids assetId snapshot) :
      sessions.insert ((m.session now).register assetId snapshot.snapshotId) = some sessions' →
      SessionsChange sessions sessions' (.migrate m now ids) (.registered (.ok snapshot))

section Sessions

variable {db db' : Workspace}

/-- A completion that passes its checks found the session open. -/
theorem isOpen_of_checkComplete {parts : List (ℕ × String)} {partBytes : ℕ}
    {storage : CompletionAnswer} {now : Time} {session : UploadSession}
    (h : checkComplete parts partBytes storage now session = .ok true) : session.isOpen := by
  unfold checkComplete at h
  split at h
  · cases h
  split at h
  · cases h
  split at h
  · cases h
  · rename_i h_open
    simpa using h_open

/-- Configuring is for verified and rejected sessions. -/
theorem status_of_checkConfigure {now : Time} {session : UploadSession}
    (h : checkConfigure now session = .ok true) :
    session.status = .verified ∨ session.status = .rejected := by
  simp only [checkConfigure] at h
  split at h
  · cases h
  split at h
  · cases h
  · rename_i h_not
    by_contra h_other
    rw [not_or] at h_other
    exact h_not ⟨h_other.1, by simp [h_other.2]⟩

/-- Aborting is for sessions that are not registered and not being verified. -/
theorem status_of_checkAbort {isAborted : Bool} {session : UploadSession}
    (h : checkAbort isAborted session = .ok true) :
    session.status ∈ [.initiated, .uploading, .staged, .verified, .aborted] := by
  rw [checkAbort] at h
  split at h
  · cases h
  · rename_i h_status
    exact not_not.mp h_status

/-- Registering is for verified sessions. -/
theorem status_of_checkRegistration {acknowledgedWarnings : List String} {now : Time}
    {session : UploadSession} {source : SourceDescriptor}
    (h : checkRegistration acknowledgedWarnings now session = .ok source) :
    session.status = .verified := by
  rw [checkRegistration] at h
  split at h
  · cases h
  split at h
  · cases h
  · rename_i h_status
    exact not_not.mp h_status

/-- An update of a session that was found. -/
theorem sessionsChange_of_find {request : ImportRequest} {result : ImportResult} {uploadId : Uuid}
    {session : UploadSession} {f : UploadSession → UploadSession} (hf : KeepsUploadId f)
    (h_find : db.sessions.find? uploadId = some session)
    (h_move : SessionMove request result session (f session))
    (h_eq : db'.sessions = db.sessions.update uploadId f hf) :
    SessionsChange db.sessions db'.sessions request result := by
  obtain ⟨-, rfl⟩ := Table.find?_eq_some_iff.mp h_find
  exact .moved session f request result hf h_find h_move h_eq

/-- A registration leaves the sessions, and answers with the snapshot of a registered one, or it
registers a session that was verified. -/
theorem sessions_of_registered {uploadId : Uuid} {acknowledgedWarnings : List String} {now : Time}
    {ids : RegistrationIds} {answer : Except RegistrationError DatasetSnapshot}
    (h : Registered uploadId acknowledgedWarnings now ids db answer db') :
    (db'.sessions = db.sessions ∧ ∀ snapshot, answer = .ok snapshot → ∃ session,
      db.sessions.find? uploadId = some session ∧ session.status = .registered ∧
        session.registeredSnapshotId = some snapshot.snapshotId) ∨
    ∃ session assetId snapshot, answer = .ok snapshot ∧
      db.sessions.find? uploadId = some session ∧ session.status = .verified ∧
      db'.sessions = db.sessions.update uploadId
        (UploadSession.register assetId snapshot.snapshotId)
        (keepsUploadId_register assetId snapshot.snapshotId) := by
  cases h with
  | notFound => exact .inl ⟨rfl, fun _ h_ok => by cases h_ok⟩
  | replayed session snapshot h_find h_status h_registered =>
    refine .inl ⟨rfl, fun snapshot' h_ok => ?_⟩
    obtain rfl := Except.ok.inj h_ok
    exact ⟨session, h_find, h_status, h_registered⟩
  | refused => exact .inl ⟨rfl, fun _ h_ok => by cases h_ok⟩
  | assetRefused => exact .inl ⟨rfl, fun _ h_ok => by cases h_ok⟩
  | resolved session source assetId dbA _ _ h_find h_check h_asset h_added =>
    have h_dbA : dbA.sessions = db.sessions := by
      cases h_asset <;> rfl
    have h_status := status_of_checkRegistration h_check
    have h_id := (Table.find?_eq_some_iff.mp h_find).2
    cases h_added with
    | conflict => exact .inl ⟨h_dbA, fun _ h_ok => by cases h_ok⟩
    | duplicate existing =>
      refine .inr ⟨session, assetId, existing, rfl, h_find, h_status, ?_⟩
      rw [← h_dbA, ← h_id]
      rfl
    | created _ _ h_version =>
      refine .inr ⟨session, assetId, _, rfl, h_find, h_status, ?_⟩
      rw [h_version.eq, ← h_dbA, ← h_id]
      rfl

/-- What each request commits, as one move per session it touches. -/
theorem sessionsChange_of_importPost {request : ImportRequest} {result : ImportResult}
    (h : ImportPost request result db db') :
    SessionsChange db.sessions db'.sessions request result := by
  have h_initialized : db.initialized.sessions = db.sessions := by
    rw [initialized_frame db]
  -- one case per request, each with the move it makes
  cases h with
  | created _ _ _ _ _ _ _ _ _ h_created =>
    cases h_created with
    | answered => exact .kept _ _ h_initialized rfl
    | created session rows _ h_status h_generation h_none h_rows =>
      exact .created session _ _ h_rows h_status h_generation h_none rfl
  | partUploaded uploadId _ _ _ _ _ _ h_uploaded =>
    cases h_uploaded with
    | answered => exact .kept _ _ rfl rfl
    | recorded part =>
      -- an unknown session stays unknown
      cases h_find : db.sessions.find? uploadId with
      | none =>
        exact .kept _ _ (Table.update_of_find?_eq_none (keepsUploadId_recordPart part) h_find)
          rfl
      | some session =>
        exact sessionsChange_of_find (keepsUploadId_recordPart part) h_find
          (.recorded _ _ _ _ part session) rfl
  | completed _ _ _ _ _ _ _ _ h_changed =>
    cases h_changed with
    -- the answer leaves the session as it is
    | unchanged => exact .kept _ _ rfl rfl
    | changed session hf h_find h_check =>
      exact sessionsChange_of_find hf h_find (.staged _ _ _ _ _ session
        (isOpen_of_checkComplete h_check)) rfl
  | configured _ _ _ _ _ _ h_changed =>
    cases h_changed with
    | unchanged => exact .kept _ _ rfl rfl
    | changed session hf h_find h_check =>
      exact sessionsChange_of_find hf h_find (.configured _ _ _ session
        (status_of_checkConfigure h_check)) rfl
  | aborted _ _ _ _ _ h_changed =>
    cases h_changed with
    | unchanged => exact .kept _ _ rfl rfl
    | changed session hf h_find h_check =>
      exact sessionsChange_of_find hf h_find (.aborted _ _ session
        (status_of_checkAbort h_check)) rfl
  | claimed workerId uploadId now dbNow leaseSeconds _ _ _ h_claimed =>
    cases h_claimed with
    -- no candidate
    | nothing => exact .kept _ _ rfl rfl
    | taken session h_find h_claimable =>
      refine sessionsChange_of_find (keepsUploadId_claimedSession workerId now leaseSeconds) h_find
        ?_ rfl
      -- the candidate is given up, or taken
      simp only [claimedSession]
      split
      · exact .gaveUp _ _ _ _ _ _ session h_claimable
      split
      · exact .gaveUp _ _ _ _ _ _ session h_claimable
      · exact .claimed _ _ _ _ _ session h_claimable
  | extended _ uploadId _ _ _ _ _ _ _ h_updated =>
    cases h_updated with
    -- a lost lease updates nothing
    | lost => exact .kept _ _ rfl rfl
    | updated session hf h_find h_fenced =>
      exact sessionsChange_of_find hf h_find (.extended _ _ _ _ _ _ session h_fenced) rfl
  | processed _ claim _ _ ended isRecorded _ _ h_processed =>
    obtain ⟨pin, -, h_comes⟩ := h_processed.comesFrom
    have h_updated := h_processed.fenced
    generalize h_init : db.initialized = db₀ at h_updated
    rw [h_init] at h_initialized
    -- the end of a lost claim writes nothing
    cases h_updated with
    | lost => exact .kept _ _ h_initialized rfl
    | updated session hf h_find h_fenced =>
      rw [h_initialized] at h_find
      refine sessionsChange_of_find hf h_find (.processed _ _ _ _ pin _ session h_fenced
        (Table.find?_eq_some_iff.mp h_find).2 h_comes) ?_
      rw [← h_initialized]
      rfl
  | registered uploadId _ _ _ answer _ _ h_registered =>
    -- a replay answers without touching the session
    rcases sessions_of_registered h_registered with ⟨h_kept, -⟩ | ⟨session, assetId, snapshot, rfl,
      h_find, h_status, h_eq⟩
    · exact .kept _ _ h_kept rfl
    · exact sessionsChange_of_find (keepsUploadId_register assetId snapshot.snapshotId) h_find
        (.registered _ _ _ _ assetId snapshot session h_status) h_eq
  | migrated m now ids snapshot _ _ h_migrated =>
    obtain ⟨rows, h_rows, h_registered⟩ := h_migrated
    rcases sessions_of_registered h_registered with ⟨-, h_answer⟩ | ⟨session, assetId, snapshot',
      h_ok, h_find, h_status, h_eq⟩
    · -- the session that was inserted is verified
      obtain ⟨session, h_find, h_status, -⟩ := h_answer snapshot rfl
      have h_inserted : rows.find? m.uploadId = some (m.session now) :=
        (Table.find?_of_insert h_rows m.uploadId).trans (if_pos rfl)
      rw [show Workspace.sessions { db with sessions := rows } = rows from rfl, h_inserted]
        at h_find
      rw [← Option.some.inj h_find] at h_status
      cases h_status
    · obtain rfl := Except.ok.inj h_ok
      refine .migrated m now ids assetId snapshot ?_
      rw [h_eq]
      exact Table.insert_update (keepsUploadId_register assetId snapshot.snapshotId) h_rows

/-- Only requests on imports change the sessions. -/
theorem sessions_of_post {request : WorkspaceRequest} {result : WorkspaceResult}
    (h : WorkspacePost request result db db') :
    (∃ r a, request = .importing r ∧ result = .importing a ∧
        SessionsChange db.sessions db'.sessions r a) ∨
      (∀ r, request ≠ .importing r) ∧ db'.sessions = db.sessions := by
  cases h with
  | rule _ _ _ _ h_rule =>
    refine .inr ⟨fun r h_eq => (by cases h_eq), ?_⟩
    rw [h_rule.frame]
  | scan _ _ _ _ h_scan =>
    refine .inr ⟨fun r h_eq => (by cases h_eq), ?_⟩
    rw [h_scan.frame]
  | protection _ _ _ _ h_protection =>
    refine .inr ⟨fun r h_eq => (by cases h_eq), ?_⟩
    rw [h_protection.frame]
  | importing r a _ _ h_import => exact .inl ⟨r, a, rfl, rfl, sessionsChange_of_importPost h_import⟩

end Sessions

namespace SessionsChange

variable {sessions sessions' : Table UploadSession.uploadId} {request : ImportRequest}
  {result : ImportResult} {id : Uuid} {session session' : UploadSession}

/-- An insert keeps the rows that are there. -/
private theorem find?_of_insert_old {row : UploadSession}
    (h_insert : sessions.insert row = some sessions') (h_find : sessions.find? id = some session) :
    sessions'.find? id = some session := by
  rw [Table.find?_of_insert h_insert, if_neg]
  · exact h_find
  · rintro rfl
    rw [Table.find?_none_of_insert h_insert] at h_find
    cases h_find

/-- A session that is there stays as it is, or makes a move. -/
theorem find? (h : SessionsChange sessions sessions' request result)
    (h_find : sessions.find? id = some session) :
    ∃ session', sessions'.find? id = some session' ∧
      (session' = session ∨ SessionMove request result session session') := by
  cases h with
  | kept _ _ h_eq =>
    rw [h_eq]
    exact ⟨session, h_find, .inl rfl⟩
  | created row _ _ h_insert => exact ⟨session, find?_of_insert_old h_insert h_find, .inl rfl⟩
  | moved row f _ _ hf h_row h_move h_eq =>
    rw [h_eq, Table.find?_update]
    by_cases h_id : id = row.uploadId
    · subst h_id
      rw [h_row] at h_find
      obtain rfl := Option.some.inj h_find
      rw [if_pos rfl, h_row]
      exact ⟨f row, rfl, .inr h_move⟩
    · rw [if_neg h_id]
      exact ⟨session, h_find, .inl rfl⟩
  | migrated _ _ _ _ _ h_insert =>
    exact ⟨session, find?_of_insert_old h_insert h_find, .inl rfl⟩

/-- A session that was not there is new, or registered from the start. -/
theorem new (h : SessionsChange sessions sessions' request result)
    (h_none : sessions.find? id = none) (h_find : sessions'.find? id = some session') :
    (session'.status = .staged ∨ session'.status = .initiated) ∧
        session'.registeredSnapshotId = none ∨
      session'.status = .registered ∧ session'.registeredSnapshotId.isSome := by
  cases h with
  | kept _ _ h_eq =>
    rw [h_eq, h_none] at h_find
    cases h_find
  | created row _ _ h_insert h_status _ h_registered =>
    rw [Table.find?_of_insert h_insert] at h_find
    split at h_find
    · obtain rfl := Option.some.inj h_find
      exact .inl ⟨h_status, h_registered⟩
    · rw [h_none] at h_find
      cases h_find
  | moved row f _ _ hf h_row _ h_eq =>
    rw [h_eq, Table.find?_update] at h_find
    split at h_find
    · rename_i h_id
      rw [← h_id, h_none] at h_find
      cases h_find
    · rw [h_none] at h_find
      cases h_find
  | migrated _ _ _ _ _ h_insert =>
    rw [Table.find?_of_insert h_insert] at h_find
    split at h_find
    · obtain rfl := Option.some.inj h_find
      exact .inr ⟨rfl, rfl⟩
    · rw [h_none] at h_find
      cases h_find

/-- The end of a processing that is recorded is one of the session being verified. -/
theorem of_end (h : SessionsChange sessions sessions' request result) {i generation : ℕ}
    (h_end : recordsEnd id generation (.committed i (.importing request) (.importing result))) :
    ∃ session session', sessions.find? id = some session ∧ session.status = .verifying ∧
      session.leaseGeneration = generation ∧ sessions'.find? id = some session' ∧
      session'.leaseGeneration = generation ∧ session'.status ≠ .verifying := by
  have h_lease : result.isLease = true := by
    unfold recordsEnd recordedEnd at h_end
    split at h_end
    · rename_i h_event
      cases h_event
      rfl
    · cases h_end
  -- only the end of a processing is recorded
  cases h with
  | kept _ _ _ h_no =>
    rw [h_no] at h_lease
    cases h_lease
  | created _ _ _ _ _ _ _ h_no =>
    rw [h_no] at h_lease
    cases h_lease
  | migrated => cases h_lease
  | moved row f _ _ hf h_row h_move h_eq =>
    generalize h_after : f row = row' at h_move
    -- and it is the end of the claim in the event
    cases h_move with
    | processed workerId claim outcome dbNow pin ended _ h_fenced h_id =>
      obtain ⟨h_status, -, h_generation⟩ := lease_of_fenced h_fenced
      have h_ids : (decide (claim.uploadId = id) && decide (claim.leaseGeneration = generation))
          = true := h_end
      rw [Bool.and_eq_true, decide_eq_true_eq, decide_eq_true_eq] at h_ids
      obtain ⟨rfl, rfl⟩ := h_ids
      rw [← h_id]
      refine ⟨row, f row, h_row, h_status, h_generation, ?_, ?_, ?_⟩
      · rw [h_eq, Table.find?_update, if_pos rfl, h_row]
        rfl
      · rw [h_after]
        cases ended <;> exact h_generation
      · rw [h_after]
        cases ended <;> exact fun h_verifying => by cases h_verifying
    | _ => cases h_end

end SessionsChange

/-! ### The invariant -/

/-- A tenant before its first upload. -/
def NoSessions (db : Workspace) : Prop := db.WellFormed ∧ db.sessions = Table.empty

/-- A session is verified by the processing that a log records for its generation. -/
def VerifiedBy (log : List WorkspaceEvent) (session : UploadSession) : Prop :=
  ∃ i workerId claim inspection pin policyVersion dbNow,
    .committed i (.importing (.process workerId claim (.inspected inspection) dbNow))
      (.importing (.processed (.verified inspection pin policyVersion) true)) ∈ log ∧
    claim.uploadId = session.uploadId ∧ claim.leaseGeneration = session.leaseGeneration ∧
    Inspected claim.format inspection session

/-- What holds of the sessions and of the work that is recorded for them. -/
structure SessionsTracked (db : Workspace) (log : List WorkspaceEvent) : Prop where
  snapshots : ∀ id session, db.sessions.find? id = some session → HasSnapshotIffRegistered session
  verified : ∀ id session, db.sessions.find? id = some session → session.status = .verified →
    VerifiedBy log session
  ended : ∀ id generation, log.countP (recordsEnd id generation) ≤ 1 ∧
    (0 < log.countP (recordsEnd id generation) → ∃ session, db.sessions.find? id = some session ∧
      generation ≤ session.leaseGeneration ∧
      (generation = session.leaseGeneration → session.status ≠ .verifying))

namespace SessionsTracked

variable {db db' : Workspace} {log : List WorkspaceEvent}

/-- Without sessions there is nothing to track. -/
theorem of_noSessions (h : NoSessions db) : SessionsTracked db [] where
  snapshots id session h_find := by
    rw [h.2] at h_find
    cases h_find
  verified id session h_find := by
    rw [h.2] at h_find
    cases h_find
  ended id generation := ⟨Nat.zero_le 1, fun h_pos => absurd h_pos (Nat.lt_irrefl 0)⟩

/-- A verification stays in the log. -/
theorem verifiedBy_of_cons {e : WorkspaceEvent} {session : UploadSession}
    (h : VerifiedBy log session) : VerifiedBy (e :: log) session := by
  obtain ⟨i, workerId, claim, inspection, pin, policyVersion, dbNow, h_mem, h_rest⟩ := h
  exact ⟨i, workerId, claim, inspection, pin, policyVersion, dbNow,
    List.mem_cons_of_mem _ h_mem, h_rest⟩

/-- An event that changes no session. -/
theorem cons (h : SessionsTracked db log) (h_sessions : db'.sessions = db.sessions)
    {e : WorkspaceEvent} (h_end : recordedEnd e = none) : SessionsTracked db' (e :: log) := by
  refine ⟨?_, ?_, fun id generation => ?_⟩
  · rw [h_sessions]
    exact h.snapshots
  · rw [h_sessions]
    exact fun id session h_find h_status =>
      verifiedBy_of_cons (h.verified id session h_find h_status)
  · rw [List.countP_cons_of_neg (by simp [recordsEnd, h_end]), h_sessions]
    exact h.ended id generation

/-- The log keeps accounting for every session while a request commits: one case per move of
a session. -/
theorem changed (h : SessionsTracked db log) {i : ℕ} {request : ImportRequest}
    {result : ImportResult} (h_change : SessionsChange db.sessions db'.sessions request result) :
    SessionsTracked db' (.committed i (.importing request) (.importing result) :: log) := by
  refine ⟨fun id session' h_find' => ?_, fun id session' h_find' h_status => ?_,
    fun id generation => ?_⟩
  · -- a snapshot exactly for a registered session
    cases h_find : db.sessions.find? id with
    | none =>
      -- a new session: fresh, or registered by the migration
      rcases h_change.new h_find h_find' with ⟨h_status, h_none⟩ | ⟨h_status, h_some⟩
      · rw [HasSnapshotIffRegistered, h_none]
        rcases h_status with h_status | h_status <;> simp [h_status]
      · exact ⟨fun _ => h_status, fun _ => h_some⟩
    | some session =>
      -- one of an earlier step, moved or as it was
      obtain ⟨session₁, h_find₁, h_same⟩ := h_change.find? h_find
      rw [h_find'] at h_find₁
      obtain rfl := Option.some.inj h_find₁
      rcases h_same with rfl | h_move
      · exact h.snapshots id _ h_find
      · exact h_move.hasSnapshotIffRegistered (h.snapshots id session h_find)
  · -- a verified session has the processing in the log
    cases h_find : db.sessions.find? id with
    | none =>
      -- nothing is created verified
      rcases h_change.new h_find h_find' with ⟨h_other, -⟩ | ⟨h_other, -⟩
      · rcases h_other with h_other | h_other <;> rw [h_other] at h_status <;> cases h_status
      · rw [h_other] at h_status
        cases h_status
    | some session =>
      -- either it was verified before, or by this very request
      obtain ⟨session₁, h_find₁, h_same⟩ := h_change.find? h_find
      rw [h_find'] at h_find₁
      obtain rfl := Option.some.inj h_find₁
      rcases h_same with rfl | h_move
      · exact verifiedBy_of_cons (h.verified id _ h_find h_status)
      · rcases h_move.verified h_status with ⟨h_before, h_generation, h_manifest⟩ |
          ⟨workerId, claim, outcome, dbNow, inspection, pin, policyVersion, rfl, rfl, rfl, h_id,
            h_generation, h_inspected⟩
        · obtain ⟨j, workerId, claim, inspection, pin, policyVersion, dbNow, h_mem, h_id, h_claim,
            h_inspected⟩ := h.verified id session h_find h_before
          refine ⟨j, workerId, claim, inspection, pin, policyVersion, dbNow,
            List.mem_cons_of_mem _ h_mem, ?_, h_claim.trans h_generation.symm,
            h_manifest _ _ h_inspected⟩
          -- both are the session of the key
          rw [h_id, (Table.find?_eq_some_iff.mp h_find).2, (Table.find?_eq_some_iff.mp h_find').2]
        · exact ⟨i, workerId, claim, inspection, pin, policyVersion, dbNow,
            List.mem_cons_self, h_id, h_generation, h_inspected⟩
  · -- at most one end per generation
    obtain ⟨h_le, h_ended⟩ := h.ended id generation
    cases h_end : recordsEnd id generation
      (.committed i (.importing request) (.importing result)) with
    | false =>
      -- the request ends nothing: the counts stay
      rw [List.countP_cons_of_neg (by simp [h_end])]
      refine ⟨h_le, fun h_pos => ?_⟩
      obtain ⟨session, h_find, h_generation, h_status⟩ := h_ended h_pos
      obtain ⟨session', h_find', rfl | h_move⟩ := h_change.find? h_find
      · exact ⟨_, h_find', h_generation, h_status⟩
      · refine ⟨session', h_find', ?_⟩
        -- a move keeps the generation, or goes on to the next
        rcases h_move.generation with ⟨h_same, h_verifying⟩ | ⟨h_next, -⟩
        · rw [h_same]
          exact ⟨h_generation, fun h_eq h_after => h_status h_eq (h_verifying h_after)⟩
        · rw [h_next]
          exact ⟨Nat.le_succ_of_le h_generation, fun h_eq => by omega⟩
    | true =>
      -- the request ends a verification
      obtain ⟨session, session', h_find, h_verifying, h_generation, h_find', h_generation',
        h_after⟩ :=
        h_change.of_end h_end
      -- no end was recorded for this generation, which is being verified
      have h_zero : log.countP (recordsEnd id generation) = 0 := by
        by_contra h_ne
        obtain ⟨session₀, h_find₀, -, h_not⟩ := h_ended (Nat.pos_of_ne_zero h_ne)
        rw [h_find] at h_find₀
        obtain rfl := Option.some.inj h_find₀
        exact h_not h_generation.symm h_verifying
      rw [List.countP_cons_of_pos h_end, h_zero]
      exact ⟨le_rfl, fun _ => ⟨session', h_find', h_generation'.ge, fun _ => h_after⟩⟩

/-- Scans and reviews leave the sessions alone. -/
theorem effect (h : SessionsTracked db log) {log' : List WorkspaceEvent}
    (h_effect : WorkspaceEffect db log db' log') : SessionsTracked db' log' := by
  cases h_effect with
  | statement => exact h
  | begun => exact h.cons rfl rfl
  | rolledBack => exact h.cons rfl rfl
  | committed i request _ _ _ _ _ _ _ h_post =>
    rcases sessions_of_post h_post with ⟨r, a, rfl, rfl, h_change⟩ | ⟨h_other, h_sessions⟩
    · exact h.changed h_change
    · refine h.cons h_sessions ?_
      cases request with
      | importing r => exact absurd rfl (h_other r)
      | _ => rfl

end SessionsTracked

/-- The invariant of all runs: every session's state is accounted for by the log. -/
theorem sessionsTracked {s : WorkspaceState} (h : WorkspaceReachable NoSessions s) :
    SessionsTracked s.db s.log :=
  workspace_invariant (fun _ h_db => h_db.1) (fun _ => .of_noSessions)
    (fun h_old h_effect => h_old.effect h_effect) h

/-! ### Steps and runs -/

/-- What a step does to a session that is there before and after it. -/
structure SessionStep (uploadId : Uuid) (session session' : UploadSession) (s s' : WorkspaceState) :
    Prop where
  /-- A registered session keeps its snapshot. -/
  registered : session.status = .registered → session'.status = .registered ∧
    session'.registeredSnapshotId = session.registeredSnapshotId
  aborted : session.status = .aborted → session'.status = .aborted
  /-- Only a claim of the session counts its generation up. -/
  generation : session'.leaseGeneration = session.leaseGeneration ∨
    session'.leaseGeneration = session.leaseGeneration + 1 ∧
      ∃ i workerId candidate now dbNow leaseSeconds,
        s'.log = .committed i (.importing (.claim workerId candidate now dbNow leaseSeconds))
          (.importing (.claimed (some session'.toClaim))) :: s.log
  /-- Processing takes a session out of VERIFYING for the holder of its lease only; a claim does so
  if it gives the session up. -/
  leaves : session.status = .verifying → session'.status ≠ .verifying →
    (∃ i workerId claim outcome dbNow ended,
      s'.log = .committed i (.importing (.process workerId claim outcome dbNow))
        (.importing (.processed ended true)) :: s.log ∧ claim.uploadId = uploadId ∧
      session.leaseOwner = some workerId ∧ session.leaseGeneration = claim.leaseGeneration) ∨
    (∃ i request, s'.log = .committed i (.importing request) (.importing (.claimed none)) ::
      s.log) ∧ session'.status = .failed

/-- One step of the workspace moves a session along its lifecycle or leaves it as it is. -/
theorem sessionStep {s s' : WorkspaceState} (h : WorkspaceReachable NoSessions s)
    (h_step : TxnSystem.Step workspaceSystem s s') {id : Uuid} {session : UploadSession}
    (h_find : s.db.sessions.find? id = some session) :
    ∃ session', s'.db.sessions.find? id = some session' ∧ SessionStep id session session' s s' := by
  have h_same : SessionStep id session session s s' :=
    ⟨fun h_status => ⟨h_status, rfl⟩, fun h_status => h_status, .inl rfl,
      fun h_before h_after => absurd h_before h_after⟩
  obtain ⟨db, opened, log⟩ := s
  obtain ⟨db', opened', log'⟩ := s'
  have h_effect : WorkspaceEffect db log db' log' :=
    workspace_effect (fun _ h_db => h_db.1) h h_step
  cases h_effect with
  | committed i request result _ _ _ _ _ _ h_post =>
    rcases sessions_of_post h_post with ⟨r, a, rfl, rfl, h_change⟩ | ⟨-, h_sessions⟩
    · obtain ⟨session', h_find', rfl | h_move⟩ := h_change.find? h_find
      · exact ⟨_, h_find', h_same⟩
      · refine ⟨session', h_find', h_move.registered_stays, h_move.aborted_stays, ?_,
          fun h_before h_after => ?_⟩
        · rcases h_move.generation with ⟨h_eq, -⟩ | ⟨h_next, workerId, candidate, now, dbNow,
            leaseSeconds, rfl, rfl⟩
          · exact .inl h_eq
          · exact .inr ⟨h_next, i, workerId, candidate, now, dbNow, leaseSeconds, rfl⟩
        · rcases h_move.leaves_verifying h_before h_after with ⟨workerId, claim, outcome, dbNow,
            ended, rfl, rfl, h_id, h_owner, h_generation⟩ | ⟨rfl, h_failed⟩
          · refine .inl ⟨i, workerId, claim, outcome, dbNow, ended, rfl, ?_, h_owner, h_generation⟩
            rw [h_id]
            exact (Table.find?_eq_some_iff.mp h_find).2
          · exact .inr ⟨⟨i, r, rfl⟩, h_failed⟩
    · refine ⟨session, ?_, h_same⟩
      show db'.sessions.find? id = some session
      rw [h_sessions]
      exact h_find
  | _ => exact ⟨session, h_find, h_same⟩

/-- What a run does to a session. -/
structure SessionRun (session session' : UploadSession) : Prop where
  registered : session.status = .registered → session'.status = .registered ∧
    session'.registeredSnapshotId = session.registeredSnapshotId
  aborted : session.status = .aborted → session'.status = .aborted
  generation : session.leaseGeneration ≤ session'.leaseGeneration

/-- A run moves a session along its lifecycle; the induction is on the steps. -/
theorem sessionRun {s s' : WorkspaceState} (h : WorkspaceReachable NoSessions s)
    (h_run : ReflTransGen (TxnSystem.Step workspaceSystem) s s') {id : Uuid}
    {session : UploadSession} (h_find : s.db.sessions.find? id = some session) :
    ∃ session', s'.db.sessions.find? id = some session' ∧ SessionRun session session' := by
  induction h_run with
  | refl =>
    exact ⟨session, h_find, fun h_status => ⟨h_status, rfl⟩, fun h_status => h_status, le_rfl⟩
  | @tail s₁ s₂ h_before h_last ih =>
    obtain ⟨session₁, h_find₁, h_so_far⟩ := ih
    obtain ⟨session₂, h_find₂, h_next⟩ := sessionStep (h.run h_before) h_last h_find₁
    refine ⟨session₂, h_find₂, fun h_status => ?_, fun h_status => ?_, ?_⟩
    · obtain ⟨h_status₁, h_eq₁⟩ := h_so_far.registered h_status
      obtain ⟨h_status₂, h_eq₂⟩ := h_next.registered h_status₁
      exact ⟨h_status₂, h_eq₂.trans h_eq₁⟩
    · exact h_next.aborted (h_so_far.aborted h_status)
    · have h_le := h_so_far.generation
      rcases h_next.generation with h_eq | ⟨h_more, -⟩ <;> omega

/-- **Session lifecycle.** In every interleaving a registered session stays registered as the same
snapshot and an aborted one aborted; a session has a snapshot exactly if it is registered; its
generation never goes down; each step does what `SessionStep` says; and a verified session has
the manifest of the one processing that is recorded for its generation. -/
theorem session_lifecycle {s : WorkspaceState} (h : WorkspaceReachable NoSessions s) :
    (∀ s' id session, ReflTransGen (TxnSystem.Step workspaceSystem) s s' →
      s.db.sessions.find? id = some session →
      ∃ session', s'.db.sessions.find? id = some session' ∧ SessionRun session session') ∧
    (∀ session ∈ s.db.sessions.rows,
      session.registeredSnapshotId.isSome ↔ session.status = .registered) ∧
    (∀ s' id session, TxnSystem.Step workspaceSystem s s' →
      s.db.sessions.find? id = some session →
      ∃ session', s'.db.sessions.find? id = some session' ∧
        SessionStep id session session' s s') ∧
    (∀ session ∈ s.db.sessions.rows, session.status = .verified → VerifiedBy s.log session) ∧
    ∀ id generation, s.log.countP (recordsEnd id generation) ≤ 1 := by
  have h_tracked := sessionsTracked h
  refine ⟨fun s' id session h_run h_find => sessionRun h h_run h_find, fun session h_mem => ?_,
    fun s' id session h_step h_find => sessionStep h h_step h_find, fun session h_mem => ?_,
    fun id generation => (h_tracked.ended id generation).1⟩
  · exact h_tracked.snapshots _ session (Table.find?_eq_some_iff.mpr ⟨h_mem, rfl⟩)
  · exact h_tracked.verified _ session (Table.find?_eq_some_iff.mpr ⟨h_mem, rfl⟩)

/-! ### A session that is verified -/

theorem configVersion_complete :
    (⟨"COMPLETE", [], [], none⟩ : SensitiveScan).configVersion = none :=
  rfl

/-- What the inspection of a file with one column finds. -/
def emailInspection : ImportInspection where
  raw := ⟨"raw", "customers.csv", "v1", "5f2b", 16⟩
  canonical := ⟨"canonical", "customers.parquet", "v1", "77aa", 64⟩
  columns := [{ name := "email" }]
  exactRowCount := 1
  warnings := []
  sensitiveScan := { status := "COMPLETE", findings := [], sensitiveColumns := [] }
  scan_unversioned := configVersion_complete

/-- A request for the import of a selected object. -/
def selectedImport : CreateImportRequest where
  clientRequestId := Uuid.repeated 5
  assetId := none
  assetName := some "customers"
  format := .csv
  sizeBytes := 16
  fingerprint := "9c1e"

/-- Its session. -/
def selectedSession : UploadSession :=
  selectedImport.session (Uuid.repeated 4) (Uuid.repeated 6) 0 (.staged, 16, none)

/-- The creation of the session. -/
def createSelected : ℕ × WorkspaceRequest :=
  (0, .importing (.create (Uuid.repeated 4) selectedImport 1024 (.selected 16) (Uuid.repeated 6) 0))

/-- A claim of the session. -/
def claimSelected (i : ℕ) (now : Time) : ℕ × WorkspaceRequest :=
  (i, .importing (.claim "import-worker-1" (Uuid.repeated 6) now now 60))

/-- What a worker that has claimed the session records. -/
def verifySelected : ℕ × WorkspaceRequest :=
  (2, .importing (.process "import-worker-1" (selectedSession.claim "import-worker-1" 61).toClaim
    (.inspected emailInspection) 1))

theorem allowed_verifySelected : workspaceSystem.SerialAllowed
    [createSelected, claimSelected 1 1, verifySelected] emptyWorkspace [] := by
  refine ⟨trivial, fun a db h_create => ⟨trivial, fun a' db' h_claim => ⟨?_, fun _ _ _ => trivial⟩⟩⟩
  -- the claim of the worker is in the log
  obtain ⟨rfl, rfl⟩ := Prod.mk.inj (Option.some.inj h_create)
  obtain ⟨rfl, -⟩ := Prod.mk.inj (Option.some.inj h_claim)
  exact ⟨1, _, _, _, _, List.mem_cons_self⟩

/-- A session is verified by the one processing that is recorded for its generation. -/
theorem session_lifecycle_verified : ∃ (s : WorkspaceState) (session : UploadSession),
    WorkspaceReachable NoSessions s ∧ s.db.sessions.rows = [session] ∧
      session.status = .verified ∧ VerifiedBy s.log session ∧
      ∀ id generation, s.log.countP (recordsEnd id generation) ≤ 1 := by
  have h_sessions : (workspaceSystem.serial [createSelected, claimSelected 1 1, verifySelected]
      emptyWorkspace []).map (fun x => x.1.sessions.rows.map UploadSession.status) =
        some [.verified] := by
    decide
  obtain ⟨⟨db, log⟩, h_serial, h_eq⟩ := Option.map_eq_some_iff.mp h_sessions
  obtain ⟨session, h_rows, h_status⟩ := List.map_eq_singleton_iff.mp h_eq
  have h_reachable : WorkspaceReachable NoSessions ⟨db, fun _ => none, log⟩ :=
    ⟨_, ⟨⟨emptyWorkspace_wellFormed, rfl⟩, fun _ => rfl, rfl⟩,
      TxnSystem.run_serial allowed_verifySelected h_serial⟩
  obtain ⟨-, -, -, h_verified, h_once⟩ := session_lifecycle h_reachable
  exact ⟨_, session, h_reachable, h_rows, h_status,
    h_verified session (h_rows ▸ List.mem_singleton_self session) h_status, h_once⟩

end DqScoring
