import DqScoring.Privacy.RuleService

/-!
# Upload sessions

The requests of `presentation/api/routes/import_routes.py` on a session, with the statements
of `adapters/db/postgres_import_store.py`, and the transactions of
`workers/import_worker.py`. A route that answers with a problem returns normally, so its
transaction commits. What the object store answers, what the client sends and what the
inspection of the source finds are parameters.

As for scans, the request of a worker that claims a session names the row it takes.
-/

namespace DqScoring

open Framework

/-- `create_problem_response`. -/
structure ImportProblem where
  statusCode : ℕ
  title : String
  detail : String
  errorCode : String
  deriving DecidableEq

/-- A problem with the status 409. -/
def conflict (detail errorCode : String) : ImportProblem := ⟨409, "Conflict", detail, errorCode⟩

/-- The problem of a session that is not there. -/
def sessionNotFound (uploadId : Uuid) : ImportProblem :=
  ⟨404, "Not Found", "Import session " ++ uploadId.str ++ " not found.", "RESOURCE_NOT_FOUND"⟩

/-- The problem of a session whose time is over. -/
def sessionExpired : ImportProblem := conflict "Import session has expired." "IMPORT_EXPIRED"

/-! ### The row of a session -/

/-- The canonical data and the findings that an inspection gives. -/
structure ImportInspection where
  raw : StoredObject
  canonical : StoredObject
  columns : List ColumnDefinition
  exactRowCount : ℕ
  warnings : List String
  sensitiveScan : SensitiveScan
  /-- `PrivacyScanner.finish` records no `config_version`. -/
  scan_unversioned : sensitiveScan.configVersion = none
  deriving DecidableEq

/-- `source_descriptor` of an inspection. -/
def ImportInspection.sourceDescriptor (i : ImportInspection) (format : FileFormat) :
    SourceDescriptor :=
  ⟨i.raw, format, i.canonical⟩

namespace UploadSession

/-- The time of the session is over. -/
def isExpired (now : Time) (s : UploadSession) : Bool := s.expiresAt.any fun t => decide (t < now)

/-- The session takes parts. -/
def isOpen (s : UploadSession) : Bool :=
  decide (s.status = .initiated) || decide (s.status = .uploading)

/-- The recorded part of a number. -/
def part (s : UploadSession) (partNumber : ℕ) : Option UploadPart :=
  s.manifest.parts.find? fun p => decide (p.partNumber = partNumber)

/-- The number of parts: `math.ceil(size_bytes / part_bytes)`. -/
def partCount (s : UploadSession) (partBytes : ℕ) : ℕ := (s.sizeBytes + partBytes - 1) / partBytes

/-- The session with one more part: `record_part`. -/
def recordPart (part : UploadPart) (s : UploadSession) : UploadSession :=
  { s with
    manifest := { s.manifest with
      parts := (s.manifest.parts.filter fun p => decide (p.partNumber ≠ part.partNumber)) ++
        [part] }
    status := if s.status = .initiated then .uploading else s.status }

/-- The session once its upload is complete: `transition_staged`. -/
def stage (s : UploadSession) : UploadSession := { s with status := .staged }

/-- The session with other column names, back in the queue. -/
def configure (columnNames : List String) (s : UploadSession) : UploadSession :=
  { s with
    status := .staged, errorReason := none
    manifest := { s.manifest with columnNamesMapping := some columnNames, errorCode := none } }

/-- The session after its abort. -/
def abort (s : UploadSession) : UploadSession :=
  { s with status := .aborted, errorReason := some "USER_ABORTED" }

/-- `status = 'STAGED' OR (status = 'VERIFYING' AND lease_expires_at < now())`. -/
def isClaimable (dbNow : Time) (s : UploadSession) : Bool :=
  decide (s.status = .staged)
    || (decide (s.status = .verifying) && s.leaseExpiresAt.any fun t => decide (t < dbNow))

/-- The lease of a worker is in force. -/
def isFenced (workerId : String) (generation : ℕ) (dbNow : Time) (s : UploadSession) : Bool :=
  decide (s.leaseGeneration = generation) && decide (s.leaseOwner = some workerId)
    && (s.leaseExpiresAt.any fun t => decide (dbNow ≤ t)) && decide (s.status = .verifying)

/-- The session after a claim. -/
def claim (workerId : String) (expiresAt : Time) (s : UploadSession) : UploadSession :=
  { s with
    status := .verifying, leaseOwner := some workerId, leaseGeneration := s.leaseGeneration + 1,
    attemptCount := s.attemptCount + 1, leaseExpiresAt := some expiresAt }

/-- The session that a claim gives up. -/
def giveUp (reason : String) (s : UploadSession) : UploadSession :=
  { s with status := .failed, errorReason := some reason }

/-- The session after a heartbeat. -/
def extend (expiresAt : Time) (s : UploadSession) : UploadSession :=
  { s with leaseExpiresAt := some expiresAt }

/-- The session after its verification. -/
def verify (inspection : ImportInspection) (format : FileFormat) (pin : PinnedPrivacyRules)
    (policyVersion : ℕ) (s : UploadSession) : UploadSession :=
  { s with
    -- what was inspected, with the rules it was inspected under
    status := .verified, errorReason := none
    manifest := { s.manifest with
      sourceDescriptor := some (inspection.sourceDescriptor format)
      columns := some inspection.columns
      exactRowCount := some inspection.exactRowCount
      warnings := inspection.warnings
      sensitiveScan := some inspection.sensitiveScan
      privacyRules := pin.rules
      privacyConfigVersion := some pin.configVersion
      policyVersion := some policyVersion
      errorCode := none } }

/-- The session whose processing ended with an error. -/
def stop (status : SessionStatus) (errorCode : String) (s : UploadSession) : UploadSession :=
  { s with
    status := status, errorReason := some errorCode
    manifest := { s.manifest with errorCode := some errorCode } }

/-- The session after its registration. -/
def register (assetId snapshotId : Uuid) (s : UploadSession) : UploadSession :=
  { s with
    status := .registered, assetId := some assetId, registeredSnapshotId := some snapshotId }

end UploadSession

/-- A session as `claim_next_session` returns it. -/
structure SessionClaim where
  uploadId : Uuid
  assetId : Option Uuid
  format : FileFormat
  manifest : Manifest
  leaseGeneration : ℕ
  deriving DecidableEq

/-- What a worker keeps of the session it claims. -/
def UploadSession.toClaim (s : UploadSession) : SessionClaim where
  uploadId := s.uploadId
  assetId := s.assetId
  format := s.format
  manifest := s.manifest
  leaseGeneration := s.leaseGeneration

/-- An update that leaves the identity of a session. -/
abbrev KeepsUploadId (f : UploadSession → UploadSession) : Prop := ∀ s, (f s).uploadId = s.uploadId

namespace Workspace

/-- UPDATE a session. -/
def updateSession (uploadId : Uuid) (f : UploadSession → UploadSession) (hf : KeepsUploadId f)
    (db : Workspace) : Workspace :=
  { db with sessions := db.sessions.update uploadId f hf }

/-- `create_session`: refused by `uq_upload_sessions_client_request`. -/
def insertSession (session : UploadSession) (db : Workspace) : Option Workspace := do
  let rows ← db.sessions.insert session
  if rows.HasUniqueIndex clientRequestKey then return { db with sessions := rows } else none

end Workspace

/-! ### Creation -/

/-- `CreateImportRequest`. -/
structure CreateImportRequest where
  clientRequestId : Uuid
  assetId : Option Uuid
  assetName : Option String
  format : FileFormat
  sizeBytes : ℕ
  /-- The digest of the whole payload. -/
  fingerprint : String

/-- What the object store answers to a creation. -/
inductive StagingAnswer where
  /-- The selected object is not one of the workspace. -/
  | forbidden
  | missing (uri : String)
  | unverifiable
  | selected (sizeBytes : ℕ)
  | multipart (multipartId : String)
  | multipartUnavailable

/-- The status, the size and the upload of a new session, or the problem. -/
def stagedUpload (sizeBytes maxBytes : ℕ) :
    StagingAnswer → Except ImportProblem (SessionStatus × ℕ × Option String)
  | .forbidden =>
    -- what the object store says about the staged object
    .error ⟨404, "Not Found", "Source object not found in this workspace.", "RESOURCE_NOT_FOUND"⟩
  | .missing uri =>
    .error ⟨404, "Not Found", "Source object " ++ uri ++ " not found.", "RESOURCE_NOT_FOUND"⟩
  | .unverifiable => .error ⟨503, "Storage Unavailable", "Unable to verify source storage object.",
      "STORAGE_UNAVAILABLE"⟩
  | .selected size =>
    -- the selected object must have the announced size
    if size ≠ sizeBytes ∨ maxBytes < size then
      .error ⟨409, "Object changed", "Source size differs from the selected object.",
        "OBJECT_CHANGED"⟩
    else .ok (.staged, size, none)
  | .multipart multipartId => .ok (.initiated, sizeBytes, some multipartId)
  | .multipartUnavailable => .error ⟨503, "Storage Unavailable",
      "Unable to initialize multipart upload in object store.", "STORAGE_UNAVAILABLE"⟩

/-- A session asks for the same import as a request. -/
def isReplayOf (req : CreateImportRequest) (existing : UploadSession) : Bool :=
  (if req.assetId.isSome then decide (existing.assetId = req.assetId)
    else decide (existing.assetName = req.assetName))
  && decide (existing.manifest.requestFingerprint = some req.fingerprint)

/-- `expires_in_hours`, in the unit of the clock. -/
def sessionLifetime : Time := 24 * 60 * 60

/-- `create_import_session`; the identifier of the session is that of `uuid4()`. -/
def createImportSession (userId : Uuid) (req : CreateImportRequest) (maxBytes : ℕ)
    (storage : StagingAnswer) (uploadId : Uuid) (now : Time) :
    WorkspaceTxn (Except ImportProblem UploadSession) := do
  -- the privacy configuration is seeded with the first session
  ensureInitialized
  match ← .select fun db => db.sessions.rows.find? fun s =>
      decide (s.createdBy = userId) && decide (s.clientRequestId = req.clientRequestId) with
  | some existing =>
    -- the key of the client identifies its request
    if isReplayOf req existing then return .ok existing
    else return .error (conflict ("Import session with this client_request_id already exists with "
      ++ "different parameters.") "IMPORT_STATE_CONFLICT")
  | none =>
    let isTargetThere ← .select fun db =>
      req.assetId.all fun assetId => (db.assets.find? assetId).isSome
    if !isTargetThere then
      return .error ⟨404, "Not Found", "Target Data Asset " ++ (req.assetId.map Uuid.str).getD ""
        ++ " not found in tenant.", "RESOURCE_NOT_FOUND"⟩
    -- the announced size is checked before anything is stored
    else if maxBytes < req.sizeBytes then
      return .error ⟨413, "Payload Too Large", "File size " ++ toString req.sizeBytes
        ++ " bytes exceeds maximum allowed limit " ++ toString maxBytes ++ " bytes.",
        "SIZE_LIMIT_EXCEEDED"⟩
    else
      -- the multipart upload is opened before the session is inserted
      match stagedUpload req.sizeBytes maxBytes storage with
      | .error problem => return .error problem
      | .ok (status, sizeBytes, multipartId) =>
        let session : UploadSession :=
          { uploadId := uploadId, createdBy := userId, clientRequestId := req.clientRequestId
            assetId := req.assetId, assetName := req.assetName, format := req.format
            sizeBytes := sizeBytes, multipartId := multipartId, status := status
            expiresAt := some (now + sessionLifetime)
            manifest := { requestFingerprint := some req.fingerprint } }
        .exec (Workspace.insertSession session)
        return .ok session

/-! ### Parts -/

/-- A part as the client sends it, and the answer of the object store. -/
structure PartUpload where
  partNumber : ℕ
  contentLength : ℕ
  receivedBytes : ℕ
  sha256 : String
  /-- The etag, unless the store raises. -/
  etag : Option String

/-- The checks of `upload_part` before the part is stored. -/
def checkPart (session : UploadSession) (upload : PartUpload) (partBytes : ℕ) (now : Time) :
    Option ImportProblem :=
  -- an empty file has one part
  let partCount := max 1 (session.partCount partBytes)
  if session.isExpired now then some sessionExpired
  else if !session.isOpen then
    some (conflict ("Cannot upload parts to session in status '" ++ session.status.text ++ "'.")
      "IMPORT_STATE_CONFLICT")
  else if session.multipartId.isNone then
    some (conflict "Session has no active multipart upload ID." "IMPORT_STATE_CONFLICT")
  else if upload.partNumber < 1 ∨ partCount < upload.partNumber then
    some ⟨422, "Invalid Argument", "Part number " ++ toString upload.partNumber
      ++ " out of valid range (1.." ++ toString partCount ++ ").", "INVALID_PART_NUMBER"⟩
  else if partBytes < upload.contentLength then
    some ⟨413, "Payload Too Large", "Part size " ++ toString upload.contentLength
      ++ " exceeds part limit " ++ toString partBytes ++ ".", "SIZE_LIMIT_EXCEEDED"⟩
  else if upload.contentLength
      -- the last part is shorter
      ≠ min partBytes (session.sizeBytes - (upload.partNumber - 1) * partBytes) then
    some ⟨422, "Invalid part length", "Part length must match the declared dataset size.",
      "CONTENT_LENGTH_MISMATCH"⟩
  -- the body is read up to the announced length
  else if upload.contentLength < upload.receivedBytes then
    some ⟨400, "Bad Request", "Streamed bytes exceeded declared Content-Length.",
      "CONTENT_LENGTH_MISMATCH"⟩
  else if upload.receivedBytes ≠ upload.contentLength then
    some ⟨400, "Bad Request", "Received bytes (" ++ toString upload.receivedBytes
      ++ ") did not match declared Content-Length (" ++ toString upload.contentLength ++ ").",
      "CONTENT_LENGTH_MISMATCH"⟩
  else none

theorem keepsUploadId_recordPart (part : UploadPart) :
    KeepsUploadId (UploadSession.recordPart part) :=
  fun _ => rfl

/-- `record_part`: the UPDATE waits for the row and takes it as it is then. -/
def recordPart (uploadId : Uuid) (part : UploadPart) : WorkspaceTxn Unit := do
  .forUpdate (.part uploadId part.partNumber)
  .forUpdate (.session uploadId)
  .exec fun db => some (db.updateSession uploadId (UploadSession.recordPart part)
    (keepsUploadId_recordPart part))

/-- `upload_part`. The session is read without its row lock. -/
def uploadPart (uploadId : Uuid) (upload : PartUpload) (partBytes : ℕ) (now : Time) :
    WorkspaceTxn (Except ImportProblem UploadPart) := do
  -- one transaction per part at a time
  .forUpdate (.part uploadId upload.partNumber)
  match ← .select fun db => db.sessions.find? uploadId with
  | none => return .error (sessionNotFound uploadId)
  | some session =>
    match checkPart session upload partBytes now with
    | some problem => return .error problem
    | none =>
      -- the first content of a part stays
      match session.part upload.partNumber with
      | some existing =>
        if existing.sha256 = upload.sha256 then return .ok existing
        else return .error (conflict ("Conflicting payload for part "
          ++ toString upload.partNumber ++ " with different checksum.") "PART_CHECKSUM_MISMATCH")
      | none =>
        -- the store has no answer for a part that failed to upload
        match upload.etag with
        | none => .raise internalServerError
        | some etag =>
          let part : UploadPart := ⟨upload.partNumber, etag, upload.sha256, upload.receivedBytes⟩
          recordPart uploadId part
          return .ok part

/-! ### Requests under the lock of the session -/

/-- Lock a session, read it, and update it if a check says so. -/
def changeSession (uploadId : Uuid) (check : UploadSession → Except ImportProblem Bool)
    (f : UploadSession → UploadSession) (hf : KeepsUploadId f) :
    WorkspaceTxn (Except ImportProblem UploadSession) := do
  .forUpdate (.session uploadId)
  match ← .select fun db => db.sessions.find? uploadId with
  | none => return .error (sessionNotFound uploadId)
  | some session =>
    -- the check decides about the row under its lock
    match check session with
    | .error problem => return .error problem
    -- accepted already: nothing changes
    | .ok false => return .ok session
    | .ok true =>
      .exec fun db => some (db.updateSession uploadId f hf)
      return .ok (f session)

/-- What the object store answers to the completion of an upload. -/
inductive CompletionAnswer where
  | completed (sizeBytes : ℕ)
  /-- The completion raised, and the staged object is there. -/
  | recovered (sizeBytes : ℕ)
  | unavailable

/-- `etag.strip('"')`. -/
def stripQuotes (etag : String) : String :=
  String.ofList ((etag.toList.dropWhile (· = '"')).reverse.dropWhile (· = '"')).reverse

/-- The parts that a client completes are all of them, and those that are recorded. -/
def partsComplete (session : UploadSession) (parts : List (ℕ × String)) (partBytes : ℕ) : Bool :=
  let expected := List.range' 1 (session.partCount partBytes)
  let recorded := session.manifest.parts.map UploadPart.partNumber
  -- the parts named, expected and recorded are the same
  decide ((parts.map Prod.fst).Nodup)
    && (parts.all fun p => decide (p.1 ∈ expected))
    && (expected.all fun n => decide (n ∈ parts.map Prod.fst))
    && (recorded.all fun n => decide (n ∈ expected))
    && (expected.all fun n => decide (n ∈ recorded))
    -- with the size of the file, and the etags of the client
    && decide ((session.manifest.parts.map UploadPart.sizeBytes).sum = session.sizeBytes)
    && parts.all fun p => decide
      (stripQuotes (((session.part p.1).map UploadPart.etag).getD "") = stripQuotes p.2)

/-- The checks of `complete_import`; a session that is staged is not changed. -/
def checkComplete (parts : List (ℕ × String)) (partBytes : ℕ) (storage : CompletionAnswer)
    (now : Time) (session : UploadSession) : Except ImportProblem Bool :=
  if session.isExpired now then .error sessionExpired
  -- a completed session is not completed again
  else if session.status = .staged then .ok false
  else if !session.isOpen then
    .error (conflict ("Cannot complete import in status '" ++ session.status.text ++ "'.")
      "IMPORT_STATE_CONFLICT")
  else if session.multipartId.isNone then
    .error (conflict "Session has no active multipart upload ID." "IMPORT_STATE_CONFLICT")
  else if !partsComplete session parts partBytes then
    .error ⟨409, "Incomplete upload", "Complete all recorded upload parts before finalizing.",
      "IMPORT_STATE_CONFLICT"⟩
  else
    -- a lost answer is recovered from the object that is there
    match storage with
    | .unavailable => .error ⟨503, "Storage Error",
        "Unable to complete multipart upload in object storage.", "STORAGE_UNAVAILABLE"⟩
    | .recovered size =>
      if size ≠ session.sizeBytes then
        .error (conflict "Staged object size does not match session declared size."
          "OBJECT_CHANGED")
      else .ok true
    | .completed size =>
      if size ≠ session.sizeBytes then
        .error ⟨409, "Object changed", "Staged size does not match the upload manifest.",
          "OBJECT_CHANGED"⟩
      else .ok true

/-- `complete_import`. -/
def completeImport (uploadId : Uuid) (parts : List (ℕ × String)) (partBytes : ℕ)
    (storage : CompletionAnswer) (now : Time) :
    WorkspaceTxn (Except ImportProblem UploadSession) :=
  changeSession uploadId (checkComplete parts partBytes storage now) UploadSession.stage
    fun _ => rfl

/-- The checks of `configure_import_session`. -/
def checkConfigure (now : Time) (session : UploadSession) : Except ImportProblem Bool :=
  -- columns can be renamed once the header was refused
  let isColumnError := decide (session.status = .rejected)
    && (decide (session.manifest.errorCode = some "DUPLICATE_COLUMN_NAME")
      || decide (session.manifest.errorCode = some "EMPTY_COLUMN_NAME"))
  if session.isExpired now then .error sessionExpired
  else if session.status ≠ .verified ∧ !isColumnError then
    .error (conflict
      "Session can only be reconfigured when VERIFIED or REJECTED due to column name issues."
      "IMPORT_STATE_CONFLICT")
  else .ok true

/-- `configure_import_session`. -/
def configureImportSession (uploadId : Uuid) (columnNames : List String) (now : Time) :
    WorkspaceTxn (Except ImportProblem UploadSession) :=
  changeSession uploadId (checkConfigure now) (UploadSession.configure columnNames) fun _ => rfl

/-- The checks of `abort_import_session`; `isAborted` is the answer of the object store. -/
def checkAbort (isAborted : Bool) (session : UploadSession) : Except ImportProblem Bool :=
  if session.status ∉ [.initiated, .uploading, .staged, .verified, .aborted] then
    .error (conflict "Cannot abort session currently being verified by an active worker."
      "IMPORT_STATE_CONFLICT")
  else if session.multipartId.isSome && session.isOpen && !isAborted then
    .error ⟨503, "Storage Unavailable", "Unable to abort multipart upload; try again.",
      "STORAGE_UNAVAILABLE"⟩
  else .ok true

/-- `abort_import_session`. -/
def abortImportSession (uploadId : Uuid) (isAborted : Bool) :
    WorkspaceTxn (Except ImportProblem UploadSession) :=
  changeSession uploadId (checkAbort isAborted) UploadSession.abort fun _ => rfl

/-! ### The worker -/

/-- What a claim does to its candidate: it gives it up, or takes it. -/
def claimedSession (workerId : String) (now leaseSeconds : Time) (session : UploadSession) :
    UploadSession :=
  if session.isExpired now then session.giveUp "IMPORT_EXPIRED"
  else if 3 < session.attemptCount + 1 then session.giveUp "IMPORT_RETRY_EXHAUSTED"
  else session.claim workerId (now + leaseSeconds)

theorem keepsUploadId_claimedSession (workerId : String) (now leaseSeconds : Time) :
    KeepsUploadId (claimedSession workerId now leaseSeconds) := by
  intro session
  rw [claimedSession]
  split
  · rfl
  · split <;> rfl

/-- `claim_next_session`, for the candidate it takes; `dbNow` is the clock of the database. -/
def claimNextSession (workerId : String) (uploadId : Uuid) (now dbNow leaseSeconds : Time) :
    WorkspaceTxn (Option SessionClaim) := do
  .forUpdate (.session uploadId)
  match ← .select fun db =>
    -- the candidate is read again under its lock
      (db.sessions.find? uploadId).filter (UploadSession.isClaimable dbNow) with
  | none => return none
  | some session =>
    .exec fun db => some (db.updateSession uploadId (claimedSession workerId now leaseSeconds)
      (keepsUploadId_claimedSession workerId now leaseSeconds))
    -- a candidate that is given up is not handed out
    let claimed := claimedSession workerId now leaseSeconds session
    return if claimed.status = .verifying then some claimed.toClaim else none

/-- UPDATE a session while the lease of a worker is in force, and say whether it was. -/
def updateSessionFenced (workerId : String) (uploadId : Uuid) (generation : ℕ) (dbNow : Time)
    (f : UploadSession → UploadSession) (hf : KeepsUploadId f) : WorkspaceTxn Bool := do
  .forUpdate (.session uploadId)
  let isFenced ← .select fun db =>
    (db.sessions.find? uploadId).any (UploadSession.isFenced workerId generation dbNow)
  -- the guard of the UPDATE: status, worker, generation and lease
  if isFenced then
    .exec fun db => some (db.updateSession uploadId f hf)
    return true
  else return false

/-- `heartbeat`. -/
def importHeartbeat (workerId : String) (uploadId : Uuid) (generation : ℕ)
    (now dbNow leaseSeconds : Time) : WorkspaceTxn Bool :=
  updateSessionFenced workerId uploadId generation dbNow (UploadSession.extend (now + leaseSeconds))
    fun _ => rfl

/-- How the processing of a session ends, its database apart. -/
inductive ImportOutcome where
  | versioningRequired
  | inspected (inspection : ImportInspection)
  /-- `ImportInspectionException`. -/
  | rejected (errorCode : String)
  /-- Any other exception that the worker catches. -/
  | workerError
  deriving DecidableEq

/-- `_declared_protection`: the version that fences the inspection. -/
def declaredProtection (assetId : Option Uuid) : WorkspaceTxn ℕ :=
  match assetId with
  | none => return 0
  | some assetId => .select fun db => db.protectionVersion assetId

/-- The session that the processing leaves. -/
inductive SessionEnd where
  | verified (inspection : ImportInspection) (pin : PinnedPrivacyRules) (policyVersion : ℕ)
  | rejected (errorCode : String)
  | failed (errorCode : String)
  deriving DecidableEq

/-- The UPDATE of an end. -/
def SessionEnd.apply (format : FileFormat) : SessionEnd → UploadSession → UploadSession
  | verified inspection pin policyVersion =>
    UploadSession.verify inspection format pin policyVersion
  | rejected errorCode => UploadSession.stop .rejected errorCode
  | failed errorCode => UploadSession.stop .failed errorCode

theorem SessionEnd.keepsUploadId_apply (format : FileFormat) (e : SessionEnd) :
    KeepsUploadId (e.apply format) := by
  cases e <;> exact fun _ => rfl

/-- How the processing of a session ends. -/
def sessionEnd (claim : SessionClaim) (outcome : ImportOutcome) (pin : PinnedPrivacyRules) :
    WorkspaceTxn SessionEnd := do
  -- the bucket of the snapshots keeps no versions
  if outcome = .versioningRequired then return .failed "SNAPSHOT_VERSIONING_REQUIRED"
  else do
    -- the protection before the file is read
    let initialVersion ← declaredProtection claim.assetId
    match outcome with
    | .versioningRequired => return .failed "SNAPSHOT_VERSIONING_REQUIRED"
    | .rejected errorCode => return .rejected errorCode
    | .workerError => return .failed "INTERNAL_WORKER_ERROR"
    | .inspected inspection =>
      -- and after it, which must be the same
      let version ← declaredProtection claim.assetId
      if version ≠ initialVersion then return .rejected "POLICY_CHANGED"
      else return .verified inspection pin initialVersion

/-- `process_session`, and whether its lease was in force at the end. -/
def processSession (workerId : String) (claim : SessionClaim) (outcome : ImportOutcome)
    (dbNow : Time) : WorkspaceTxn (SessionEnd × Bool) := do
  let pin ← loadPinnedRules
  let ended ← sessionEnd claim outcome pin
  let isRecorded ← updateSessionFenced workerId claim.uploadId claim.leaseGeneration dbNow
    (ended.apply claim.format) (ended.keepsUploadId_apply claim.format)
  return (ended, isRecorded)

end DqScoring
