import DqScoring.Imports.PartSteps

/-!
# The parts of an upload over whole runs

In every interleaving a recorded part stays as it is, every part that was acknowledged is
recorded, and a request that begins when its part is recorded answers from the record or with
one of the checks before it, without a write and whatever the object store would answer. An
upload is completed only from the parts that its size prescribes.

The length of a part is one that the setting `part_bytes` prescribes, so what is said of
lengths is said of runs with one such setting.
-/

namespace DqScoring

open Framework Relation

/-! ### The invariant -/

/-- The request was made under this setting of `part_bytes`. -/
def WorkspaceRequest.UsesPartBytes (partBytes : ℕ) : WorkspaceRequest → Prop
  | importing (.uploadPart _ _ partBytes' _) => partBytes' = partBytes
  | importing (.complete _ _ partBytes' _ _) => partBytes' = partBytes
  | _ => True

/-- All requests of a log were made under one setting of `part_bytes`. -/
def UsesPartBytes (partBytes : ℕ) (log : List WorkspaceEvent) : Prop :=
  ∀ i request, .begun i request ∈ log → request.UsesPartBytes partBytes

/-- The recorded parts of a session have different numbers. -/
def PartsNumbered (session : UploadSession) : Prop :=
  (session.manifest.parts.map UploadPart.partNumber).Nodup

/-- The recorded parts of a session are parts that its size prescribes. -/
def PartsPrescribed (partBytes : ℕ) (session : UploadSession) : Prop :=
  ∀ part ∈ session.manifest.parts,
    Prescribed partBytes session.sizeBytes part.partNumber part.sizeBytes

/-- What holds of the recorded parts. -/
structure PartsTracked (db : Workspace) (log : List WorkspaceEvent) : Prop where
  numbered : ∀ id session, db.sessions.find? id = some session → PartsNumbered session
  prescribed : ∀ partBytes, UsesPartBytes partBytes log → ∀ id session,
    db.sessions.find? id = some session → PartsPrescribed partBytes session
  /-- A part that was acknowledged is recorded. -/
  acknowledged : ∀ i uploadId upload partBytes now part,
    .committed i (.importing (.uploadPart uploadId upload partBytes now))
      (.importing (.part (.ok part))) ∈ log →
    part.sha256 = upload.sha256 ∧ Recorded db uploadId upload.partNumber part

/-- What a commit does to the parts of a session that it finds. -/
inductive PartsMove (request : WorkspaceRequest) (session session' : UploadSession) : Prop
  | kept : session'.sizeBytes = session.sizeBytes →
      session'.manifest.parts = session.manifest.parts → PartsMove request session session'
  | recorded (uploadId upload partBytes now part) :
      request = .importing (.uploadPart uploadId upload partBytes now) →
      session.part part.partNumber = none →
      Prescribed partBytes session.sizeBytes part.partNumber part.sizeBytes →
      session' = session.recordPart part → PartsMove request session session'

section Commits

variable {request : WorkspaceRequest} {result : WorkspaceResult} {db db' : Workspace}

/-- What each request does to the parts of a session. -/
theorem partsMove_of_post (h : WorkspacePost request result db db')
    (h_detail : DetailPost request result db db') {id : Uuid} {session : UploadSession}
    (h_find : db.sessions.find? id = some session) :
    ∃ session', db'.sessions.find? id = some session' ∧ PartsMove request session session' := by
  by_cases h_upload : ∃ uploadId upload partBytes now,
      request = .importing (.uploadPart uploadId upload partBytes now)
  · obtain ⟨uploadId, upload, partBytes, now, rfl⟩ := h_upload
    cases h with
    | importing _ _ _ _ h_import =>
      cases h_import with
      | partUploaded _ _ _ _ answer _ _ _ =>
        have h_answered : PartAnswered uploadId upload partBytes db answer db' := h_detail
        cases h_answered with
        | refused => exact ⟨session, h_find, .kept rfl rfl⟩
        | replayed => exact ⟨session, h_find, .kept rfl rfl⟩
        | recorded row part h_row h_none h_number _ h_prescribed =>
          have h_find' := Table.find?_update db.sessions uploadId (UploadSession.recordPart part)
            (keepsUploadId_recordPart part) id
          by_cases h_id : id = uploadId
          · subst h_id
            rw [h_find] at h_row
            obtain rfl := Option.some.inj h_row
            rw [if_pos rfl, h_find] at h_find'
            rw [← h_number] at h_none
            exact ⟨_, h_find', .recorded id upload partBytes now part rfl h_none h_prescribed rfl⟩
          · rw [if_neg h_id, h_find] at h_find'
            exact ⟨session, h_find', .kept rfl rfl⟩
  · rcases sessions_of_post h with ⟨r, a, rfl, rfl, h_change⟩ | ⟨-, h_sessions⟩
    · obtain ⟨session', h_find', rfl | h_move⟩ := h_change.find? h_find
      · exact ⟨_, h_find', .kept rfl rfl⟩
      · obtain ⟨h_size, h_parts⟩ := h_move.parts
        refine ⟨session', h_find', .kept h_size
          (h_parts fun uploadId upload partBytes now h_eq => ?_)⟩
        exact h_upload ⟨uploadId, upload, partBytes, now, congrArg _ h_eq⟩
    · rw [h_sessions]
      exact ⟨session, h_find, .kept rfl rfl⟩

namespace PartsMove

variable {session session' : UploadSession}

/-- A recorded part stays as it is. -/
theorem part (h : PartsMove request session session') {n : ℕ} {part : UploadPart}
    (h_part : session.part n = some part) : session'.part n = some part := by
  cases h with
  | kept _ h_parts =>
    rw [UploadSession.part, h_parts]
    exact h_part
  | recorded _ _ _ _ new _ h_none _ h_eq =>
    rw [h_eq, UploadSession.part_recordPart, if_neg]
    · exact h_part
    · rintro rfl
      rw [h_none] at h_part
      cases h_part

/-- A move keeps the parts under their own numbers. -/
theorem partsNumbered (h : PartsMove request session session') (h_before : PartsNumbered session) :
    PartsNumbered session' := by
  cases h with
  | kept _ h_parts => rwa [PartsNumbered, h_parts]
  | recorded _ _ _ _ new _ h_none _ h_eq =>
    subst h_eq
    show (((session.manifest.parts.filter fun p => decide (p.partNumber ≠ new.partNumber)) ++
      [new]).map UploadPart.partNumber).Nodup
    rw [List.map_append, List.map_singleton, List.nodup_append_comm]
    refine List.nodup_cons.mpr ⟨fun h_mem => ?_, h_before.sublist (List.filter_sublist.map _)⟩
    obtain ⟨p, h_p, h_number⟩ := List.mem_map.mp h_mem
    exact of_decide_eq_true (List.mem_filter.mp h_p).2 h_number

/-- A move keeps every part at its prescribed size. -/
theorem partsPrescribed {partBytes : ℕ} (h : PartsMove request session session')
    (h_uses : request.UsesPartBytes partBytes) (h_before : PartsPrescribed partBytes session) :
    PartsPrescribed partBytes session' := by
  cases h with
  | kept h_size h_parts =>
    rw [PartsPrescribed, h_parts, h_size]
    exact h_before
  | recorded _ _ partBytes' _ new h_request _ h_new h_eq =>
    subst h_eq h_request
    obtain rfl : partBytes' = partBytes := h_uses
    intro p h_p
    rcases List.mem_append.mp h_p with h_old | h_p
    · exact h_before p (List.mem_filter.mp h_old).1
    · rw [List.mem_singleton.mp h_p]
      exact h_new

end PartsMove

/-- A recorded part stays recorded, as the part it is. -/
theorem recorded_of_post (h : WorkspacePost request result db db')
    (h_detail : DetailPost request result db db') {id : Uuid} {n : ℕ} {part : UploadPart}
    (h_recorded : Recorded db id n part) : Recorded db' id n part := by
  obtain ⟨session, h_find, h_entry⟩ := h_recorded
  obtain ⟨session', h_find', h_move⟩ := partsMove_of_post h h_detail h_find
  exact ⟨session', h_find', h_move.part h_entry⟩

/-- A part that is acknowledged is recorded when the answer is given. -/
theorem recorded_of_acknowledged {uploadId : Uuid} {upload : PartUpload} {partBytes : ℕ}
    {part : UploadPart} (h : PartAnswered uploadId upload partBytes db (.ok part) db') :
    part.sha256 = upload.sha256 ∧ Recorded db' uploadId upload.partNumber part := by
  cases h with
  | replayed _ h_recorded h_same => exact ⟨h_same, h_recorded⟩
  | recorded session _ h_find _ h_number h_same =>
    have h_find' := Table.find?_update db.sessions uploadId (UploadSession.recordPart part)
      (keepsUploadId_recordPart part) uploadId
    rw [if_pos rfl, h_find] at h_find'
    refine ⟨h_same, session.recordPart part, h_find', ?_⟩
    rw [UploadSession.part_recordPart, if_pos h_number.symm]

end Commits

namespace PartsTracked

variable {db db' : Workspace} {log log' : List WorkspaceEvent}

/-- Without sessions there are no parts to track. -/
theorem of_noSessions (h : NoSessions db) : PartsTracked db [] where
  numbered id session h_find := by
    rw [h.2] at h_find
    cases h_find
  prescribed partBytes _ id session h_find := by
    rw [h.2] at h_find
    cases h_find
  acknowledged _ _ _ _ _ _ h_mem := by cases h_mem

/-- An event that commits nothing. -/
theorem cons (h : PartsTracked db log) {e : WorkspaceEvent}
    (h_e : ∀ i request result, e ≠ .committed i request result) : PartsTracked db (e :: log) where
  numbered := h.numbered
  prescribed partBytes h_uses :=
    h.prescribed partBytes fun i request h_mem => h_uses i request (List.mem_cons_of_mem _ h_mem)
  acknowledged i uploadId upload partBytes now part h_mem := by
    rcases List.mem_cons.mp h_mem with h_eq | h_old
    · exact absurd h_eq.symm (h_e _ _ _)
    · exact h.acknowledged i uploadId upload partBytes now part h_old

/-- Each step keeps the parts accounted for by the log. -/
theorem effect (h : PartsTracked db log) (h_effect : DetailEffect db log db' log') :
    PartsTracked db' log' := by
  cases h_effect with
  | statement => exact h
  | begun => exact h.cons fun _ _ _ h_eq => by cases h_eq
  | rolledBack => exact h.cons fun _ _ _ h_eq => by cases h_eq
  | committed i request result _ _ _ _ _ _ h_post h_begun =>
    obtain ⟨h_post, h_detail⟩ := h_post
    refine ⟨fun id session' h_find' => ?_, fun partBytes h_uses id session' h_find' => ?_,
      fun j uploadId upload partBytes now part h_mem => ?_⟩
    · cases h_find : db.sessions.find? id with
      | none =>
        rw [PartsNumbered, (fresh_of_post h_post h_detail h_find h_find').parts]
        exact List.nodup_nil
      | some session =>
        obtain ⟨session₁, h_find₁, h_move⟩ := partsMove_of_post h_post h_detail h_find
        rw [h_find'] at h_find₁
        obtain rfl := Option.some.inj h_find₁
        exact h_move.partsNumbered (h.numbered id session h_find)
    · have h_uses' : UsesPartBytes partBytes log :=
        fun j r h_mem => h_uses j r (List.mem_cons_of_mem _ h_mem)
      cases h_find : db.sessions.find? id with
      | none =>
        intro part h_mem
        rw [(fresh_of_post h_post h_detail h_find h_find').parts] at h_mem
        cases h_mem
      | some session =>
        obtain ⟨session₁, h_find₁, h_move⟩ := partsMove_of_post h_post h_detail h_find
        rw [h_find'] at h_find₁
        obtain rfl := Option.some.inj h_find₁
        exact h_move.partsPrescribed (h_uses' i request h_begun)
          (h.prescribed partBytes h_uses' id session h_find)
    · rcases List.mem_cons.mp h_mem with h_eq | h_old
      · cases h_eq
        exact recorded_of_acknowledged h_detail
      · obtain ⟨h_same, h_recorded⟩ := h.acknowledged j uploadId upload partBytes now part h_old
        exact ⟨h_same, recorded_of_post h_post h_detail h_recorded⟩

end PartsTracked

/-! ### Runs -/

section Runs

variable {s s' : WorkspaceState}

/-- The invariant of all runs. -/
theorem partsTracked (h : WorkspaceReachable NoSessions s) : PartsTracked s.db s.log :=
  TxnSystem.committed_invariant meets_parts (fun _ h_db => h_db.1) (fun _ => .of_noSessions)
    (fun h_old h_effect => h_old.effect h_effect) h

/-- A recorded part stays recorded as it is, over one step. -/
theorem recorded_of_step (h : WorkspaceReachable NoSessions s)
    (h_step : TxnSystem.Step workspaceSystem s s') {id : Uuid} {n : ℕ} {part : UploadPart}
    (h_recorded : Recorded s.db id n part) : Recorded s'.db id n part := by
  have h_effect : DetailEffect s.db s.log s'.db s'.log :=
    TxnSystem.effect_of_step meets_parts (fun _ h_db => h_db.1) h h_step
  generalize s.db = db, s.log = log, s'.db = db', s'.log = log' at h_effect h_recorded
  cases h_effect with
  | committed _ _ _ _ _ _ _ _ _ h_post => exact recorded_of_post h_post.1 h_post.2 h_recorded
  | _ => exact h_recorded

/-- A recorded part stays recorded as it is, over a run. -/
theorem parts_kept (h : WorkspaceReachable NoSessions s)
    (h_run : ReflTransGen (TxnSystem.Step workspaceSystem) s s') {id : Uuid} {n : ℕ}
    {part : UploadPart} (h_recorded : Recorded s.db id n part) : Recorded s'.db id n part := by
  induction h_run with
  | refl => exact h_recorded
  | tail h_before h_last ih => exact recorded_of_step (h.run h_before) h_last ih

end Runs

/-! ### Retries -/

/-- The answer to a request on a part that is recorded: `upload_part` compares the digests once
the other checks have passed. -/
def retryAnswer (session : UploadSession) (upload : PartUpload) (partBytes : ℕ) (now : Time)
    (recorded : UploadPart) : Except ImportProblem UploadPart :=
  match checkPart session upload partBytes now with
  | some problem => .error problem
  | none =>
    if recorded.sha256 = upload.sha256 then .ok recorded
    else .error (conflict ("Conflicting payload for part " ++ toString upload.partNumber
      ++ " with different checksum.") "PART_CHECKSUM_MISMATCH")

/-- A request on a part that is recorded whenever it reads ends with its answer, and writes
nothing. -/
theorem ends_uploadPart {R : Workspace → Workspace → Prop} {db : Workspace} (uploadId : Uuid)
    (upload : PartUpload) (partBytes : ℕ) (now : Time) {part : UploadPart}
    (h_recorded : ∀ db', R db db' → Recorded db' uploadId upload.partNumber part) :
    (uploadPart uploadId upload partBytes now).Ends R (fun answer writes db' =>
      writes = some ∧ R db db' ∧ ∃ session, db'.sessions.find? uploadId = some session ∧
        answer = .ok (retryAnswer session upload partBytes now part)) some db := by
  simp only [uploadPart, Txn.ends_bind, Txn.ends_forUpdate, Txn.ends_select, Txn.thenEnds]
  rintro db' h_R view ⟨⟩
  obtain ⟨session, h_find, h_part⟩ := h_recorded db' h_R
  rw [h_find]
  cases h_check : checkPart session upload partBytes now with
  | some problem =>
    simp only [h_check]
    refine ⟨rfl, h_R, session, h_find, ?_⟩
    rw [retryAnswer, h_check]
  | none =>
    simp only [h_check, h_part]
    by_cases h_same : part.sha256 = upload.sha256
    · rw [if_pos h_same]
      refine ⟨rfl, h_R, session, h_find, ?_⟩
      simp only [retryAnswer, h_check, if_pos h_same]
    · rw [if_neg h_same]
      refine ⟨rfl, h_R, session, h_find, ?_⟩
      simp only [retryAnswer, h_check, if_neg h_same]

/-- How a retry ends: it is not raised, whatever the object store would have done; it leaves the
database as it is; and it answers for the session as it read it. -/
structure RetryEnds (s₀ s s' : WorkspaceState) (i : ℕ) (uploadId : Uuid) (upload : PartUpload)
    (partBytes : ℕ) (now : Time) (part : UploadPart) : Prop where
  notRaised : ∀ e, s'.log ≠
    .rolledBack i (.importing (.uploadPart uploadId upload partBytes now)) (some e) :: s.log
  answered : ∀ result,
    s'.log = .committed i (.importing (.uploadPart uploadId upload partBytes now)) result :: s.log →
    s'.db = s.db ∧ ∃ u session, ReflTransGen (TxnSystem.Step workspaceSystem) s₀ u ∧
      u.db.sessions.find? uploadId = some session ∧
      result = .importing (.part (retryAnswer session upload partBytes now part))

/-- A repeated upload of a recorded part answers by the digests alone. -/
theorem retryEnds {s₀ s s' : WorkspaceState} (h : WorkspaceReachable NoSessions s₀)
    {uploadId : Uuid} {upload : PartUpload} {part : UploadPart}
    (h_recorded : Recorded s₀.db uploadId upload.partNumber part) (partBytes : ℕ) (now : Time)
    {i : ℕ} (h_closed : s₀.opened i = none)
    (h_run : ReflTransGen (TxnSystem.Step workspaceSystem) s₀ s)
    (h_step : TxnSystem.Step workspaceSystem s s') :
    RetryEnds s₀ s s' i uploadId upload partBytes now part := by
  let request : WorkspaceRequest := .importing (.uploadPart uploadId upload partBytes now)
  -- the databases that the request can read are those of the run
  let R : Workspace → Workspace → Prop := fun _ db' =>
    ∃ u, ReflTransGen (TxnSystem.Step workspaceSystem) s₀ u ∧ u.db = db'
  have h_rel : ∀ u u', ReflTransGen (TxnSystem.Step workspaceSystem) s₀ u →
      ReflTransGen (TxnSystem.Step workspaceSystem) u u' → R u.db u'.db :=
    fun u u' h_u h_after => ⟨u', h_u.trans h_after, rfl⟩
  have h_upload : (uploadPart uploadId upload partBytes now).Ends R _ some s₀.db :=
    ends_uploadPart uploadId upload partBytes now fun db' h_R => by
      obtain ⟨u, h_u, rfl⟩ := h_R
      exact parts_kept h h_u h_recorded
  have h_program : (workspaceSystem.program request).Ends R (fun answer writes db =>
      writes = some ∧ R s₀.db db ∧ ∃ session, db.sessions.find? uploadId = some session ∧
        answer = .ok (.importing (.part (retryAnswer session upload partBytes now part))))
      some s₀.db := by
    simp only [workspaceSystem, request, WorkspaceRequest.program, ImportRequest.program,
      Txn.ends_bind]
    refine h_upload.mono fun answer writes db h_answer => ?_
    obtain ⟨h_writes, h_read, session, h_find, rfl⟩ := h_answer
    exact ⟨h_writes, h_read, session, h_find, rfl⟩
  obtain ⟨h_committed, h_raised⟩ := TxnSystem.ends_of_run h_program h_rel h_closed h_run h_step
  refine ⟨fun e h_log => ?_, fun result h_log => ?_⟩
  · obtain ⟨_, _, ⟨-, -, _, -, h_ok⟩, -⟩ := h_raised e h_log
    cases h_ok
  · obtain ⟨_, _, ⟨rfl, ⟨u, h_u, rfl⟩, session, h_find, h_ok⟩, -, h_db⟩ := h_committed result h_log
    exact ⟨(Option.some.inj h_db).symm, u, session, h_u, h_find, Except.ok.inj h_ok⟩

/-! ### Completion -/

/-- What a client completes is the upload that is recorded: the recorded parts are those that the
size of the session prescribes, their sizes add up to it, and the client names each of them once,
by its etag. -/
structure UploadComplete (partBytes : ℕ) (named : List (ℕ × String)) (session : UploadSession) :
    Prop where
  numbered : PartsNumbered session
  numbers : ∀ n, (∃ part, session.part n = some part) ↔ 1 ≤ n ∧ n ≤ session.partCount partBytes
  lengths : ∀ n part, session.part n = some part →
    part.sizeBytes = min partBytes (session.sizeBytes - (n - 1) * partBytes)
  total : (session.manifest.parts.map UploadPart.sizeBytes).sum = session.sizeBytes
  named_once : (named.map Prod.fst).Nodup
  named_all : ∀ n, (∃ etag, (n, etag) ∈ named) ↔ 1 ≤ n ∧ n ≤ session.partCount partBytes
  etags : ∀ n etag, (n, etag) ∈ named → ∃ part, session.part n = some part ∧
    stripQuotes part.etag = stripQuotes etag

/-- A completion that passes its checks named all parts. -/
theorem partsComplete_of_checkComplete {session : UploadSession} {named : List (ℕ × String)}
    {partBytes : ℕ} {storage : CompletionAnswer} {now : Time}
    (h : checkComplete named partBytes storage now session = .ok true) :
    partsComplete session named partBytes := by
  unfold checkComplete at h
  split at h
  · cases h
  split at h
  · cases h
  split at h
  · cases h
  split at h
  · cases h
  split at h
  · cases h
  · rename_i h_complete
    simpa using h_complete

/-- What the check of the parts establishes. -/
theorem uploadComplete_of_partsComplete {session : UploadSession} {named : List (ℕ × String)}
    {partBytes : ℕ} (h : partsComplete session named partBytes) (h_numbered : PartsNumbered session)
    (h_prescribed : PartsPrescribed partBytes session) :
    UploadComplete partBytes named session := by
  simp only [partsComplete, Bool.and_eq_true, decide_eq_true_eq, List.all_eq_true,
    List.mem_range'_1] at h
  obtain ⟨⟨⟨⟨⟨⟨h_once, h_named⟩, h_all⟩, h_recorded⟩, h_every⟩, h_total⟩, h_etags⟩ := h
  have h_numbers : ∀ n, (∃ part, session.part n = some part) ↔
      1 ≤ n ∧ n ≤ session.partCount partBytes := by
    intro n
    rw [UploadSession.part_isSome_iff]
    constructor
    · intro h_mem
      have h_range := h_recorded n h_mem
      omega
    · intro h_range
      exact h_every n (by omega)
  refine ⟨h_numbered, h_numbers, fun n part h_part => ?_, h_total, h_once, fun n => ?_,
    fun n etag h_mem => ?_⟩
  · obtain ⟨h_mem, rfl⟩ := UploadSession.part_eq_some h_part
    exact (h_prescribed part h_mem).2.2
  · constructor
    · rintro ⟨etag, h_mem⟩
      have h_range := h_named (n, etag) h_mem
      simp only at h_range
      omega
    · intro h_range
      obtain ⟨⟨n', etag⟩, h_mem, rfl⟩ := List.mem_map.mp (h_all n (by omega))
      exact ⟨etag, h_mem⟩
  · have h_range := h_named (n, etag) h_mem
    simp only at h_range
    obtain ⟨part, h_part⟩ := (h_numbers n).mpr (by omega)
    refine ⟨part, h_part, ?_⟩
    have h_etag := h_etags (n, etag) h_mem
    simpa only [h_part, Option.map_some, Option.getD_some] using h_etag

/-- A session that this request takes to STAGED has its upload complete. -/
theorem uploadComplete_of_step {s s' : WorkspaceState} (h : WorkspaceReachable NoSessions s)
    (h_step : TxnSystem.Step workspaceSystem s s') {partBytes : ℕ}
    (h_uses : UsesPartBytes partBytes s.log) {i : ℕ} {uploadId : Uuid}
    {named : List (ℕ × String)} {partBytes' : ℕ} {storage : CompletionAnswer} {now : Time}
    {result : WorkspaceResult} (h_log : s'.log =
      .committed i (.importing (.complete uploadId named partBytes' storage now)) result :: s.log)
    {id : Uuid} {session session' : UploadSession} (h_find : s.db.sessions.find? id = some session)
    (h_find' : s'.db.sessions.find? id = some session') (h_before : session.status ≠ .staged)
    (h_after : session'.status = .staged) :
    id = uploadId ∧ session' = session.stage ∧ UploadComplete partBytes named session := by
  have h_tracked := partsTracked h
  obtain ⟨db, opened, log⟩ := s
  obtain ⟨db', opened', log'⟩ := s'
  obtain rfl := h_log
  have h_effect : DetailEffect db log db' _ :=
    TxnSystem.effect_of_step meets_parts (fun _ h_db => h_db.1) h h_step
  cases h_effect with
  | committed _ _ _ _ _ _ _ _ _ h_post h_begun =>
    obtain rfl : partBytes' = partBytes := h_uses _ _ h_begun
    cases h_post.1 with
    | importing _ _ _ _ h_import =>
      -- of the requests only a completion stages a session
      cases h_import with
      | completed _ _ _ _ _ answer _ _ h_changed =>
        cases h_changed with
        | unchanged =>
          -- nothing has changed, its status neither
          rw [h_find] at h_find'
          rw [← Option.some.inj h_find'] at h_after
          exact absurd h_after h_before
        | changed row hf h_row h_check =>
          have h_update := Table.find?_update db.sessions uploadId UploadSession.stage hf id
          rw [show (Table.update _ _ _ _).find? id = some session' from h_find'] at h_update
          by_cases h_id : id = uploadId
          · subst h_id
            rw [h_find] at h_row
            obtain rfl := Option.some.inj h_row
            rw [if_pos rfl, h_find] at h_update
            exact ⟨rfl, Option.some.inj h_update, uploadComplete_of_partsComplete
              (partsComplete_of_checkComplete h_check) (h_tracked.numbered id session h_find)
              (h_tracked.prescribed _ h_uses id session h_find)⟩
          · rw [if_neg h_id, h_find] at h_update
            rw [Option.some.inj h_update] at h_after
            exact absurd h_after h_before

/-- **Parts of an upload.** In every interleaving: a recorded part stays as it is; a part that was
acknowledged has the digest that was sent and is recorded, whatever else was uploaded at the same
time; a request that begins when its part is recorded ends as `RetryEnds` says; and an upload is
completed only when `UploadComplete` holds of what is recorded and what the client names. -/
theorem upload_parts {s : WorkspaceState} (h : WorkspaceReachable NoSessions s) :
    (∀ s' id n part, ReflTransGen (TxnSystem.Step workspaceSystem) s s' →
      Recorded s.db id n part → Recorded s'.db id n part) ∧
    (∀ i uploadId upload partBytes now part,
      .committed i (.importing (.uploadPart uploadId upload partBytes now))
        (.importing (.part (.ok part))) ∈ s.log →
      part.sha256 = upload.sha256 ∧ Recorded s.db uploadId upload.partNumber part) ∧
    (∀ s₁ s₂ i uploadId upload partBytes now part,
      Recorded s.db uploadId upload.partNumber part → s.opened i = none →
      ReflTransGen (TxnSystem.Step workspaceSystem) s s₁ →
      TxnSystem.Step workspaceSystem s₁ s₂ →
      RetryEnds s s₁ s₂ i uploadId upload partBytes now part) ∧
    ∀ s' partBytes i uploadId named partBytes' storage now result id session session',
      UsesPartBytes partBytes s.log → TxnSystem.Step workspaceSystem s s' →
      s'.log = .committed i (.importing (.complete uploadId named partBytes' storage now)) result
        :: s.log →
      s.db.sessions.find? id = some session → s'.db.sessions.find? id = some session' →
      session.status ≠ .staged → session'.status = .staged →
      id = uploadId ∧ session' = session.stage ∧ UploadComplete partBytes named session := by
  refine ⟨fun s' id n part h_run h_recorded => parts_kept h h_run h_recorded,
    (partsTracked h).acknowledged, ?_, ?_⟩
  · intro s₁ s₂ i uploadId upload partBytes now part h_recorded h_closed h_run h_step
    exact retryEnds h h_recorded partBytes now h_closed h_run h_step
  · intro s' partBytes i uploadId named partBytes' storage now result id session session' h_uses
      h_step h_log h_find h_find' h_before h_after
    exact uploadComplete_of_step h h_step h_uses h_log h_find h_find' h_before h_after

/-- The creation of a session, and its two parts, the second one first. -/
def twoParts : List (ℕ × WorkspaceRequest) :=
  let request : CreateImportRequest :=
    { clientRequestId := Uuid.repeated 5, assetId := none, assetName := some "customers"
      format := .csv, sizeBytes := 1040, fingerprint := "9c1e" }
  [(0, .importing (.create (Uuid.repeated 4) request 4096 (.multipart "m1") (Uuid.repeated 6) 0)),
    (2, .importing (.uploadPart (Uuid.repeated 6) ⟨2, 16, 16, "77aa", some "e2"⟩ 1024 1)),
    (1, .importing (.uploadPart (Uuid.repeated 6) ⟨1, 1024, 1024, "5f2b", some "e1"⟩ 1024 2))]

/-- What the client names when it completes them, one etag in quotes. -/
def namedTwo : List (ℕ × String) := [(1, "\"e1\""), (2, "e2")]

/-- Their completion. -/
def completeTwo : WorkspaceRequest :=
  .importing (.complete (Uuid.repeated 6) namedTwo 1024 (.completed 1040) 3)

theorem allowed_twoParts : workspaceSystem.SerialAllowed twoParts emptyWorkspace [] := by
  refine TxnSystem.serialAllowed_of_forall (fun x h_x log => ?_) _ _
  simp only [twoParts, List.mem_cons, List.not_mem_nil, or_false] at h_x
  rcases h_x with rfl | rfl | rfl <;> exact trivial

theorem usesPartBytes_twoParts (x : ℕ × WorkspaceRequest)
    (h_x : x ∈ twoParts ++ [(3, completeTwo)]) : x.2.UsesPartBytes 1024 := by
  simp only [twoParts, List.cons_append, List.nil_append, List.mem_cons, List.not_mem_nil,
    or_false] at h_x
  rcases h_x with rfl | rfl | rfl | rfl
  · exact trivial
  all_goals rfl

/-- Two parts are recorded, and the completion that names them stages the session. -/
theorem upload_parts_completed : ∃ s s' : WorkspaceState, ∃ session,
    WorkspaceReachable NoSessions s ∧ TxnSystem.Step workspaceSystem s s' ∧
      Recorded s.db (Uuid.repeated 6) 1 ⟨1, "e1", "5f2b", 1024⟩ ∧
      Recorded s.db (Uuid.repeated 6) 2 ⟨2, "e2", "77aa", 16⟩ ∧
      s.db.sessions.find? (Uuid.repeated 6) = some session ∧
      s'.db.sessions.find? (Uuid.repeated 6) = some session.stage ∧
      UploadComplete 1024 namedTwo session := by
  have h_serial : ∃ db log, workspaceSystem.serial twoParts emptyWorkspace [] = some (db, log) ∧
      Recorded db (Uuid.repeated 6) 1 ⟨1, "e1", "5f2b", 1024⟩ ∧
      Recorded db (Uuid.repeated 6) 2 ⟨2, "e2", "77aa", 16⟩ ∧
      ∃ session, db.sessions.find? (Uuid.repeated 6) = some session ∧ session.status = .uploading ∧
      ∃ result db', (workspaceSystem.program completeTwo).alone some db = some (result, db') ∧
        db'.sessions.find? (Uuid.repeated 6) = some session.stage :=
    ⟨_, _, rfl, ⟨_, rfl, rfl⟩, ⟨_, rfl, rfl⟩, _, rfl, rfl, _, _, rfl, rfl⟩
  obtain ⟨db, log, h_serial, h_first, h_second, session, h_find, h_status, result, db', h_alone,
    h_find'⟩ := h_serial
  obtain ⟨opened, h_run, h_step⟩ :=
    TxnSystem.commit_after_serial (i := 3) (r := completeTwo) allowed_twoParts h_serial trivial
      h_alone
  have h_reachable : WorkspaceReachable NoSessions _ :=
    ⟨_, ⟨⟨emptyWorkspace_wellFormed, rfl⟩, fun _ => rfl, rfl⟩, h_run⟩
  have h_uses : UsesPartBytes 1024 (.begun 3 completeTwo :: log) := by
    intro i request h_begun
    refine usesPartBytes_twoParts (i, request) (List.mem_append.mpr ?_)
    rcases List.mem_cons.mp h_begun with h_last | h_before
    · cases h_last
      exact .inr (List.mem_singleton_self _)
    · exact .inl ((TxnSystem.begun_of_serial h_serial h_before).resolve_left List.not_mem_nil)
  obtain ⟨-, -, -, h_completed⟩ := upload_parts h_reachable
  obtain ⟨-, -, h_complete⟩ := h_completed _ 1024 3 _ _ _ _ _ _ _ _ _ h_uses h_step rfl h_find
    h_find' (by rw [h_status]; decide) rfl
  exact ⟨_, _, session, h_reachable, h_step, h_first, h_second, h_find, h_find', h_complete⟩

/-- An upload of one part, from its creation to a retry of the part after the completion. -/
def retriedUpload : List (ℕ × WorkspaceRequest) :=
  let uploadId := Uuid.repeated 6
  let request : CreateImportRequest :=
    { clientRequestId := Uuid.repeated 5, assetId := none, assetName := some "customers"
      format := .csv, sizeBytes := 16, fingerprint := "9c1e" }
  let upload : PartUpload := ⟨1, 16, 16, "5f2b", some "e1"⟩
  [(0, .importing (.create (Uuid.repeated 4) request 1024 (.multipart "m1") uploadId 0)),
    (1, .importing (.uploadPart uploadId upload 1024 1)),
    (2, .importing (.complete uploadId [(1, "e1")] 1024 (.completed 16) 2)),
    (3, .importing (.uploadPart uploadId upload 1024 3))]

theorem allowed_retriedUpload (rs : List (ℕ × WorkspaceRequest)) (h_rs : rs <+: retriedUpload) :
    workspaceSystem.SerialAllowed rs emptyWorkspace [] := by
  refine TxnSystem.serialAllowed_of_forall (fun x h_x log => ?_) _ _
  have h_mem := h_rs.subset h_x
  simp only [retriedUpload, List.mem_cons, List.not_mem_nil, or_false] at h_mem
  rcases h_mem with rfl | rfl | rfl | rfl <;> exact trivial

/-- Not every retry with the same bytes returns the recorded part: after the completion it is
refused. -/
theorem retry_after_completion : ¬ ∀ (s : WorkspaceState) i j uploadId upload partBytes
    now now' part
    answer before, WorkspaceReachable NoSessions s →
      s.log = .committed j (.importing (.uploadPart uploadId upload partBytes now'))
        (.importing (.part answer))
          :: .begun j (.importing (.uploadPart uploadId upload partBytes now')) :: before →
      .committed i (.importing (.uploadPart uploadId upload partBytes now))
        (.importing (.part (.ok part))) ∈ before →
      answer = .ok part := by
  intro h_claim
  have h_serial : ∃ db e₁ e₂ before, workspaceSystem.serial retriedUpload emptyWorkspace [] =
      some (db, .committed 3 (.importing (.uploadPart (Uuid.repeated 6)
        ⟨1, 16, 16, "5f2b", some "e1"⟩ 1024 3)) (.importing (.part (.error (conflict
          "Cannot upload parts to session in status 'STAGED'." "IMPORT_STATE_CONFLICT"))))
        :: .begun 3 (.importing (.uploadPart (Uuid.repeated 6)
          ⟨1, 16, 16, "5f2b", some "e1"⟩ 1024 3))
        :: e₁ :: e₂ :: .committed 1 (.importing (.uploadPart (Uuid.repeated 6)
          ⟨1, 16, 16, "5f2b", some "e1"⟩ 1024 1)) (.importing (.part (.ok ⟨1, "e1", "5f2b", 16⟩)))
        :: before) := ⟨_, _, _, _, rfl⟩
  obtain ⟨db, e₁, e₂, before, h_serial⟩ := h_serial
  have h_run := TxnSystem.run_serial (allowed_retriedUpload _ List.prefix_rfl) h_serial
  have h_answer := h_claim _ 1 3 _ _ _ 1 _ _ _ _
    ⟨_, ⟨⟨emptyWorkspace_wellFormed, rfl⟩, fun _ => rfl, rfl⟩, h_run⟩ rfl
    (List.mem_cons_of_mem _ (List.mem_cons_of_mem _ List.mem_cons_self))
  cases h_answer

end DqScoring
