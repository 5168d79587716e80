import DqScoring.Imports.SessionLifecycle

/-!
# The parts of an upload

`upload_part` holds the advisory lock of its session and part from its first statement to its
end, reads the session without the lock of its row, and records the part with an UPDATE of
whatever the row has become. The advisory lock is what makes this safe: it protects the entry
of its part in the manifest (`PartSame`), which the lock of the row alone does not.

A recorded part stays as it is (`parts_kept`), every part that was acknowledged is recorded,
a request on a recorded part answers from the record, and an upload is completed only from
the parts that its size prescribes (`upload_parts`).
-/

namespace DqScoring

open Framework Relation

/-! ### The entry of a part -/

namespace UploadSession

/-- A part is found under its number. -/
theorem part_eq_some {session : UploadSession} {n : ℕ} {part : UploadPart}
    (h : session.part n = some part) : part ∈ session.manifest.parts ∧ part.partNumber = n := by
  have h_number := List.find?_some h
  exact ⟨List.mem_of_find?_eq_some h, of_decide_eq_true h_number⟩

/-- A number has a part when the manifest lists it. -/
theorem part_isSome_iff {session : UploadSession} {n : ℕ} :
    (∃ part, session.part n = some part) ↔
      n ∈ session.manifest.parts.map UploadPart.partNumber := by
  constructor
  · rintro ⟨part, h_part⟩
    obtain ⟨h_mem, rfl⟩ := part_eq_some h_part
    exact List.mem_map_of_mem h_mem
  · intro h_mem
    obtain ⟨part, h_part, rfl⟩ := List.mem_map.mp h_mem
    refine Option.isSome_iff_exists.mp (List.find?_isSome.mpr ⟨part, h_part, ?_⟩)
    exact decide_eq_true rfl

/-- Recording a part sets its entry, and no other. -/
theorem part_recordPart (part : UploadPart) (session : UploadSession) (n : ℕ) :
    (session.recordPart part).part n =
      if n = part.partNumber then some part else session.part n := by
  show ((session.manifest.parts.filter fun p => decide (p.partNumber ≠ part.partNumber)) ++
    [part]).find? (fun p => decide (p.partNumber = n)) = _
  rw [List.find?_append, List.find?_filter]
  split
  · rename_i h_n
    rw [List.find?_eq_none.mpr, Option.none_or, List.find?_singleton, if_pos (by simp [h_n])]
    simp [h_n]
  · rename_i h_n
    have h_other : (fun p : UploadPart => decide (decide (p.partNumber ≠ part.partNumber) = true ∧
        decide (p.partNumber = n) = true)) = fun p => decide (p.partNumber = n) := by
      funext p
      by_cases h_p : p.partNumber = n <;> simp [h_p, h_n]
    rw [h_other, List.find?_singleton, if_neg (by simp [Ne.symm h_n]), Option.or_none]
    rfl

end UploadSession

/-- Part `n` of a session is recorded, as this part. -/
def Recorded (db : Workspace) (uploadId : Uuid) (n : ℕ) (part : UploadPart) : Prop :=
  ∃ session, db.sessions.find? uploadId = some session ∧ session.part n = some part

/-- What the advisory lock of a part protects: its entry, recorded or not. -/
def PartSame : RowLock → Workspace → Workspace → Prop
  | .part uploadId n, db, db' => ∀ session, db.sessions.find? uploadId = some session →
      ∃ session', db'.sessions.find? uploadId = some session' ∧
        session'.sizeBytes = session.sizeBytes ∧ session'.part n = session.part n
  | _, _, _ => True

theorem PartSame.refl (l : RowLock) (db : Workspace) : PartSame l db db := by
  cases l with
  | part => exact fun session h_find => ⟨session, h_find, rfl, rfl⟩
  | _ => trivial

/-- What a part's lock protects stays the same over two moves. -/
theorem PartSame.trans {l : RowLock} {db₁ db₂ db₃ : Workspace} (h : PartSame l db₁ db₂)
    (h' : PartSame l db₂ db₃) : PartSame l db₁ db₃ := by
  cases l with
  | part =>
    intro session h_find
    obtain ⟨session₂, h_find₂, h_size₂, h_part₂⟩ := h session h_find
    obtain ⟨session₃, h_find₃, h_size₃, h_part₃⟩ := h' session₂ h_find₂
    exact ⟨session₃, h_find₃, h_size₃.trans h_size₂, h_part₃.trans h_part₂⟩
  | _ => trivial

/-- The row locks of a workspace, and the advisory locks of the parts. -/
def partDiscipline : Discipline Workspace RowLock :=
  workspaceDiscipline.withSame PartSame PartSame.refl PartSame.trans

/-! ### Uploads -/

/-- The number and the length that a size prescribes for a part. -/
def Prescribed (partBytes sizeBytes n length : ℕ) : Prop :=
  1 ≤ n ∧ n ≤ max 1 ((sizeBytes + partBytes - 1) / partBytes) ∧
    length = min partBytes (sizeBytes - (n - 1) * partBytes)

/-- A part that passes its checks has the prescribed number and size. -/
theorem prescribed_of_checkPart {session : UploadSession} {upload : PartUpload} {partBytes : ℕ}
    {now : Time} (h : checkPart session upload partBytes now = none) :
    Prescribed partBytes session.sizeBytes upload.partNumber upload.receivedBytes := by
  unfold checkPart at h
  -- one check after the other has passed
  simp only at h
  split at h
  · cases h
  split at h
  · cases h
  split at h
  · cases h
  split at h
  · cases h
  rename_i h_range
  split at h
  · cases h
  split at h
  · cases h
  rename_i h_length
  split at h
  · cases h
  split at h
  · cases h
  rename_i h_received
  rw [not_or, not_lt, not_lt] at h_range
  refine ⟨h_range.1, h_range.2, ?_⟩
  rw [not_not.mp h_received, not_not.mp h_length]

/-- What `upload_part` commits: nothing, or the part where none was recorded. -/
inductive PartAnswered (uploadId : Uuid) (upload : PartUpload) (partBytes : ℕ) (db : Workspace) :
    Except ImportProblem UploadPart → Workspace → Prop
  | refused (problem) : PartAnswered uploadId upload partBytes db (.error problem) db
  | replayed (part) : Recorded db uploadId upload.partNumber part → part.sha256 = upload.sha256 →
      PartAnswered uploadId upload partBytes db (.ok part) db
  | recorded (session part) : db.sessions.find? uploadId = some session →
      session.part upload.partNumber = none → part.partNumber = upload.partNumber →
      part.sha256 = upload.sha256 →
      Prescribed partBytes session.sizeBytes part.partNumber part.sizeBytes →
      PartAnswered uploadId upload partBytes db (.ok part)
        (db.updateSession uploadId (UploadSession.recordPart part) (keepsUploadId_recordPart part))

section Uploads

variable {held : List RowLock} {db db' : Workspace} {uploadId : Uuid} {n : ℕ}

/-- Under its lock a part stays as it was read. -/
theorem rely_part (h : partDiscipline.rely held db db') (h_held : .part uploadId n ∈ held)
    {session : UploadSession} (h_find : db.sessions.find? uploadId = some session) :
    ∃ session', db'.sessions.find? uploadId = some session' ∧
      session'.sizeBytes = session.sizeBytes ∧ session'.part n = session.part n :=
  (h.same (.part uploadId n) h_held).2 session h_find

/-- Recording a part changes no entry but the locked one. -/
theorem guarantee_recordPart (h_inv : db.WellFormed) (part : UploadPart)
    (h_session : .session uploadId ∈ held) (h_part : .part uploadId part.partNumber ∈ held) :
    partDiscipline.guarantee held db (db.updateSession uploadId (UploadSession.recordPart part)
      (keepsUploadId_recordPart part)) := by
  have h_guarantee := guarantee_updateSession h_inv h_session (keepsUploadId_recordPart part)
  refine h_guarantee.withSame fun l hl => ?_
  cases l with
  | part uploadId' n =>
    intro session h_find
    have h_find' : (db.updateSession uploadId (UploadSession.recordPart part)
        (keepsUploadId_recordPart part)).sessions.find? uploadId' =
          if uploadId' = uploadId then (db.sessions.find? uploadId).map
            (UploadSession.recordPart part) else db.sessions.find? uploadId' :=
      Table.find?_update _ _ _ (keepsUploadId_recordPart part) _
    rw [h_find']
    by_cases h_id : uploadId' = uploadId
    · subst h_id
      rw [if_pos rfl, h_find]
      refine ⟨session.recordPart part, rfl, rfl, ?_⟩
      rw [UploadSession.part_recordPart, if_neg]
      rintro rfl
      exact hl h_part
    · rw [if_neg h_id]
      exact ⟨session, h_find, rfl, rfl⟩
  | _ => trivial

/-- An upload answers for its own part, from the table or anew. -/
theorem meets_uploadPart_answered (uploadId : Uuid) (upload : PartUpload) (partBytes : ℕ)
    (now : Time) :
    partDiscipline.Meets (uploadPart uploadId upload partBytes now)
      fun answer db db' => PartAnswered uploadId upload partBytes db answer db' := by
  intro db h_inv
  simp only [uploadPart, Discipline.wp_bind, Discipline.wp_forUpdate, Discipline.wp_select]
  rintro db₁ h₁ db₂ h₂ view ⟨⟩
  have h_inv₂ := h₂.inv (h₁.inv h_inv)
  -- a refusal changes nothing
  have h_refused : ∀ problem, partDiscipline.commits
      (fun answer db db' => PartAnswered uploadId upload partBytes db answer db')
        (.error problem) [RowLock.part uploadId upload.partNumber] some db₂ := by
    rintro problem db₃ h₃ db' ⟨⟩
    exact ⟨.refl _ (h₃.inv h_inv₂), .refused problem⟩
  cases h_find : db₂.sessions.find? uploadId with
  -- there is no such session
  | none => exact h_refused _
  | some session =>
    cases h_check : checkPart session upload partBytes now with
    | some problem =>
      simp only [h_check]
      exact h_refused _
    | none =>
      simp only [h_check]
      cases h_entry : session.part upload.partNumber with
      | some existing =>
        -- the part is there: the digests decide between replay and refusal
        show partDiscipline.wp (ite _ _ _) _ _ _ _
        split
        · rename_i h_same
          rintro db₃ h₃ db' ⟨⟩
          -- the entry is locked, so it is still the one that was read
          obtain ⟨session₃, h_find₃, -, h_entry₃⟩ := rely_part h₃ List.mem_cons_self h_find
          exact ⟨.refl _ (h₃.inv h_inv₂), .replayed existing
            ⟨session₃, h_find₃, h_entry₃.trans h_entry⟩ h_same⟩
        · exact h_refused _
      | none =>
        -- the part is new, and its entry is locked until the commit
        cases upload.etag with
        | none => exact Discipline.wp_raise _
        | some etag =>
          simp only [recordPart, Discipline.wp_bind, Discipline.wp_forUpdate, Discipline.wp_exec]
          rintro db₃ h₃ db₄ h₄ db₅ h₅ db' ⟨⟩
          have h_inv₅ := h₅.inv (h₄.inv (h₃.inv h_inv₂))
          have h_part : RowLock.part uploadId upload.partNumber ∈
              [RowLock.part uploadId upload.partNumber, .part uploadId upload.partNumber] :=
            List.mem_cons_self
          have h_part' := List.mem_cons_of_mem (RowLock.session uploadId) h_part
          -- each statement has read the same entry, as the lock was held throughout
          obtain ⟨session₃, h_find₃, h_size₃, h_entry₃⟩ := rely_part h₃ List.mem_cons_self h_find
          obtain ⟨session₄, h_find₄, h_size₄, h_entry₄⟩ := rely_part h₄ h_part h_find₃
          obtain ⟨session₅, h_find₅, h_size₅, h_entry₅⟩ := rely_part h₅ h_part' h_find₄
          refine ⟨guarantee_recordPart h_inv₅ _ List.mem_cons_self h_part',
            .recorded session₅ _ h_find₅ ?_ rfl rfl ?_⟩
          · rw [h_entry₅, h_entry₄, h_entry₃, h_entry]
          · have h_prescribed := prescribed_of_checkPart h_check
            rwa [h_size₅, h_size₄, h_size₃]

end Uploads

/-! ### The other requests -/

/-- More on what the commit of a request does: an upload is as `PartAnswered` says, a creation
inserts the session of its request, and a processing fails a session with one of two codes. -/
def DetailPost : WorkspaceRequest → WorkspaceResult → Workspace → Workspace → Prop
  | .importing (.uploadPart uploadId upload partBytes _), .importing (.part answer), db, db' =>
    PartAnswered uploadId upload partBytes db answer db'
  | .importing (.create userId req maxBytes storage uploadId now), .importing (.session answer),
      db, db' => SessionInserted userId req maxBytes storage uploadId now db answer db'
  | .importing (.process _ _ _ _), .importing (.processed ended _), _, _ => ended.HasCode
  | _, _, _, _ => True

/-- A move of a session keeps its size, and all its parts unless it records one. -/
theorem SessionMove.parts {request : ImportRequest} {result : ImportResult}
    {session session' : UploadSession} (h : SessionMove request result session session') :
    session'.sizeBytes = session.sizeBytes ∧
      ((∀ uploadId upload partBytes now, request ≠ .uploadPart uploadId upload partBytes now) →
        session'.manifest.parts = session.manifest.parts) := by
  cases h with
  | recorded uploadId upload partBytes now => exact ⟨rfl, fun h_not => absurd rfl (h_not _ _ _ _)⟩
  | processed _ _ _ _ _ ended => cases ended <;> exact ⟨rfl, fun _ => rfl⟩
  | _ => exact ⟨rfl, fun _ => rfl⟩

/-- A request that uploads no part changes no entry. -/
theorem partSame_of_post {request : WorkspaceRequest} {result : WorkspaceResult}
    {db db' : Workspace} (h : WorkspacePost request result db db')
    (h_not : ∀ uploadId upload partBytes now,
      request ≠ .importing (.uploadPart uploadId upload partBytes now)) (l : RowLock) :
    PartSame l db db' := by
  cases l with
  | part uploadId n =>
    intro session h_find
    rcases sessions_of_post h with ⟨r, a, rfl, rfl, h_change⟩ | ⟨-, h_sessions⟩
    · obtain ⟨session', h_find', rfl | h_move⟩ := h_change.find? h_find
      · exact ⟨_, h_find', rfl, rfl⟩
      · obtain ⟨h_size, h_parts⟩ := h_move.parts
        refine ⟨session', h_find', h_size, ?_⟩
        have h_same := h_parts fun uploadId upload partBytes now h_eq =>
          h_not uploadId upload partBytes now (congrArg _ h_eq)
        rw [UploadSession.part, h_same]
        rfl
    · rw [h_sessions]
      exact ⟨session, h_find, rfl, rfl⟩
  | _ => trivial

/-- An answered upload did what the coarser contract says. -/
theorem PartAnswered.uploaded {uploadId : Uuid} {upload : PartUpload} {partBytes : ℕ}
    {db db' : Workspace} {answer : Except ImportProblem UploadPart}
    (h : PartAnswered uploadId upload partBytes db answer db') :
    PartUploaded uploadId db answer db' := by
  cases h with
  | refused problem => exact .answered _
  | replayed part => exact .answered _
  | recorded session part => exact .recorded part

/-- Each request keeps its contract, parts included. -/
theorem meets_parts (request : WorkspaceRequest) :
    partDiscipline.Meets (workspaceSystem.program request)
      fun result db db' => WorkspacePost request result db db' ∧
        DetailPost request result db db' := by
  have h_post := meets_workspace request
  -- for the other requests the coarser contract is all that is asked
  have h_other : (∀ uploadId upload partBytes now,
      request ≠ .importing (.uploadPart uploadId upload partBytes now)) →
      partDiscipline.Meets (workspaceSystem.program request) (WorkspacePost request) :=
    fun h_not => h_post.withSame fun _ _ _ h => partSame_of_post h h_not
  have h_trivial : (∀ uploadId upload partBytes now,
      request ≠ .importing (.uploadPart uploadId upload partBytes now)) →
      (∀ result db db', DetailPost request result db db') →
      partDiscipline.Meets (workspaceSystem.program request)
        fun result db db' => WorkspacePost request result db db' ∧
          DetailPost request result db db' :=
    fun h_not h_true => (h_other h_not).mono fun _ _ _ h => ⟨h, h_true _ _ _⟩
  cases request with
  | importing request =>
    cases request with
    | uploadPart uploadId upload partBytes now =>
      -- the upload of a part answers for the part
      have h_answer : partDiscipline.Meets
          (ImportRequest.program (.uploadPart uploadId upload partBytes now)) fun result db db' =>
            ∃ answer, result = .part answer ∧
              PartAnswered uploadId upload partBytes db answer db' :=
        (meets_uploadPart_answered uploadId upload partBytes now).andThen
          fun answer _ _ h => ⟨answer, rfl, h⟩
      refine h_answer.andThen fun result db db' h_result => ?_
      obtain ⟨answer, rfl, h_answered⟩ := h_result
      exact ⟨.importing _ _ _ _ (.partUploaded _ _ _ _ _ _ _ h_answered.uploaded), h_answered⟩
    | create userId req maxBytes storage uploadId now =>
      -- creating a session says what it inserts
      have h_inserted : workspaceDiscipline.Meets
          (ImportRequest.program (.create userId req maxBytes storage uploadId now))
            fun result db db' => ∃ answer, result = .session answer ∧
              SessionInserted userId req maxBytes storage uploadId now db answer db' :=
        (meets_createImportSession_inserted userId req maxBytes storage uploadId now).andThen
          fun answer _ _ h => ⟨answer, rfl, h⟩
      have h_part : workspaceDiscipline.Meets (workspaceSystem.program
          (.importing (.create userId req maxBytes storage uploadId now)))
            (DetailPost (.importing (.create userId req maxBytes storage uploadId now))) := by
        refine h_inserted.andThen fun result db db' h_result => ?_
        obtain ⟨answer, rfl, h_answered⟩ := h_result
        exact h_answered
      exact (h_post.and h_part).withSame fun _ _ _ h =>
        partSame_of_post h.1 fun _ _ _ _ h_eq => by cases h_eq
    | process workerId claim outcome dbNow =>
      -- processing says with which error code it ends
      have h_ended : workspaceDiscipline.Meets
          (ImportRequest.program (.process workerId claim outcome dbNow)) fun result _ _ =>
            ∃ ended isRecorded, result = .processed ended isRecorded ∧ ended.HasCode :=
        (meets_processSession_code workerId claim outcome dbNow).andThen
          fun ended _ _ h => ⟨ended.1, ended.2, rfl, h.2⟩
      have h_code : workspaceDiscipline.Meets (workspaceSystem.program
          (.importing (.process workerId claim outcome dbNow)))
            (DetailPost (.importing (.process workerId claim outcome dbNow))) := by
        refine h_ended.andThen fun result db db' h_result => ?_
        obtain ⟨ended, isRecorded, rfl, h_ended⟩ := h_result
        exact h_ended
      exact (h_post.and h_code).withSame fun _ _ _ h =>
        partSame_of_post h.1 fun _ _ _ _ h_eq => by cases h_eq
    | _ => exact h_trivial (fun _ _ _ _ h => by cases h) fun _ _ _ => trivial
  | _ => exact h_trivial (fun _ _ _ _ h => by cases h) fun _ _ _ => trivial

/-- What a step does to the committed workspace and the log, in detail. -/
abbrev DetailEffect : Workspace → List WorkspaceEvent → Workspace → List WorkspaceEvent → Prop :=
  TxnSystem.Effect partDiscipline
    (fun request result db db' => WorkspacePost request result db db' ∧
      DetailPost request result db db')
    WorkspaceRequest.allowed

/-! ### New sessions -/

/-- A request that creates no session updates one, or none. -/
theorem sessionsUpdated_of_post {request : ImportRequest} {result : ImportResult}
    {db db' : Workspace} (h : ImportPost request result db db')
    (h_create : ∀ userId req maxBytes storage uploadId now,
      request ≠ .create userId req maxBytes storage uploadId now)
    (h_migrate : ∀ m now ids, request ≠ .migrate m now ids) :
    db'.sessions = db.sessions ∨
      ∃ id f, ∃ hf : KeepsUploadId f, db'.sessions = db.sessions.update id f hf := by
  cases h with
  | created => exact absurd rfl (h_create _ _ _ _ _ _)
  | partUploaded _ _ _ _ _ _ _ h_uploaded =>
    -- a part goes into its own session
    cases h_uploaded with
    | answered => exact .inl rfl
    | recorded part => exact .inr ⟨_, _, keepsUploadId_recordPart part, rfl⟩
  | completed _ _ _ _ _ _ _ _ h_changed =>
    cases h_changed with
    | unchanged => exact .inl rfl
    | changed _ hf => exact .inr ⟨_, _, hf, rfl⟩
  | configured _ _ _ _ _ _ h_changed =>
    cases h_changed with
    | unchanged => exact .inl rfl
    | changed _ hf => exact .inr ⟨_, _, hf, rfl⟩
  | aborted _ _ _ _ _ h_changed =>
    cases h_changed with
    | unchanged => exact .inl rfl
    | changed _ hf => exact .inr ⟨_, _, hf, rfl⟩
  | claimed _ _ _ _ _ _ _ _ h_claimed =>
    -- a claim changes the session it takes
    cases h_claimed with
    | nothing => exact .inl rfl
    | taken => exact .inr ⟨_, _, keepsUploadId_claimedSession _ _ _, rfl⟩
  | extended _ _ _ _ _ _ _ _ _ h_updated =>
    cases h_updated with
    | lost => exact .inl rfl
    | updated _ hf => exact .inr ⟨_, _, hf, rfl⟩
  | processed _ _ _ _ _ _ _ _ h_processed =>
    -- the rules may be seeded, which the sessions do not see
    have h_updated := h_processed.fenced
    have h_initialized : db.initialized.sessions = db.sessions := by
      rw [initialized_frame db]
    rw [← h_initialized]
    cases h_updated with
    | lost => exact .inl rfl
    | updated _ hf => exact .inr ⟨_, _, hf, rfl⟩
  | registered _ _ _ _ _ _ _ h_registered =>
    -- registration links the session to its snapshot
    rcases sessions_of_registered h_registered with ⟨h_kept, -⟩ | ⟨_, _, _, -, -, -, h_eq⟩
    · exact .inl h_kept
    · exact .inr ⟨_, _, keepsUploadId_register _ _, h_eq⟩
  | migrated => exact absurd rfl (h_migrate _ _ _)

/-- A session that nobody has worked on. -/
structure FreshSession (session : UploadSession) : Prop where
  parts : session.manifest.parts = []
  mapping : session.manifest.columnNamesMapping = none
  errorReason : session.errorReason = none
  attemptCount : session.attemptCount = 0

/-- A session that was not there is a new one. -/
theorem fresh_of_post {request : WorkspaceRequest} {result : WorkspaceResult} {db db' : Workspace}
    (h : WorkspacePost request result db db') (h_detail : DetailPost request result db db')
    {id : Uuid} {session' : UploadSession} (h_none : db.sessions.find? id = none)
    (h_find : db'.sessions.find? id = some session') : FreshSession session' := by
  -- where there is no session there, an update makes none
  have h_updated : ∀ {sessions : Table UploadSession.uploadId}, sessions.find? id = none →
      db'.sessions = sessions ∨ (∃ id' f, ∃ hf : KeepsUploadId f,
        db'.sessions = sessions.update id' f hf) → False := by
    intro sessions h_none' h_kept
    rcases h_kept with h_eq | ⟨id', f, hf, h_eq⟩
    · rw [h_eq, h_none'] at h_find
      cases h_find
    · rw [h_eq, Table.find?_update] at h_find
      split at h_find
      · rename_i h_id
        rw [← h_id, h_none'] at h_find
        cases h_find
      · rw [h_none'] at h_find
        cases h_find
  have h_initialized : db.initialized.sessions = db.sessions := by
    rw [initialized_frame db]
  cases h with
  | rule _ _ _ _ h_rule => exact (h_updated h_none (.inl (by rw [h_rule.frame]))).elim
  | scan _ _ _ _ h_scan => exact (h_updated h_none (.inl (by rw [h_scan.frame]))).elim
  | protection _ _ _ _ h_protection =>
    exact (h_updated h_none (.inl (by rw [h_protection.frame]))).elim
  | importing request _ _ _ h_import =>
    have h_kept := sessionsUpdated_of_post h_import
    cases h_import with
    | created userId req maxBytes storage uploadId now answer _ _ h_created =>
      have h_inserted : SessionInserted userId req maxBytes storage uploadId now db answer db' :=
        h_detail
      cases h_inserted with
      | answered => exact (h_updated h_none (.inl h_initialized)).elim
      | inserted staged rows _ h_rows =>
        rw [show Workspace.sessions { db.initialized with sessions := rows } = rows from rfl,
          Table.find?_of_insert h_rows] at h_find
        split at h_find
        · rw [← Option.some.inj h_find]
          exact ⟨rfl, rfl, rfl, rfl⟩
        · rw [h_none] at h_find
          cases h_find
    | migrated m now ids snapshot _ _ h_migrated =>
      -- a migration inserts a session and links it at once
      obtain ⟨rows, h_rows, h_registered⟩ := h_migrated
      have h_inserted := Table.find?_of_insert h_rows id
      rcases sessions_of_registered h_registered with ⟨h_kept, -⟩ | ⟨session, assetId, snapshot', -,
        -, -, h_eq⟩
      · rw [h_kept, show Workspace.sessions { db with sessions := rows } = rows from rfl,
          h_inserted] at h_find
        split at h_find
        · rw [← Option.some.inj h_find]
          exact ⟨rfl, rfl, rfl, rfl⟩
        · rw [h_none] at h_find
          cases h_find
      · rw [h_eq, Table.find?_update, show Workspace.sessions { db with sessions := rows } = rows
          from rfl] at h_find
        split at h_find
        · rename_i h_id
          have h_row : rows.find? m.uploadId = some (m.session now) := by
            rw [← h_id, h_inserted]
            exact if_pos h_id
          rw [h_row] at h_find
          rw [← Option.some.inj h_find]
          exact ⟨rfl, rfl, rfl, rfl⟩
        · rename_i h_id
          have h_row : rows.find? id = none := by
            rw [h_inserted, h_none]
            exact if_neg h_id
          rw [h_row] at h_find
          cases h_find
    | _ =>
      exact (h_updated h_none (h_kept (fun _ _ _ _ _ _ h_eq => by cases h_eq)
        fun _ _ _ h_eq => by cases h_eq)).elim

end DqScoring
