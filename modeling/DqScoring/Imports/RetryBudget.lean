import DqScoring.Imports.PartSteps
import DqScoring.Privacy.LatestScan

/-!
# The retries of a session

`claim_next_session` counts every claim of a session and fails the session when a fourth one is
due. The count is never taken back: neither by a processing that records its result nor by a
reconfiguration, which sends a verified or rejected session back to STAGED.

`RetryRun` follows a run together with the claims of a session since it last entered STAGED. A
session that was never reconfigured is given up only after three of them that recorded nothing.
A session that was reconfigured is given up too early whenever it is given up (`retryBudget_iff`).
-/

namespace DqScoring

open Framework Relation

/-! ### The claims since a session entered STAGED -/

/-- The claim of a session that an event hands out. -/
def claimMade (id : Uuid) (e : WorkspaceEvent) : Option SessionClaim :=
  ((sessionClaimOf e).map Prod.snd).filter fun claim => decide (claim.uploadId = id)

/-- The status of a session. -/
def Workspace.statusOf (db : Workspace) (id : Uuid) : Option SessionStatus :=
  (db.sessions.find? id).map UploadSession.status

/-- The claims of a session since it last entered STAGED, newest first, after one more step. -/
def claimsAfter (id : Uuid) (s s' : WorkspaceState) (claims : List SessionClaim) :
    List SessionClaim :=
  if s'.db.statusOf id = some .staged ∧ s.db.statusOf id ≠ some .staged then []
  else (s'.log.take (s'.log.length - s.log.length)).filterMap (claimMade id) ++ claims

/-- A run whose commits meet a condition, with the claims of a session since it last entered
STAGED. -/
inductive RetryRun (P : Workspace → WorkspaceRequest → Prop) (id : Uuid) :
    WorkspaceState → List SessionClaim → Prop
  | initial {s} : TxnSystem.Initial NoSessions s → RetryRun P id s []
  | step {s s' claims} : RetryRun P id s claims → TxnSystem.StepIf workspaceSystem P s s' →
      RetryRun P id s' (claimsAfter id s s' claims)

/-- The claims that have recorded no result. -/
def unrecordedClaims (id : Uuid) (log : List WorkspaceEvent) (claims : List SessionClaim) :
    List SessionClaim :=
  claims.filter fun claim => log.all fun e => !recordsEnd id claim.leaseGeneration e

/-- The session was failed because its retries are used up. -/
def UploadSession.IsExhausted (session : UploadSession) : Prop :=
  session.status = .failed ∧ session.errorReason = some "IMPORT_RETRY_EXHAUSTED"

/-- No session that has been reconfigured is claimed when its count of attempts has reached its
end. -/
def KeepsBudget (db : Workspace) : WorkspaceRequest → Prop
  | .importing (.claim _ uploadId now dbNow _) => ∀ session,
      db.sessions.find? uploadId = some session → session.isClaimable dbNow →
      session.isExpired now = false → 3 ≤ session.attemptCount →
      session.manifest.columnNamesMapping = none
  | _ => True

/-- A run that counts claims is a run of the workspace. -/
theorem reachable_of_retryRun {P : Workspace → WorkspaceRequest → Prop} {id : Uuid}
    {s : WorkspaceState} {claims : List SessionClaim} (h : RetryRun P id s claims) :
    WorkspaceReachable NoSessions s := by
  induction h with
  | initial h_initial => exact ⟨_, h_initial, .refl⟩
  | step _ h_step ih => exact ih.run (.single h_step.1)

/-- Every run has its claims. -/
theorem retryRun_of_reachable {P : Workspace → WorkspaceRequest → Prop} (id : Uuid)
    {s : WorkspaceState}
    (h : Reachable (TxnSystem.Initial NoSessions) (TxnSystem.StepIf workspaceSystem P) s) :
    ∃ claims, RetryRun P id s claims := by
  obtain ⟨s₀, h_initial, h_run⟩ := h
  induction h_run with
  | refl => exact ⟨[], .initial h_initial⟩
  | tail _ h_step ih =>
    obtain ⟨claims, h_claims⟩ := ih
    exact ⟨_, h_claims.step h_step⟩

section After

variable {id : Uuid} {s s' : WorkspaceState} {claims : List SessionClaim} {e : WorkspaceEvent}

/-- A step that writes no event claims nothing. -/
theorem claimsAfter_of_log_eq (h_db : s'.db = s.db) (h_log : s'.log = s.log) :
    claimsAfter id s s' claims = claims := by
  rw [claimsAfter, h_db, h_log, if_neg fun h => h.2 h.1, Nat.sub_self, List.take_zero]
  rfl

/-- An event claims what it grants, and a session that is staged again starts afresh. -/
theorem claimsAfter_of_cons (h_log : s'.log = e :: s.log) :
    claimsAfter id s s' claims =
      if s'.db.statusOf id = some .staged ∧ s.db.statusOf id ≠ some .staged then []
      else (claimMade id e).toList ++ claims := by
  have h_new : s'.log.take (s'.log.length - s.log.length) = [e] := by
    rw [h_log, List.length_cons, Nat.add_sub_cancel_left]
    rfl
  rw [claimsAfter, h_new]
  cases h_claim : claimMade id e <;> simp [h_claim]

end After

/-- The status of a session that is there. -/
theorem statusOf_of_find? {db : Workspace} {id : Uuid} {session : UploadSession}
    (h : db.sessions.find? id = some session) : db.statusOf id = some session.status := by
  rw [Workspace.statusOf, h]
  rfl

/-! ### The invariant -/

/-- What a session has behind it: its claims before and since it last entered STAGED. -/
structure RetryTracked (id : Uuid) (log : List WorkspaceEvent) (claims : List SessionClaim)
    (session : UploadSession) : Prop where
  /-- A reconfigured session was claimed before it entered STAGED. -/
  counted : ∃ earlier, session.attemptCount = earlier + claims.length ∧
    (earlier = 0 ↔ session.manifest.columnNamesMapping = none)
  bounded : session.attemptCount ≤ 3
  unclaimed : session.status = .initiated ∨ session.status = .uploading → session.attemptCount = 0
  claimed : session.status = .verifying ∨ session.status = .verified ∨ session.status = .rejected →
    1 ≤ session.attemptCount
  generations : ∀ claim ∈ claims, claim.leaseGeneration ≤ session.leaseGeneration
  unrecorded : session.status = .staged ∨ session.status = .verifying ∨ session.IsExhausted →
    ∀ claim ∈ claims, ∀ e ∈ log, recordsEnd id claim.leaseGeneration e = false
  exhausted : session.IsExhausted → session.attemptCount = 3

namespace RetryTracked

variable {id : Uuid} {log : List WorkspaceEvent} {claims : List SessionClaim}
  {session session' : UploadSession} {e : WorkspaceEvent}

/-- A session that nobody has worked on. -/
theorem of_fresh (h : FreshSession session)
    (h_status : session.status = .staged ∨ session.status = .initiated ∨
      session.status = .registered)
    (log : List WorkspaceEvent) : RetryTracked id log [] session where
  counted := ⟨0, h.attemptCount, fun _ => h.mapping, fun _ => rfl⟩
  bounded := by rw [h.attemptCount]; exact Nat.zero_le 3
  unclaimed _ := h.attemptCount
  claimed h_claimed := by
    rcases h_status with h_status | h_status | h_status <;> simp [h_status] at h_claimed
  generations _ h_mem := by cases h_mem
  unrecorded _ _ h_mem := by cases h_mem
  exhausted h_exhausted := by
    rw [UploadSession.IsExhausted, h.errorReason] at h_exhausted
    cases h_exhausted.2

/-- A step that neither claims the session nor stages it. -/
theorem quiet (h : RetryTracked id log claims session)
    (h_attempts : session'.attemptCount = session.attemptCount)
    (h_mapping : session'.manifest.columnNamesMapping = session.manifest.columnNamesMapping)
    (h_generation : session'.leaseGeneration = session.leaseGeneration)
    (h_unclaimed : session'.status = .initiated ∨ session'.status = .uploading →
      session.status = .initiated ∨ session.status = .uploading)
    (h_claimed : session'.status = .verifying ∨ session'.status = .verified ∨
      session'.status = .rejected → 1 ≤ session.attemptCount)
    (h_unrecorded : session'.status = .staged ∨ session'.status = .verifying ∨
        session'.IsExhausted →
      (session.status = .staged ∨ session.status = .verifying ∨ session.IsExhausted) ∧
        ∀ generation, recordsEnd id generation e = false)
    (h_exhausted : session'.IsExhausted → session.attemptCount = 3) :
    RetryTracked id (e :: log) claims session' where
  counted := by
    rw [h_attempts, h_mapping]
    exact h.counted
  bounded := by
    rw [h_attempts]
    exact h.bounded
  unclaimed h_status := h_attempts.trans (h.unclaimed (h_unclaimed h_status))
  claimed h_status := by
    rw [h_attempts]
    exact h_claimed h_status
  generations := by
    rw [h_generation]
    exact h.generations
  unrecorded h_status claim h_mem e' h_e' := by
    obtain ⟨h_before, h_new⟩ := h_unrecorded h_status
    rcases List.mem_cons.mp h_e' with rfl | h_old
    · exact h_new _
    · exact h.unrecorded h_before claim h_mem e' h_old
  exhausted h_status := h_attempts.trans (h_exhausted h_status)

/-- An event that does nothing to the session. -/
theorem cons (h : RetryTracked id log claims session)
    (h_new : ∀ generation, recordsEnd id generation e = false) :
    RetryTracked id (e :: log) claims session :=
  h.quiet rfl rfl rfl (fun h_status => h_status) h.claimed
    (fun h_status => ⟨h_status, h_new⟩) h.exhausted

/-- A step that stages the session: its claims so far are those from before. -/
theorem restaged (h : RetryTracked id log claims session)
    (h_attempts : session'.attemptCount = session.attemptCount)
    (h_status : session'.status = .staged)
    (h_mapping : session.attemptCount = 0 ↔ session'.manifest.columnNamesMapping = none) :
    RetryTracked id (e :: log) [] session' where
  counted := ⟨session.attemptCount, h_attempts, h_mapping⟩
  bounded := by
    rw [h_attempts]
    exact h.bounded
  unclaimed h_open := by simp [h_status] at h_open
  claimed h_claimed := by simp [h_status] at h_claimed
  generations _ h_mem := by cases h_mem
  unrecorded _ _ h_mem := by cases h_mem
  exhausted h_exhausted := by
    rw [UploadSession.IsExhausted, h_status] at h_exhausted
    cases h_exhausted.1

/-- A step after which the session is neither in the queue nor being verified, nor given up. -/
theorem settled (h : RetryTracked id log claims session)
    (h_attempts : session'.attemptCount = session.attemptCount)
    (h_mapping : session'.manifest.columnNamesMapping = session.manifest.columnNamesMapping)
    (h_generation : session'.leaseGeneration = session.leaseGeneration)
    (h_status : session'.status ∈ [.verified, .rejected, .failed, .aborted, .registered])
    (h_claimed : session'.status = .verified ∨ session'.status = .rejected →
      1 ≤ session.attemptCount)
    (h_not : ¬ session'.IsExhausted) :
    RetryTracked id (e :: log)
      (if session'.status = .staged ∧ session.status ≠ .staged then [] else claims) session' := by
  have h_staged : ¬ (session'.status = .staged ∧ session.status ≠ .staged) := fun h_staged => by
    rw [h_staged.1] at h_status
    exact absurd h_status (by decide)
  rw [if_neg h_staged]
  refine h.quiet h_attempts h_mapping h_generation (fun h_open => ?_) (fun h_after => ?_)
    (fun h_after => ?_) fun h_exhausted => absurd h_exhausted h_not
  · rcases h_open with h_eq | h_eq <;> rw [h_eq] at h_status <;> exact absurd h_status (by decide)
  · rcases h_after with h_eq | h_after
    · rw [h_eq] at h_status
      exact absurd h_status (by decide)
    · exact h_claimed h_after
  · rcases h_after with h_eq | h_eq | h_exhausted
    · rw [h_eq] at h_status
      exact absurd h_status (by decide)
    · rw [h_eq] at h_status
      exact absurd h_status (by decide)
    · exact absurd h_exhausted h_not

/-- The mapping of a session that was never claimed is not set. -/
theorem mapping_of_unclaimed (h : RetryTracked id log claims session)
    (h_zero : session.attemptCount = 0) : session.manifest.columnNamesMapping = none := by
  obtain ⟨earlier, h_count, h_mapping⟩ := h.counted
  exact h_mapping.mp (by omega)

/-- A request that is not a claim. -/
theorem moved (h : RetryTracked id log claims session) {request : ImportRequest}
    {result : ImportResult} (h_move : SessionMove request result session session') (i : ℕ)
    (h_claim : ∀ workerId uploadId now dbNow leaseSeconds,
      request ≠ .claim workerId uploadId now dbNow leaseSeconds)
    (h_code : ∀ ended isRecorded, result = .processed ended isRecorded → ended.HasCode) :
    RetryTracked id (.committed i (.importing request) (.importing result) :: log)
      (if session'.status = .staged ∧ session.status ≠ .staged then [] else claims) session' := by
  cases h_move with
  | recorded uploadId upload partBytes now part =>
    -- a part moves an initiated session, and nothing of the count
    by_cases h_initiated : session.status = .initiated
    · have h_status : (session.recordPart part).status = .uploading := if_pos h_initiated
      have h_not : ¬ (session.recordPart part).IsExhausted := fun h_exhausted => by
        rw [UploadSession.IsExhausted, h_status] at h_exhausted
        cases h_exhausted.1
      rw [if_neg (by simp [h_status])]
      exact h.quiet rfl rfl rfl (fun _ => .inl h_initiated)
        (fun h_other => by simp [h_status] at h_other)
        (fun h_other => by simp [h_status, h_not] at h_other) fun h_other => absurd h_other h_not
    · -- the session was uploading, and stays so
      have h_status := SessionMove.recordPart_status part h_initiated
      have h_exhausted : (session.recordPart part).IsExhausted → session.IsExhausted := by
        rw [UploadSession.IsExhausted, h_status]
        exact fun h_after => h_after
      rw [if_neg (by simp [h_status])]
      refine h.quiet rfl rfl rfl ?_ ?_ ?_ fun h_after => h.exhausted (h_exhausted h_after)
      · rw [h_status]
        exact fun h_open => h_open
      · rw [h_status]
        exact h.claimed
      · rw [h_status]
        exact fun h_other => ⟨h_other.imp_right (Or.imp_right h_exhausted), fun _ => rfl⟩
  | staged uploadId parts partBytes storage now _ h_open =>
    -- staged for the first time: nothing was claimed yet
    have h_before := status_of_open h_open
    have h_zero := h.unclaimed h_before
    rw [if_pos ⟨rfl, by rcases h_before with h_eq | h_eq <;> simp [h_eq]⟩]
    exact h.restaged rfl rfl ⟨fun _ => h.mapping_of_unclaimed h_zero, fun _ => h_zero⟩
  | configured uploadId columnNames now _ h_before =>
    -- staged again after a configuration, which the mapping tells
    have h_pos := h.claimed (.inr h_before)
    rw [if_pos ⟨rfl, by rcases h_before with h_eq | h_eq <;> simp [h_eq]⟩]
    refine h.restaged rfl rfl ⟨fun h_zero => absurd h_zero (by omega), fun h_none => ?_⟩
    cases h_none
  | aborted =>
    -- an aborted session is not claimed again
    exact h.settled rfl rfl rfl (show SessionStatus.aborted ∈ _ by decide)
      (fun h_other => by rcases h_other with h_eq | h_eq <;> cases h_eq) fun h_other => by
        cases h_other.1
  | claimed => exact absurd rfl (h_claim _ _ _ _ _)
  | gaveUp => exact absurd rfl (h_claim _ _ _ _ _)
  | extended workerId uploadId generation now dbNow leaseSeconds _ h_fenced =>
    -- a heartbeat changes the lease only
    have h_same : (if (session.extend (now + leaseSeconds)).status = .staged ∧
        session.status ≠ .staged then [] else claims) = claims := if_neg fun h_staged =>
      h_staged.2 h_staged.1
    rw [h_same]
    exact h.quiet rfl rfl rfl (fun h_open => h_open) h.claimed
      (fun h_other => ⟨h_other, fun _ => rfl⟩) h.exhausted
  | processed workerId claim outcome dbNow pin ended _ h_fenced =>
    -- the processing ends the claim
    have h_pos := h.claimed (.inl (lease_of_fenced h_fenced).1)
    have h_code := h_code ended true rfl
    cases ended with
    | verified =>
      exact h.settled rfl rfl rfl (show SessionStatus.verified ∈ _ by decide) (fun _ => h_pos)
        fun h_other => by cases h_other.1
    | rejected =>
      exact h.settled rfl rfl rfl (show SessionStatus.rejected ∈ _ by decide) (fun _ => h_pos)
        fun h_other => by cases h_other.1
    | failed errorCode =>
      refine h.settled rfl rfl rfl (show SessionStatus.failed ∈ _ by decide) (fun _ => h_pos) ?_
      -- the code of a processing is another one
      rintro ⟨-, h_reason⟩
      have h_eq : errorCode = "IMPORT_RETRY_EXHAUSTED" := Option.some.inj h_reason
      rcases h_code with h_other | h_other <;> rw [h_other] at h_eq <;>
        exact absurd h_eq (by decide)
  | registered =>
    -- registered: nothing is claimed any more
    exact h.settled rfl rfl rfl (show SessionStatus.registered ∈ _ by decide)
      (fun h_other => by rcases h_other with h_eq | h_eq <;> cases h_eq) fun h_other => by
        cases h_other.1

/-- A claim that takes the session. -/
theorem taken (h : RetryTracked id log claims session)
    (h_free : ∀ e ∈ log, recordsEnd id (session.leaseGeneration + 1) e = false)
    (h_status : session.status = .staged ∨ session.status = .verifying)
    (h_budget : session.attemptCount + 1 ≤ 3) (workerId : String) (expiresAt : Time)
    (h_new : ∀ generation, recordsEnd id generation e = false) :
    RetryTracked id (e :: log) ((session.claim workerId expiresAt).toClaim :: claims)
      (session.claim workerId expiresAt) where
  counted := by
    obtain ⟨earlier, h_count, h_mapping⟩ := h.counted
    refine ⟨earlier, ?_, h_mapping⟩
    show session.attemptCount + 1 = earlier + (claims.length + 1)
    rw [h_count, Nat.add_assoc]
  bounded := h_budget
  unclaimed h_open := by rcases h_open with h_eq | h_eq <;> cases h_eq
  claimed _ := Nat.le_add_left 1 session.attemptCount
  generations claim h_mem := by
    rcases List.mem_cons.mp h_mem with rfl | h_old
    · exact le_rfl
    · exact Nat.le_succ_of_le (h.generations claim h_old)
  unrecorded _ claim h_mem e' h_e' := by
    rcases List.mem_cons.mp h_e' with rfl | h_e'
    · exact h_new _
    rcases List.mem_cons.mp h_mem with rfl | h_old
    · exact h_free e' h_e'
    · exact h.unrecorded (h_status.imp_right .inl) claim h_old e' h_e'
  exhausted h_exhausted := by cases h_exhausted.1

/-- A claim that finds the attempts used up. -/
theorem gaveUp (h : RetryTracked id log claims session)
    (h_status : session.status = .staged ∨ session.status = .verifying)
    (h_budget : 3 < session.attemptCount + 1)
    (h_new : ∀ generation, recordsEnd id generation e = false) :
    RetryTracked id (e :: log) claims (session.giveUp "IMPORT_RETRY_EXHAUSTED") := by
  have h_bounded := h.bounded
  refine h.quiet rfl rfl rfl (fun h_open => ?_) (fun h_after => ?_)
    (fun _ => ⟨h_status.imp_right .inl, h_new⟩) fun _ => by omega
  · rcases h_open with h_eq | h_eq <;> cases h_eq
  · rcases h_after with h_eq | h_eq | h_eq <;> cases h_eq

end RetryTracked

/-! ### Steps -/

section Commits

variable {id : Uuid} {db db' : Workspace} {log : List WorkspaceEvent}
  {claims : List SessionClaim} {session session' : UploadSession}

/-- The claims after a commit on a session that is there before and after it. -/
def claimsCommitted (id : Uuid) (e : WorkspaceEvent) (session session' : UploadSession)
    (claims : List SessionClaim) : List SessionClaim :=
  if session'.status = .staged ∧ session.status ≠ .staged then []
  else (claimMade id e).toList ++ claims

omit claims in
/-- A claim is made by the request that claims. -/
theorem claimMade_claim (i : ℕ) (workerId : String) (uploadId : Uuid)
    (now dbNow leaseSeconds : Time) (claim : Option SessionClaim) :
    claimMade id (.committed i (.importing (.claim workerId uploadId now dbNow leaseSeconds))
      (.importing (.claimed claim))) = claim.filter fun claim => decide (claim.uploadId = id) := by
  cases claim <;> rfl

/-- A claim keeps the count of attempts: the session's own counter never restarts. -/
theorem RetryTracked.claimCommitted (h : RetryTracked id log claims session)
    (h_find : db.sessions.find? id = some session)
    (h_free : ∀ e ∈ log, recordsEnd id (session.leaseGeneration + 1) e = false)
    {workerId : String} {uploadId : Uuid} {now dbNow leaseSeconds : Time}
    {claim : Option SessionClaim}
    (h_claimed : SessionClaimed workerId uploadId now dbNow leaseSeconds db claim db')
    (h_find' : db'.sessions.find? id = some session') (i : ℕ) :
    let e : WorkspaceEvent := .committed i
      (.importing (.claim workerId uploadId now dbNow leaseSeconds)) (.importing (.claimed claim))
    RetryTracked id (e :: log) (claimsCommitted id e session session' claims) session' := by
  intro e
  have h_new : ∀ generation, recordsEnd id generation e = false := fun _ => rfl
  -- an event that hands out no claim of the session
  have h_other : claimMade id e = none → session' = session →
      RetryTracked id (e :: log) (claimsCommitted id e session session' claims) session' := by
    rintro h_none rfl
    rw [claimsCommitted, if_neg fun h_staged => h_staged.2 h_staged.1, h_none]
    exact h.cons h_new
  cases h_claimed with
  | nothing =>
    -- no session could be claimed
    rw [h_find] at h_find'
    exact h_other rfl (Option.some.inj h_find').symm
  | taken row h_row h_claimable =>
    have h_update := Table.find?_update db.sessions uploadId
      (claimedSession workerId now leaseSeconds)
      (keepsUploadId_claimedSession workerId now leaseSeconds) id
    rw [show (Table.update _ _ _ _).find? id = some session' from h_find'] at h_update
    obtain ⟨-, h_rowId⟩ := Table.find?_eq_some_iff.mp h_row
    -- either the session itself was claimed, or another one
    by_cases h_id : id = uploadId
    · subst h_id
      rw [h_find] at h_row
      obtain rfl := Option.some.inj h_row
      rw [if_pos rfl, h_find] at h_update
      obtain rfl : session' = claimedSession workerId now leaseSeconds session :=
        Option.some.inj h_update
      have h_status := status_of_claimable h_claimable
      rw [claimsCommitted, claimMade_claim]
      -- its time is over, its attempts are used up, or the worker takes it
      rw [claimedSession]
      split
      · exact h.settled rfl rfl rfl (show SessionStatus.failed ∈ _ by decide)
          (fun h_other => by rcases h_other with h_eq | h_eq <;> cases h_eq)
          fun h_other => absurd (Option.some.inj h_other.2) (by decide)
      -- given up after the last attempt
      split
      · rename_i h_budget
        exact h.gaveUp h_status h_budget h_new
      · -- the attempt is counted, and so is the claim
        rename_i h_budget
        have h_taken := h.taken h_free h_status (not_lt.mp h_budget) workerId (now + leaseSeconds)
          h_new
        have h_id' : session.uploadId = id := h_rowId
        have h_made : (some (session.claim workerId (now + leaseSeconds)).toClaim).filter
            (fun claim => decide (claim.uploadId = id)) =
              some (session.claim workerId (now + leaseSeconds)).toClaim :=
          Option.filter_eq_some_iff.mpr ⟨rfl, decide_eq_true h_id'⟩
        show RetryTracked id (e :: log) (((some (session.claim workerId
          (now + leaseSeconds)).toClaim).filter fun claim => decide (claim.uploadId = id)).toList ++
            claims) _
        rw [h_made]
        exact h_taken
    · -- another session, whose claim is none of this one
      rw [if_neg h_id, h_find] at h_update
      refine h_other ?_ (Option.some.inj h_update)
      rw [claimMade_claim]
      split
      · refine Option.filter_eq_none_iff.mpr fun claim h_claim => ?_
        rw [Option.some.injEq] at h_claim
        subst h_claim
        rw [decide_eq_true_eq]
        have h_keeps := keepsUploadId_claimedSession workerId now leaseSeconds row
        exact fun h_eq => h_id (h_eq.symm.trans (h_keeps.trans h_rowId))
      · rfl

/-- What a commit does to a session that is there before it. -/
theorem RetryTracked.committed (h : RetryTracked id log claims session)
    (h_find : db.sessions.find? id = some session)
    (h_free : ∀ e ∈ log, recordsEnd id (session.leaseGeneration + 1) e = false)
    {request : WorkspaceRequest} {result : WorkspaceResult}
    (h_post : WorkspacePost request result db db') (h_detail : DetailPost request result db db')
    (h_find' : db'.sessions.find? id = some session') (i : ℕ) :
    RetryTracked id (.committed i request result :: log)
      (claimsCommitted id (.committed i request result) session session' claims) session' := by
  -- an event that hands out no claim, and does nothing to the session
  have h_kept : (∀ generation, recordsEnd id generation (.committed i request result) = false) →
      claimMade id (.committed i request result) = none → session' = session →
      RetryTracked id (.committed i request result :: log)
        (claimsCommitted id (.committed i request result) session session' claims) session' := by
    rintro h_new h_none rfl
    rw [claimsCommitted, if_neg fun h_staged => h_staged.2 h_staged.1, h_none]
    exact h.cons h_new
  have h_same : db'.sessions = db.sessions → session' = session := by
    intro h_sessions
    rw [h_sessions, h_find] at h_find'
    exact (Option.some.inj h_find').symm
  cases h_post with
  -- these requests have no sessions
  | rule _ _ _ _ h_rule => exact h_kept (fun _ => rfl) rfl (h_same (by rw [h_rule.frame]))
  | scan _ _ _ _ h_scan => exact h_kept (fun _ => rfl) rfl (h_same (by rw [h_scan.frame]))
  | protection _ _ _ _ h_protection =>
    exact h_kept (fun _ => rfl) rfl (h_same (by rw [h_protection.frame]))
  | importing request result _ _ h_import =>
    -- a claim is the only request that hands one out
    by_cases h_claim : ∃ workerId uploadId now dbNow leaseSeconds,
        request = .claim workerId uploadId now dbNow leaseSeconds
    · obtain ⟨workerId, uploadId, now, dbNow, leaseSeconds, rfl⟩ := h_claim
      cases h_import with
      | claimed _ _ _ _ _ claim _ _ h_claimed =>
        exact h.claimCommitted h_find h_free h_claimed h_find' i
    · have h_not : ∀ workerId uploadId now dbNow leaseSeconds,
          request ≠ .claim workerId uploadId now dbNow leaseSeconds :=
        fun workerId uploadId now dbNow leaseSeconds h_eq =>
          h_claim ⟨workerId, uploadId, now, dbNow, leaseSeconds, h_eq⟩
      have h_none : claimMade id (.committed i (.importing request) (.importing result)) =
        none := by
        cases request with
        | claim => exact absurd rfl (h_not _ _ _ _ _)
        | _ => rfl
      have h_change := sessionsChange_of_importPost h_import
      obtain ⟨session₁, h_find₁, h_move⟩ := h_change.find? h_find
      rw [h_find'] at h_find₁
      obtain rfl := Option.some.inj h_find₁
      -- without a move, only the log grew
      rcases h_move with rfl | h_move
      · refine h_kept (fun generation => ?_) h_none rfl
        by_contra h_end
        -- a recorded end moves the session
        have h_end' : recordsEnd id generation
            (.committed i (.importing request) (.importing result)) := by
          simpa using h_end
        obtain ⟨row, row', h_row, h_status, -, h_row', -, h_status'⟩ := h_change.of_end h_end'
        rw [h_find] at h_row
        rw [h_find'] at h_row'
        obtain rfl := Option.some.inj h_row
        obtain rfl := Option.some.inj h_row'
        exact h_status' h_status
      · have h_moved := h.moved h_move i h_not fun ended isRecorded h_eq => by
          subst h_eq
          cases h_import with
          | processed => exact h_detail
        rw [claimsCommitted, h_none]
        exact h_moved

end Commits

/-- A session that is not there is not claimed. -/
theorem claimMade_of_none {request : WorkspaceRequest} {result : WorkspaceResult}
    {db db' : Workspace} (h : WorkspacePost request result db db') {id : Uuid}
    (h_none : db.sessions.find? id = none) (i : ℕ) :
    claimMade id (.committed i request result) = none := by
  by_cases h_claim : ∃ workerId uploadId now dbNow leaseSeconds,
      request = .importing (.claim workerId uploadId now dbNow leaseSeconds)
  · obtain ⟨workerId, uploadId, now, dbNow, leaseSeconds, rfl⟩ := h_claim
    cases h with
    | importing _ _ _ _ h_import =>
      cases h_import with
      | claimed _ _ _ _ _ claim _ _ h_claimed =>
        cases h_claimed with
        | nothing => rfl
        | taken row h_row =>
          obtain ⟨-, h_rowId⟩ := Table.find?_eq_some_iff.mp h_row
          rw [claimMade_claim]
          refine Option.filter_eq_none_iff.mpr fun claim h_made => ?_
          split at h_made
          · rw [← Option.some.inj h_made, decide_eq_true_eq]
            rintro rfl
            have h_keeps := keepsUploadId_claimedSession workerId now leaseSeconds row
            rw [show (claimedSession workerId now leaseSeconds row).toClaim.uploadId = uploadId from
              h_keeps.trans h_rowId, h_row] at h_none
            cases h_none
          · cases h_made
  · cases request with
    | importing request =>
      cases request with
      | claim => exact absurd ⟨_, _, _, _, _, rfl⟩ h_claim
      | _ => rfl
    | _ => rfl

/-- No end is recorded for a generation that is still to come. -/
theorem recordsEnd_of_later {s : WorkspaceState} (h : WorkspaceReachable NoSessions s) {id : Uuid}
    {session : UploadSession} (h_find : s.db.sessions.find? id = some session) {generation : ℕ}
    (h_later : session.leaseGeneration < generation) :
    ∀ e ∈ s.log, recordsEnd id generation e = false := by
  have h_zero : s.log.countP (recordsEnd id generation) = 0 := by
    by_contra h_ne
    obtain ⟨session', h_find', h_le, -⟩ :=
      ((sessionsTracked h).ended id generation).2 (Nat.pos_of_ne_zero h_ne)
    rw [h_find] at h_find'
    obtain rfl := Option.some.inj h_find'
    omega
  intro e h_e
  have h_not := List.countP_eq_zero.mp h_zero e h_e
  simpa using h_not

/-- What holds along a run of the claims of a session, which may not be there yet. -/
def ClaimsTracked (id : Uuid) (s : WorkspaceState) (claims : List SessionClaim) : Prop :=
  (s.db.sessions.find? id = none → claims = []) ∧
    ∀ session, s.db.sessions.find? id = some session → RetryTracked id s.log claims session

/-- Each step keeps the claims accounted for. -/
theorem ClaimsTracked.step {s s' : WorkspaceState} (h_reachable : WorkspaceReachable NoSessions s)
    (h_step : TxnSystem.Step workspaceSystem s s') {id : Uuid} {claims : List SessionClaim}
    (h : ClaimsTracked id s claims) : ClaimsTracked id s' (claimsAfter id s s' claims) := by
  have h_effect : DetailEffect s.db s.log s'.db s'.log :=
    TxnSystem.effect_of_step meets_parts (fun _ h_db => h_db.1) h_reachable h_step
  -- an event that commits nothing
  have h_event : ∀ e, s'.db = s.db → s'.log = e :: s.log → claimMade id e = none →
      (∀ generation, recordsEnd id generation e = false) →
      ClaimsTracked id s' (claimsAfter id s s' claims) := by
    intro e h_db h_log h_none h_new
    rw [claimsAfter_of_cons h_log, h_db, if_neg fun h_staged => h_staged.2 h_staged.1, h_none]
    refine ⟨?_, ?_⟩
    · rw [h_db]
      exact h.1
    · rw [h_db, h_log]
      exact fun session h_find => (h.2 session h_find).cons h_new
  obtain ⟨db, opened, log⟩ := s
  obtain ⟨db', opened', log'⟩ := s'
  replace h_effect : DetailEffect db log db' log' := h_effect
  -- the cases are the kinds of events of the log
  cases h_effect with
  | statement =>
    have h_same : claimsAfter id ⟨db, opened, log⟩ ⟨db, opened', log⟩ claims = claims :=
      claimsAfter_of_log_eq rfl rfl
    rw [h_same]
    exact h
  | begun i request => exact h_event _ rfl rfl rfl fun _ => rfl
  | rolledBack i request error => exact h_event _ rfl rfl rfl fun _ => rfl
  | committed i request result _ _ _ _ _ _ h_post =>
    obtain ⟨h_post, h_detail⟩ := h_post
    rw [claimsAfter_of_cons rfl]
    cases h_find : db.sessions.find? id with
    | none =>
      -- the session did not exist, so it was none's claim
      have h_none := claimMade_of_none h_post h_find i
      obtain rfl : claims = [] := h.1 h_find
      have h_nil : (if db'.statusOf id = some .staged ∧ db.statusOf id ≠ some .staged then []
          else (claimMade id (.committed i request result)).toList ++ []) = [] := by
        rw [h_none]
        split <;> rfl
      refine ⟨fun _ => h_nil, fun session' h_find' => ?_⟩
      show RetryTracked id _ _ session'
      rw [h_nil]
      refine .of_fresh (fresh_of_post h_post h_detail h_find h_find') ?_ _
      rcases sessions_of_post h_post with ⟨_, _, -, -, h_change⟩ | ⟨-, h_sessions⟩
      · rcases h_change.new h_find h_find' with ⟨h_status, -⟩ | ⟨h_status, -⟩
        · exact h_status.imp_right .inl
        · exact .inr (.inr h_status)
      · rw [h_sessions, h_find] at h_find'
        cases h_find'
    | some session =>
      -- one there was already is accounted for by its step
      have h_tracked := h.2 session h_find
      have h_free := recordsEnd_of_later h_reachable h_find (Nat.lt_succ_self _)
      obtain ⟨session', h_find', -⟩ := sessionStep h_reachable h_step h_find
      refine ⟨fun h_none => ?_, fun session'' h_find'' => ?_⟩
      · exact absurd (h_none.symm.trans h_find') (by simp)
      · have h_committed := h_tracked.committed h_find h_free h_post h_detail h_find'' i
        rw [claimsCommitted] at h_committed
        show RetryTracked id _ (if db'.statusOf id = some .staged ∧ db.statusOf id ≠ some .staged
          then [] else _) session''
        rw [statusOf_of_find? h_find, statusOf_of_find? h_find'']
        simpa only [Option.some.injEq, ne_eq] using h_committed

/-! ### Runs -/

section Runs

variable {P : Workspace → WorkspaceRequest → Prop} {id : Uuid} {s : WorkspaceState}
  {claims : List SessionClaim}

/-- The claims are accounted for along every run. -/
theorem claimsTracked (h : RetryRun P id s claims) : ClaimsTracked id s claims := by
  induction h with
  | @initial s₀ h_initial =>
    have h_none : ∀ {session}, s₀.db.sessions.find? id ≠ some session := by
      intro session h_find
      rw [h_initial.1.2] at h_find
      cases h_find
    exact ⟨fun _ => rfl, fun session h_find => absurd h_find h_none⟩
  | step h_before h_step ih => exact ih.step (reachable_of_retryRun h_before) h_step.1

/-- A session is given up after three claims that recorded nothing exactly if it was never
reconfigured. -/
theorem retryBudget_iff (h : RetryRun P id s claims) {session : UploadSession}
    (h_find : s.db.sessions.find? id = some session) (h_exhausted : session.IsExhausted) :
    3 ≤ (unrecordedClaims id s.log claims).length ↔ session.manifest.columnNamesMapping = none := by
  have h_tracked := (claimsTracked h).2 session h_find
  have h_unrecorded := h_tracked.unrecorded (.inr (.inr h_exhausted))
  have h_all : unrecordedClaims id s.log claims = claims := by
    refine List.filter_eq_self.mpr fun claim h_mem => ?_
    rw [List.all_eq_true]
    exact fun e h_e => by rw [h_unrecorded claim h_mem e h_e]; rfl
  obtain ⟨earlier, h_count, h_mapping⟩ := h_tracked.counted
  rw [h_all, ← h_mapping]
  have h_three := h_tracked.exhausted h_exhausted
  omega

/-- Only a claim that finds the attempts used up gives a session up. -/
theorem exhausted_of_post {db db' : Workspace} {request : WorkspaceRequest}
    {result : WorkspaceResult} (h_post : WorkspacePost request result db db')
    (h_detail : DetailPost request result db db') {session session' : UploadSession}
    (h_find : db.sessions.find? id = some session)
    (h_find' : db'.sessions.find? id = some session') (h_exhausted : session'.IsExhausted) :
    (session.IsExhausted ∧
      session'.manifest.columnNamesMapping = session.manifest.columnNamesMapping) ∨
    ∃ workerId now dbNow leaseSeconds,
      request = .importing (.claim workerId id now dbNow leaseSeconds) ∧
      session.isClaimable dbNow ∧ session.isExpired now = false ∧ 3 ≤ session.attemptCount ∧
      session'.manifest.columnNamesMapping = session.manifest.columnNamesMapping := by
  have h_same : session' = session → session.IsExhausted ∧
      session'.manifest.columnNamesMapping = session.manifest.columnNamesMapping := by
    rintro rfl
    exact ⟨h_exhausted, rfl⟩
  rcases sessions_of_post h_post with ⟨request, result, rfl, rfl, h_change⟩ | ⟨-, h_sessions⟩
  · -- a claim may give the session up
    by_cases h_claim : ∃ workerId uploadId now dbNow leaseSeconds,
        request = .claim workerId uploadId now dbNow leaseSeconds
    · obtain ⟨workerId, uploadId, now, dbNow, leaseSeconds, rfl⟩ := h_claim
      cases h_post with
      | importing _ _ _ _ h_import =>
        cases h_import with
        | claimed _ _ _ _ _ claim _ _ h_claimed =>
          cases h_claimed with
          | nothing =>
            rw [h_find] at h_find'
            exact .inl (h_same (Option.some.inj h_find').symm)
          | taken row h_row h_claimable =>
            have h_update := Table.find?_update db.sessions uploadId
              (claimedSession workerId now leaseSeconds)
              (keepsUploadId_claimedSession workerId now leaseSeconds) id
            rw [show (Table.update _ _ _ _).find? id = some session' from h_find'] at h_update
            by_cases h_id : id = uploadId
            · subst h_id
              rw [h_find] at h_row
              obtain rfl := Option.some.inj h_row
              rw [if_pos rfl, h_find] at h_update
              obtain rfl : session' = claimedSession workerId now leaseSeconds session :=
                Option.some.inj h_update
              unfold claimedSession at h_exhausted ⊢
              split at h_exhausted
              · exact absurd (Option.some.inj h_exhausted.2) (by decide)
              rename_i h_time
              split at h_exhausted
              · rename_i h_budget
                rw [if_neg h_time, if_pos h_budget]
                exact .inr ⟨workerId, now, dbNow, leaseSeconds, rfl, h_claimable,
                  Bool.eq_false_iff.mpr h_time, by omega, rfl⟩
              · cases h_exhausted.1
            · -- the update was of another session
              rw [if_neg h_id, h_find] at h_update
              exact .inl (h_same (Option.some.inj h_update))
    · obtain ⟨session₁, h_find₁, h_move⟩ := h_change.find? h_find
      rw [h_find'] at h_find₁
      obtain rfl := Option.some.inj h_find₁
      -- every other move leaves the reason, or has one of its own
      rcases h_move with rfl | h_move
      · exact .inl (h_same rfl)
      · refine .inl ?_
        cases h_move with
        | recorded uploadId upload partBytes now part =>
          by_cases h_initiated : session.status = .initiated
          · have h_status : (session.recordPart part).status = .uploading := if_pos h_initiated
            rw [UploadSession.IsExhausted, h_status] at h_exhausted
            cases h_exhausted.1
          · have h_status := SessionMove.recordPart_status part h_initiated
            rw [UploadSession.IsExhausted, h_status] at h_exhausted
            exact ⟨h_exhausted, rfl⟩
        | claimed => exact absurd ⟨_, _, _, _, _, rfl⟩ h_claim
        | gaveUp => exact absurd ⟨_, _, _, _, _, rfl⟩ h_claim
        | extended => exact ⟨h_exhausted, rfl⟩
        | processed workerId claim outcome dbNow pin ended =>
          -- what the processing reports is never this code
          cases ended with
          | failed errorCode =>
            have h_eq : errorCode = "IMPORT_RETRY_EXHAUSTED" := Option.some.inj h_exhausted.2
            have h_code : SessionEnd.HasCode (.failed errorCode) := h_detail
            rcases h_code with h_other | h_other <;> rw [h_other] at h_eq <;>
              exact absurd h_eq (by decide)
          | _ => cases h_exhausted.1
        | _ => cases h_exhausted.1
  · -- the request has no sessions
    rw [h_sessions, h_find] at h_find'
    exact .inl (h_same (Option.some.inj h_find').symm)

/-- In a run that keeps the budget an exhausted session was not configured again. -/
theorem mapping_of_keepsBudget (h : RetryRun KeepsBudget id s claims) {session : UploadSession}
    (h_find : s.db.sessions.find? id = some session) (h_exhausted : session.IsExhausted) :
    session.manifest.columnNamesMapping = none := by
  induction h generalizing session with
  | initial h_initial =>
    rw [h_initial.1.2] at h_find
    cases h_find
  | @step s s' claims h_before h_step ih =>
    have h_reachable := reachable_of_retryRun h_before
    have h_effect : DetailEffect s.db s.log s'.db s'.log :=
      TxnSystem.effect_of_step meets_parts (fun _ h_db => h_db.1) h_reachable h_step.1
    have h_keeps := h_step.2
    generalize s.db = db, s.log = log, s'.db = db', s'.log = log' at *
    cases h_effect with
    | committed i request result _ _ _ _ _ _ h_post =>
      obtain ⟨h_post, h_detail⟩ := h_post
      cases h_before : db.sessions.find? id with
      | none =>
        rw [UploadSession.IsExhausted, (fresh_of_post h_post h_detail h_before h_find).errorReason]
          at h_exhausted
        cases h_exhausted.2
      | some row =>
        rcases exhausted_of_post h_post h_detail h_before h_find h_exhausted with
          ⟨h_row, h_mapping⟩ | ⟨workerId, now, dbNow, leaseSeconds, rfl, h_claimable, h_time,
            h_attempts, h_mapping⟩
        · exact h_mapping.trans (ih h_before h_row)
        · have h_unmapped := h_keeps i _ result rfl row h_before h_claimable h_time h_attempts
          exact h_mapping.trans h_unmapped
    | _ => exact ih h_find h_exhausted

/-- **Retry budget.** In every run that claims no reconfigured session whose attempts are used up, a
session is failed with IMPORT_RETRY_EXHAUSTED only after three claims, made since it last entered
STAGED, that recorded nothing. In any run, this holds of a session that is so failed exactly if
it was never reconfigured. -/
theorem retryBudget (id : Uuid) :
    (∀ s claims session, RetryRun KeepsBudget id s claims →
      s.db.sessions.find? id = some session → session.IsExhausted →
      3 ≤ (unrecordedClaims id s.log claims).length) ∧
    ∀ s claims session, RetryRun (fun _ _ => True) id s claims →
      s.db.sessions.find? id = some session → session.IsExhausted →
      (3 ≤ (unrecordedClaims id s.log claims).length ↔
        session.manifest.columnNamesMapping = none) := by
  refine ⟨fun s claims session h h_find h_exhausted => ?_,
    fun s claims session h h_find h_exhausted => retryBudget_iff h h_find h_exhausted⟩
  exact (retryBudget_iff h h_find h_exhausted).mpr (mapping_of_keepsBudget h h_find h_exhausted)

end Runs

/-! ### Two sessions that are given up -/

/-- The session of the import after some validations, each followed by a reconfiguration. -/
def reconfiguredSession : ℕ → UploadSession
  | 0 => selectedSession
  | n + 1 => (((reconfiguredSession n).claim "import-worker-1" 61).verify emailInspection .csv
      ⟨pinnedRules builtinRules, 1⟩ 0).configure ["email"]

instance (db : Workspace) : (r : WorkspaceRequest) → Decidable (KeepsBudget db r)
  | .importing (.claim _ uploadId now dbNow _) =>
    -- the condition is about the row, of which there is one at most
    decidable_of_iff (∀ session ∈ (db.sessions.find? uploadId).toList,
        session.isClaimable dbNow → session.isExpired now = false → 3 ≤ session.attemptCount →
        session.manifest.columnNamesMapping = none) <| by
      simp only [Option.mem_toList, KeepsBudget]
  | .importing (.create ..) | .importing (.uploadPart ..) | .importing (.complete ..)
  | .importing (.configure ..) | .importing (.abort ..) | .importing (.process ..)
  | .importing (.heartbeat ..) | .importing (.register ..) | .importing (.migrate ..)
  | .rule _ | .scan _ | .protection _ => .isTrue trivial

/-- A session is given up when the leases of three claims have lapsed. -/
theorem retryBudget_lapsed : ∃ s claims, RetryRun KeepsBudget (Uuid.repeated 6) s claims ∧
    3 ≤ (unrecordedClaims (Uuid.repeated 6) s.log claims).length := by
  let run : List (ℕ × WorkspaceRequest) :=
    [createSelected, claimSelected 1 1, claimSelected 2 100, claimSelected 3 200,
      claimSelected 4 300]
  have h_end : (workspaceSystem.serial run emptyWorkspace []).map (fun x =>
      (x.1.sessions.find? (Uuid.repeated 6)).map fun session =>
        (session.status, session.errorReason)) =
      some (some (.failed, some "IMPORT_RETRY_EXHAUSTED")) := by
    decide +kernel
  have h_allowed : workspaceSystem.SerialAllowed run emptyWorkspace [] := by
    decide +kernel
  have h_keeps : workspaceSystem.SerialMeets KeepsBudget run emptyWorkspace := by
    decide +kernel
  obtain ⟨⟨db, log⟩, h_serial, h_session⟩ := Option.map_eq_some_iff.mp h_end
  obtain ⟨session, h_find, h_fields⟩ := Option.map_eq_some_iff.mp h_session
  obtain ⟨h_status, h_reason⟩ := Prod.mk.inj h_fields
  have h_run := TxnSystem.runIf_serial h_allowed h_keeps h_serial
  obtain ⟨claims, h_claims⟩ := retryRun_of_reachable (Uuid.repeated 6)
    ⟨_, ⟨⟨emptyWorkspace_wellFormed, rfl⟩, fun _ => rfl, rfl⟩, h_run⟩
  exact ⟨_, claims, h_claims,
    (retryBudget (Uuid.repeated 6)).1 _ _ _ h_claims h_find ⟨h_status, h_reason⟩⟩

/-- A worker validates the session, and the user reconfigures it. -/
def validateAndConfigure (n : ℕ) : List (ℕ × WorkspaceRequest) :=
  let claim := ((reconfiguredSession n).claim "import-worker-1" 61).toClaim
  [claimSelected (3 * n + 1) 1,
    (3 * n + 2, .importing (.process "import-worker-1" claim (.inspected emailInspection) 1)),
    (3 * n + 3, .importing (.configure (Uuid.repeated 6) ["email"] 1))]

/-- The session is validated and reconfigured three times, and then claimed once more. -/
def reconfiguredRun : List (ℕ × WorkspaceRequest) :=
  createSelected :: validateAndConfigure 0 ++ validateAndConfigure 1 ++ validateAndConfigure 2
    ++ [claimSelected 10 1]

/-- A session is given up although each of its claims has recorded a result. -/
theorem retryBudget_spent : ¬ ∀ id s claims session, RetryRun (fun _ _ => True) id s claims →
    s.db.sessions.find? id = some session → session.IsExhausted →
    3 ≤ (unrecordedClaims id s.log claims).length := by
  intro h_claim
  have h_end : (workspaceSystem.serial reconfiguredRun emptyWorkspace []).map (fun x =>
      (x.1.sessions.find? (Uuid.repeated 6)).map fun session =>
        (session.status, session.errorReason, session.manifest.columnNamesMapping)) =
      some (some (.failed, some "IMPORT_RETRY_EXHAUSTED", some ["email"])) := by
    decide +kernel
  have h_allowed : workspaceSystem.SerialAllowed reconfiguredRun emptyWorkspace [] := by
    decide +kernel
  obtain ⟨⟨db, log⟩, h_serial, h_session⟩ := Option.map_eq_some_iff.mp h_end
  obtain ⟨session, h_find, h_fields⟩ := Option.map_eq_some_iff.mp h_session
  obtain ⟨h_status, h_rest⟩ := Prod.mk.inj h_fields
  obtain ⟨h_reason, h_mapping⟩ := Prod.mk.inj h_rest
  have h_run := TxnSystem.runIf_serial h_allowed (TxnSystem.serialMeets_true _ _) h_serial
  obtain ⟨claims, h_claims⟩ := retryRun_of_reachable (Uuid.repeated 6)
    ⟨_, ⟨⟨emptyWorkspace_wellFormed, rfl⟩, fun _ => rfl, rfl⟩, h_run⟩
  have h_three := h_claim _ _ _ _ h_claims h_find ⟨h_status, h_reason⟩
  rw [(retryBudget_iff h_claims h_find ⟨h_status, h_reason⟩).mp h_three] at h_mapping
  cases h_mapping

end DqScoring
