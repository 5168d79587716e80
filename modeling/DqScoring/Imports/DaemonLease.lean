import DqScoring.Imports.SessionLifecycle

/-!
# The lease of an import while it runs

`ImportDaemon._run_import` claims a session in one transaction and runs the whole of
`process_session` in another, while a thread with a connection of its own renews the lease. In
PostgreSQL `now()` is the time at which the transaction began. The UPDATE that records the end
of the processing therefore compares the lease with the time before the inspection, and not
with the time at which it is executed: a lease that lapses during the inspection still passes.

The clock is part of the state here, and every transaction reads it when it begins.
-/

namespace DqScoring

open Framework Relation

/-- Where a run of `_run_import` stands. -/
inductive DaemonPhase where
  | idle
  | claimed (claim : SessionClaim)
  /-- The transaction of `process_session` is open, since this time. -/
  | processing (claim : SessionClaim) (startedAt : Time)
  /-- The UPDATE found the session at this time, with this lease, or it found none. -/
  | finished (recorded : Option (Time × Option Time))
  deriving DecidableEq

/-- The clock, the committed row of the session and the run of the daemon. -/
structure DaemonState where
  clock : Time
  session : UploadSession
  phase : DaemonPhase

/-- The claim of the run. -/
def DaemonPhase.claim : DaemonPhase → Option SessionClaim
  | idle => none
  | claimed claim => some claim
  | processing claim _ => some claim
  | finished _ => none

/-- A request that is not one of this run: neither a heartbeat nor the processing of its claim. -/
def IsForeign (workerId : String) (phase : DaemonPhase) : ImportRequest → Prop
  | .heartbeat workerId' _ generation _ _ _ =>
    ∀ claim, phase.claim = some claim →
      ¬ (workerId' = workerId ∧ generation = claim.leaseGeneration)
  | .process workerId' claim' _ _ => ∀ claim, phase.claim = some claim →
    ¬ (workerId' = workerId ∧ claim'.leaseGeneration = claim.leaseGeneration)
  | _ => True

/-- One step of the clock, of the daemon, of its heartbeats or of anyone else. -/
inductive DaemonStep (workerId : String) (leaseSeconds : Time) : DaemonState → DaemonState → Prop
  | tick {clock session phase} (later : Time) : clock ≤ later →
      DaemonStep workerId leaseSeconds ⟨clock, session, phase⟩ ⟨later, session, phase⟩
  /-- `claim_next_session`, which has read its own clock and begun before. -/
  | claim {clock session} (readAt dbNow : Time) : readAt ≤ clock → dbNow ≤ clock →
      session.isClaimable dbNow →
      (claimedSession workerId readAt leaseSeconds session).status = .verifying →
      DaemonStep workerId leaseSeconds ⟨clock, session, .idle⟩
        ⟨clock, claimedSession workerId readAt leaseSeconds session,
          .claimed (claimedSession workerId readAt leaseSeconds session).toClaim⟩
  | begin {clock session claim} : DaemonStep workerId leaseSeconds ⟨clock, session, .claimed claim⟩
      ⟨clock, session, .processing claim clock⟩
  /-- `heartbeat`: it has read its own clock, and runs as one statement on a connection in
  autocommit mode. A heartbeat that does not reach the database is no step. -/
  | heartbeat {clock session phase claim} (readAt : Time) : phase.claim = some claim →
      readAt ≤ clock → session.isFenced workerId claim.leaseGeneration clock →
      DaemonStep workerId leaseSeconds ⟨clock, session, phase⟩
        ⟨clock, session.extend (readAt + leaseSeconds), phase⟩
  /-- Any other request on the session. -/
  | other {clock session phase} (request result session') : IsForeign workerId phase request →
      SessionMove request result session session' →
      DaemonStep workerId leaseSeconds ⟨clock, session, phase⟩ ⟨clock, session', phase⟩
  /-- The UPDATE of `process_session`, whose `now()` is the start of its transaction. -/
  | record {clock session claim startedAt} (ended : SessionEnd) :
      session.isFenced workerId claim.leaseGeneration startedAt →
      DaemonStep workerId leaseSeconds ⟨clock, session, .processing claim startedAt⟩
        ⟨clock, ended.apply claim.format session,
          .finished (some (clock, session.leaseExpiresAt))⟩
  /-- The UPDATE finds no row. -/
  | lose {clock session claim startedAt} :
      ¬ session.isFenced workerId claim.leaseGeneration startedAt →
      DaemonStep workerId leaseSeconds ⟨clock, session, .processing claim startedAt⟩
        ⟨clock, session, .finished none⟩

/-- A run that begins with any session. -/
def DaemonInitial (s : DaemonState) : Prop := s.phase = .idle

/-- The end was recorded, if at all, while the lease was in force. -/
def RecordedInLease (s : DaemonState) : Prop :=
  ∀ at' lease, s.phase = .finished (some (at', lease)) → ∃ expiresAt, lease = some expiresAt ∧
    at' ≤ expiresAt

/-- The lease of the run was in force when its transaction began, and has lapsed since. -/
def LapsedSinceStart (workerId : String) (s : DaemonState) : Prop :=
  ∃ claim startedAt, s.phase = .processing claim startedAt ∧
    s.session.isFenced workerId claim.leaseGeneration startedAt ∧
    s.session.leaseExpiresAt.any fun t => decide (t < s.clock)

/-- While the transaction is open and its lease in force, the clock does not pass the lease, and a
renewal is written before the time that it sets. -/
structure RenewsInTime (workerId : String) (s s' : DaemonState) : Prop where
  clock : ∀ claim startedAt expiresAt, s.phase = .processing claim startedAt →
    s.session.isFenced workerId claim.leaseGeneration startedAt →
    s.session.leaseExpiresAt = some expiresAt → s.clock < s'.clock → s'.clock ≤ expiresAt
  renewal : ∀ expiresAt, s'.session.leaseExpiresAt = some expiresAt →
    s.session.leaseExpiresAt ≠ some expiresAt → s'.clock ≤ expiresAt

/-! ### The lease of the run -/

/-- What a fence checks, with the lease that it compares. -/
theorem isFenced_iff {session : UploadSession} {workerId : String} {generation : ℕ} {now : Time} :
    session.isFenced workerId generation now ↔
      session.leaseGeneration = generation ∧ session.leaseOwner = some workerId ∧
      (∃ expiresAt, session.leaseExpiresAt = some expiresAt ∧ now ≤ expiresAt) ∧
      session.status = .verifying := by
  simp only [UploadSession.isFenced, Bool.and_eq_true, decide_eq_true_eq, Option.any_eq_true,
    and_assoc]

/-- Others neither renew the lease of the run nor give it back. -/
theorem fenced_of_foreign {workerId : String} {phase : DaemonPhase} {request : ImportRequest}
    {result : ImportResult} {session session' : UploadSession} {claim : SessionClaim}
    {startedAt : Time} (h_foreign : IsForeign workerId phase request)
    (h_move : SessionMove request result session session') (h_phase : phase.claim = some claim)
    (h_le : claim.leaseGeneration ≤ session.leaseGeneration)
    (h_fenced : session'.isFenced workerId claim.leaseGeneration startedAt) :
    session.isFenced workerId claim.leaseGeneration startedAt ∧
      session'.leaseExpiresAt = session.leaseExpiresAt := by
  obtain ⟨h_generation, h_owner, h_lease, h_status⟩ := isFenced_iff.mp h_fenced
  cases h_move with
  | recorded uploadId upload partBytes now part =>
    refine ⟨isFenced_iff.mpr ⟨h_generation, h_owner, h_lease, ?_⟩, rfl⟩
    by_cases h_initiated : session.status = .initiated
    · rw [UploadSession.recordPart, h_initiated] at h_status
      cases h_status
    · rwa [SessionMove.recordPart_status part h_initiated] at h_status
  | claimed =>
    -- the generation of the run is over
    have h_next : session.leaseGeneration + 1 = claim.leaseGeneration := h_generation
    omega
  | extended workerId' uploadId generation now dbNow leaseSeconds _ h_other =>
    obtain ⟨-, h_owner', h_generation'⟩ := lease_of_fenced h_other
    have h_same : workerId' = workerId := Option.some.inj (h_owner'.symm.trans h_owner)
    exact absurd ⟨h_same, h_generation'.symm.trans h_generation⟩ (h_foreign claim h_phase)
  | processed _ _ _ _ _ ended => cases ended <;> cases h_status
  | _ => cases h_status

/-- What holds along a run that renews its lease in time. -/
structure LeaseKept (workerId : String) (s : DaemonState) : Prop where
  generation : ∀ claim, s.phase.claim = some claim →
    claim.leaseGeneration ≤ s.session.leaseGeneration
  inForce : ¬ LapsedSinceStart workerId s
  recorded : RecordedInLease s

theorem SessionMove.leaseGeneration_le {request : ImportRequest} {result : ImportResult}
    {session session' : UploadSession} (h : SessionMove request result session session') :
    session.leaseGeneration ≤ session'.leaseGeneration := by
  rcases h.generation with ⟨h_eq, -⟩ | ⟨h_next, -⟩ <;> omega

theorem LeaseKept.step {workerId : String} {leaseSeconds : Time} {s s' : DaemonState}
    (h : LeaseKept workerId s) (h_step : DaemonStep workerId leaseSeconds s s')
    (h_renews : RenewsInTime workerId s s') : LeaseKept workerId s' := by
  cases h_step with
  | @tick clock session phase later h_later =>
    -- time passes: only the clock has changed, and in time for the lease
    refine ⟨h.generation, ?_, h.recorded⟩
    rintro ⟨claim, startedAt, h_phase, h_fenced, h_lapsed⟩
    obtain ⟨expiresAt, h_lease, h_late⟩ := (Option.any_eq_true _ _).mp h_lapsed
    rcases h_later.eq_or_lt with rfl | h_passed
    · exact h.inForce ⟨claim, startedAt, h_phase, h_fenced, h_lapsed⟩
    · have h_in := h_renews.clock claim startedAt expiresAt h_phase h_fenced h_lease h_passed
      exact absurd (of_decide_eq_true h_late) (not_lt.mpr h_in)
  | claim readAt dbNow =>
    -- a claim grants a lease that is in force
    refine ⟨?_, ?_, fun _ _ h_phase => by cases h_phase⟩
    · rintro _ ⟨⟩
      exact le_rfl
    · rintro ⟨_, _, h_phase, -⟩
      cases h_phase
  | @begin clock session claim =>
    refine ⟨h.generation, ?_, fun _ _ h_phase => by cases h_phase⟩
    rintro ⟨_, _, h_phase, h_fenced, h_lapsed⟩
    -- the transaction has just begun
    cases h_phase
    obtain ⟨-, -, ⟨expiresAt, h_lease, h_in⟩, -⟩ := isFenced_iff.mp h_fenced
    rw [h_lease, Option.any_some, decide_eq_true_eq] at h_lapsed
    exact absurd h_lapsed (not_lt.mpr h_in)
  | @heartbeat clock session phase claim readAt h_phase h_read h_fenced =>
    -- a heartbeat extends a lease that was in force when it was read
    refine ⟨h.generation, ?_, h.recorded⟩
    rintro ⟨_, _, -, -, h_lapsed⟩
    have h_late : readAt + leaseSeconds < clock := of_decide_eq_true h_lapsed
    obtain ⟨-, -, ⟨expiresAt, h_lease, h_in⟩, -⟩ := isFenced_iff.mp h_fenced
    -- the lease before was in force, so this is another one
    have h_renewed := h_renews.renewal (readAt + leaseSeconds) rfl fun h_eq => by
      rw [show session.leaseExpiresAt = some (readAt + leaseSeconds) from h_eq] at h_lease
      rw [Option.some.inj h_lease] at h_late
      exact absurd h_late (not_lt.mpr h_in)
    exact absurd h_late (not_lt.mpr h_renewed)
  | @other clock session phase request result session' h_foreign h_move =>
    -- what others do to the session leaves the owned lease alone
    refine ⟨fun claim h_phase => (h.generation claim h_phase).trans h_move.leaseGeneration_le, ?_,
      h.recorded⟩
    rintro ⟨claim, startedAt, h_phase, h_fenced, h_lapsed⟩
    have h_claim : phase.claim = some claim := by
      rw [show phase = .processing claim startedAt from h_phase]
      rfl
    obtain ⟨h_before, h_same⟩ :=
      fenced_of_foreign h_foreign h_move h_claim (h.generation claim h_claim) h_fenced
    rw [h_same] at h_lapsed
    exact h.inForce ⟨claim, startedAt, h_phase, h_before, h_lapsed⟩
  | @record clock session claim startedAt ended h_fenced =>
    -- the daemon records the end and forgets the claim
    refine ⟨fun _ h_phase => (by cases h_phase), ?_, ?_⟩
    · rintro ⟨_, _, h_phase, -⟩
      cases h_phase
    · rintro at' lease h_phase
      cases h_phase
      obtain ⟨-, -, ⟨expiresAt, h_lease, -⟩, -⟩ := isFenced_iff.mp h_fenced
      refine ⟨expiresAt, h_lease, not_lt.mp fun h_late =>
        h.inForce ⟨claim, startedAt, rfl, h_fenced, ?_⟩⟩
      show session.leaseExpiresAt.any _ = true
      rw [h_lease]
      exact decide_eq_true h_late
  | lose h_not =>
    -- the daemon has lost the claim and says so
    refine ⟨fun _ h_phase => (by cases h_phase), ?_, fun _ _ h_phase => by cases h_phase⟩
    rintro ⟨_, _, h_phase, -⟩
    cases h_phase

/-- The end of the processing is recorded in its lease, or not at all, exactly if the lease has not
lapsed since the transaction began. -/
theorem recordedInLease_iff {workerId : String} {leaseSeconds : Time} {s s' : DaemonState}
    (h_step : DaemonStep workerId leaseSeconds s s') {claim : SessionClaim} {startedAt : Time}
    (h_before : s.phase = .processing claim startedAt) {recorded : Option (Time × Option Time)}
    (h_after : s'.phase = .finished recorded) :
    RecordedInLease s' ↔ ¬ LapsedSinceStart workerId s := by
  cases h_step with
  | @record clock session claim' startedAt' ended h_fenced =>
    obtain ⟨-, -, ⟨expiresAt, h_lease, -⟩, -⟩ := isFenced_iff.mp h_fenced
    constructor
    · rintro h_recorded ⟨_, _, -, -, h_lapsed⟩
      obtain ⟨expiresAt', h_lease', h_in⟩ := h_recorded clock session.leaseExpiresAt rfl
      rw [show session.leaseExpiresAt = some expiresAt' from h_lease', Option.any_some,
        decide_eq_true_eq] at h_lapsed
      exact absurd h_lapsed (not_lt.mpr h_in)
    · intro h_not at' lease h_phase
      cases h_phase
      refine ⟨expiresAt, h_lease, not_lt.mp fun h_late => h_not ⟨_, _, rfl, h_fenced, ?_⟩⟩
      show session.leaseExpiresAt.any _ = true
      rw [h_lease]
      exact decide_eq_true h_late
  | @lose clock session claim' startedAt' h_lost =>
    refine ⟨fun _ => ?_, fun _ _ _ h_phase => by cases h_phase⟩
    rintro ⟨_, _, h_phase, h_fenced, -⟩
    cases h_phase
    exact h_lost h_fenced
  | tick => rw [show _ = _ from h_before] at h_after; cases h_after
  | claim => cases h_before
  | begin => cases h_before
  | heartbeat => rw [show _ = _ from h_before] at h_after; cases h_after
  | other => rw [show _ = _ from h_before] at h_after; cases h_after

/-! ### Runs -/

/-- A state that a run of the daemon reaches. -/
abbrev DaemonReachable (workerId : String) (leaseSeconds : Time) : DaemonState → Prop :=
  Reachable DaemonInitial (DaemonStep workerId leaseSeconds)

/-- **Lease of an import.** In every run that renews its lease in time, the end of the processing is
recorded only while the lease is in force. In any run, it is recorded so, or not at all, exactly
if the lease has not lapsed since the transaction of the processing began. -/
theorem importLease (workerId : String) (leaseSeconds : Time) :
    (∀ s, Reachable DaemonInitial (fun s s' =>
        DaemonStep workerId leaseSeconds s s' ∧ RenewsInTime workerId s s') s →
      RecordedInLease s) ∧
    ∀ s s' claim startedAt recorded, DaemonReachable workerId leaseSeconds s →
      DaemonStep workerId leaseSeconds s s' → s.phase = .processing claim startedAt →
      s'.phase = .finished recorded →
      (RecordedInLease s' ↔ ¬ LapsedSinceStart workerId s) := by
  refine ⟨fun s h => ?_, fun s s' claim startedAt recorded _ h_step h_before h_after =>
    recordedInLease_iff h_step h_before h_after⟩
  have h_kept : LeaseKept workerId s := by
    refine h.invariant (fun s₀ h_initial => ?_) fun _ _ h_now h_step => h_now.step h_step.1 h_step.2
    have h_idle : s₀.phase = .idle := h_initial
    refine ⟨fun claim h_phase => ?_, ?_, fun at' lease h_phase => ?_⟩
    · rw [h_idle] at h_phase
      cases h_phase
    · rintro ⟨claim, startedAt, h_phase, -⟩
      rw [h_idle] at h_phase
      cases h_phase
    · rw [h_idle] at h_phase
      cases h_phase
  exact h_kept.recorded

/-- A session in the queue. -/
def queuedSession : UploadSession where
  uploadId := Uuid.repeated 6
  createdBy := Uuid.repeated 4
  clientRequestId := Uuid.repeated 5
  assetId := none
  assetName := some "customers"
  format := .csv
  sizeBytes := 16
  multipartId := none
  status := .staged
  expiresAt := none
  manifest := {}

/-- Its processing is recorded after a renewal. -/
theorem importLease_renewed : ∃ s : DaemonState, s.phase = .finished (some (100, some 110)) ∧
    RecordedInLease s := by
  let claimed := queuedSession.claim "import-worker-1" (0 + 60)
  let RenewedStep : DaemonState → DaemonState → Prop := fun s s' =>
    DaemonStep "import-worker-1" 60 s s' ∧ RenewsInTime "import-worker-1" s s'
  have h_same : ∀ {s s' : DaemonState}, s'.clock = s.clock →
      (∀ t, s'.session.leaseExpiresAt = some t → s'.clock ≤ t) →
      RenewsInTime "import-worker-1" s s' := fun h_clock h_lease =>
    ⟨fun _ _ _ _ _ _ h_later => absurd h_clock h_later.ne', fun t h_t _ => h_lease t h_t⟩
  have h_tick : ∀ {s : DaemonState} (later t : Time), s.session.leaseExpiresAt = some t →
      later ≤ t → RenewsInTime "import-worker-1" s { s with clock := later } := by
    intro s later t h_lease h_le
    refine ⟨fun _ _ t' _ _ h_t' _ => ?_, fun t' h_t' h_ne => absurd h_t' h_ne⟩
    rw [h_lease] at h_t'
    rwa [← Option.some.inj h_t']
  have h₁ : RenewedStep ⟨0, queuedSession, .idle⟩ ⟨0, claimed, .claimed claimed.toClaim⟩ :=
    ⟨.claim 0 0 le_rfl le_rfl rfl rfl, h_same rfl fun t h_t => by
      rw [← Option.some.inj h_t]; decide⟩
  have h₂ : RenewedStep ⟨0, claimed, .claimed claimed.toClaim⟩
      ⟨0, claimed, .processing claimed.toClaim 0⟩ :=
    ⟨.begin, h_same rfl fun t h_t => by rw [← Option.some.inj h_t]; decide⟩
  have h₃ : RenewedStep ⟨0, claimed, .processing claimed.toClaim 0⟩
      ⟨50, claimed, .processing claimed.toClaim 0⟩ :=
    ⟨.tick 50 (by decide), h_tick 50 60 rfl (by decide)⟩
  have h₄ : RenewedStep ⟨50, claimed, .processing claimed.toClaim 0⟩
      ⟨50, claimed.extend (50 + 60), .processing claimed.toClaim 0⟩ :=
    ⟨.heartbeat 50 rfl le_rfl (by decide), h_same rfl fun t h_t => by
      rw [← Option.some.inj h_t]; decide⟩
  have h₅ : RenewedStep ⟨50, claimed.extend (50 + 60), .processing claimed.toClaim 0⟩
      ⟨100, claimed.extend (50 + 60), .processing claimed.toClaim 0⟩ :=
    ⟨.tick 100 (by decide), h_tick 100 110 rfl (by decide)⟩
  have h₆ : RenewedStep ⟨100, claimed.extend (50 + 60), .processing claimed.toClaim 0⟩ _ :=
    ⟨.record (.rejected "EMPTY_FILE") (by decide), h_same rfl fun t h_t => by
      rw [← Option.some.inj h_t]; decide⟩
  have h_run := (((((ReflTransGen.single h₁).tail h₂).tail h₃).tail h₄).tail h₅).tail h₆
  exact ⟨_, rfl, (importLease "import-worker-1" 60).1 _
    ⟨⟨0, queuedSession, .idle⟩, (rfl : DaemonPhase.idle = .idle), h_run⟩⟩

/-- The heartbeats fail, and the end is recorded long after the lease. -/
theorem importLease_lapsed : ¬ ∀ workerId leaseSeconds s,
    DaemonReachable workerId leaseSeconds s → RecordedInLease s := by
  intro h_claim
  let claimed := queuedSession.claim "import-worker-1" (0 + 60)
  have h₁ : DaemonStep "import-worker-1" 60 ⟨0, queuedSession, .idle⟩
      ⟨0, claimed, .claimed claimed.toClaim⟩ := .claim 0 0 le_rfl le_rfl rfl rfl
  have h₂ : DaemonStep "import-worker-1" 60 ⟨0, claimed, .claimed claimed.toClaim⟩
      ⟨0, claimed, .processing claimed.toClaim 0⟩ := .begin
  have h₃ : DaemonStep "import-worker-1" 60 ⟨0, claimed, .processing claimed.toClaim 0⟩
      ⟨1000, claimed, .processing claimed.toClaim 0⟩ := .tick 1000 (by decide)
  have h₄ : DaemonStep "import-worker-1" 60 ⟨1000, claimed, .processing claimed.toClaim 0⟩ _ :=
    .record (.rejected "EMPTY_FILE") (by decide)
  have h_run := (((ReflTransGen.single h₁).tail h₂).tail h₃).tail h₄
  obtain ⟨expiresAt, h_lease, h_in⟩ := h_claim _ _ _
    ⟨⟨0, queuedSession, .idle⟩, (rfl : DaemonPhase.idle = .idle), h_run⟩ 1000 (some 60) rfl
  rw [← Option.some.inj h_lease] at h_in
  exact absurd h_in (by decide)

end DqScoring
