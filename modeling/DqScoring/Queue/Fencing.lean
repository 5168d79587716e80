import DqScoring.Framework.Transition
import DqScoring.Queue.RunQueue

/-!
# Fencing of the run queue

Any number of workers call the transactions of the queue and of the store, in any
order, while time passes. A worker may go on with a run after its lease has expired
and another worker has claimed the run: what protects the data is that every
transaction checks the lease generation and the lease time it was called with.

The proof looks at one run at a time. `Database.view` is what the tables hold about a
run: its row, and the numbers of its assessments and of its terminal events. `Move`
lists what a step can do to a view, and `exec_move` shows that every allowed call does
one of these to every run. Safety then is about moves alone:

* `Move.consistent`: the numbers are those that the run's status calls for;
* `Move.advances`: generations grow, only a claim changes them, and a terminal status
  is kept.
-/

namespace DqScoring

open Framework

variable {α : Type}

/-! ### The system -/

/-- What the transactions are called with besides their arguments. -/
structure QueueEnv where
  runtime : StoreRuntime
  catalog : Catalog

/-- A call of one transaction, or the passing of time. -/
inductive Call (α : Type) where
  | enqueueRun (spec : RunSpec) (idempotencyKey : String)
  | claimNextRun (workerId : String) (timeoutSeconds : ℤ) (runId : Option Uuid)
      (locked : Uuid → Bool)
  | heartbeat (runId : Uuid) (leaseGeneration : ℕ) (timeoutSeconds : Option ℤ)
  | saveAssessmentAtomic (assessment : ImmutableAssessment α)
      (ruleResults : List (QualityRuleResult α)) (leaseGeneration : ℕ)
  | completeRun (runId : Uuid) (leaseGeneration : ℕ) (status : RunStatus)
      (errorMessage : Option String)
  | tick (elapsed : ℕ)

/-- The call claims a run. -/
def Call.isClaim : Call α → Bool
  | .claimNextRun .. => true
  | _ => false

/-- The run and the lease generation that a call carries. -/
def Call.lease? : Call α → Option (Uuid × ℕ)
  | .heartbeat runId leaseGeneration _ => some (runId, leaseGeneration)
  | .saveAssessmentAtomic a _ leaseGeneration => some (a.runId, leaseGeneration)
  | .completeRun runId leaseGeneration _ _ => some (runId, leaseGeneration)
  | _ => none

/-- The database, and the leases under which an assessment has been saved: this is what
the workers know. -/
structure QueueState (α : Type) where
  db : Database α
  saved : List (Uuid × ℕ) := []

namespace QueueState

/-- Before the first call. -/
def Initial (s : QueueState α) : Prop :=
  ∃ now, s = { db := .initial now }

/-- The calls the workers make: a run is completed as failed, or as succeeded after a
save under the same lease. -/
def Allowed (s : QueueState α) : Call α → Prop
  | .completeRun runId leaseGeneration status _ =>
    status = .failed ∨ status = .succeeded ∧ (runId, leaseGeneration) ∈ s.saved
  | _ => True

variable [Field α] [LinearOrder α]

/-- The state after a call. A transaction that raises leaves the state as it was. -/
def exec (env : QueueEnv) (s : QueueState α) : Call α → QueueState α
  | .enqueueRun spec idempotencyKey =>
    match enqueueRun env.runtime.upper env.catalog s.db spec idempotencyKey with
    -- a call that raises leaves the database as it was
    | .ok (db, _) => { s with db }
    | .error _ => s
  | .claimNextRun workerId timeoutSeconds runId locked =>
    { s with db := (claimNextRun s.db workerId timeoutSeconds runId locked).1 }
  | .heartbeat runId leaseGeneration timeoutSeconds =>
    { s with db := (heartbeat s.db runId leaseGeneration timeoutSeconds).1 }
  | .saveAssessmentAtomic assessment ruleResults leaseGeneration =>
    match saveAssessmentAtomic env.runtime env.catalog s.db assessment ruleResults
        leaseGeneration with
    -- what was saved is recorded with its generation
    | .ok db => { db, saved := (assessment.runId, leaseGeneration) :: s.saved }
    | .error _ => s
  | .completeRun runId leaseGeneration status errorMessage =>
    { s with db := (completeRun s.db runId leaseGeneration status errorMessage).1 }
  | .tick elapsed => { s with db := { s.db with now := s.db.now + elapsed } }

/-- One step: some worker makes an allowed call, or time passes. -/
def Step (env : QueueEnv) (s s' : QueueState α) : Prop :=
  ∃ call, s.Allowed call ∧ s' = s.exec env call

end QueueState

/-! ### The views of a run -/

/-- A run in this status is done. -/
def RunStatus.isTerminal : RunStatus → Bool
  | .succeeded | .failed => true
  | _ => false

/-- The event records that a run is done. -/
def RunEvent.isTerminal (event : RunEvent) : Bool :=
  event.eventType = "RUN_SUCCEEDED" || event.eventType = "RUN_FAILED"

/-- What the tables hold about one run. -/
structure RunView where
  row : Option RunRow
  assessments : ℕ
  terminalEvents : ℕ

/-- The view of a run. -/
def Database.view (db : Database α) (runId : Uuid) : RunView where
  row := db.runs.find? runId
  assessments := db.assessments.rows.countP fun a => a.runId = runId
  terminalEvents := db.runEvents.countP fun event => event.runId = runId && event.isTerminal

/-- What a step does to the view of a run. Only a step that claims may lease it. -/
inductive Move (claiming : Bool) : RunView → RunView → Prop
  | stay (v : RunView) : Move claiming v v
  | enqueue {run : RunRow} {n m : ℕ} (h_queued : run.runStatus = .queued) :
      Move claiming ⟨none, n, m⟩ ⟨some run, n, m⟩
  | claim {run run' : RunRow} {n m : ℕ} (h_claiming : claiming = true)
      (h_open : run.runStatus.isTerminal = false) (h_leased : run'.runStatus = .leased)
      (h_generation : run'.leaseGeneration = run.leaseGeneration + 1) :
      Move claiming ⟨some run, n, m⟩ ⟨some run', n, m⟩
  | beat {run run' : RunRow} {n m : ℕ} (h_status : run'.runStatus = run.runStatus)
      (h_generation : run'.leaseGeneration = run.leaseGeneration) :
      Move claiming ⟨some run, n, m⟩ ⟨some run', n, m⟩
  | save {run run' : RunRow} {n m : ℕ} (h_active : run.isActive = true)
      (h_succeeded : run'.runStatus = .succeeded)
      (h_generation : run'.leaseGeneration = run.leaseGeneration) :
      Move claiming ⟨some run, n, m⟩ ⟨some run', n + 1, m + 1⟩
  | fail {run run' : RunRow} {n m : ℕ} (h_active : run.isActive = true)
      (h_failed : run'.runStatus = .failed)
      (h_generation : run'.leaseGeneration = run.leaseGeneration) :
      Move claiming ⟨some run, n, m⟩ ⟨some run', n, m + 1⟩

/-- The assessments and terminal events that a status calls for. -/
def RunStatus.records : RunStatus → ℕ × ℕ
  | .succeeded => (1, 1)
  | .failed => (0, 1)
  | _ => (0, 0)

/-- A run has the assessments and terminal events of its status; there are none of a run
that does not exist. -/
def RunView.Consistent (v : RunView) : Prop :=
  (v.assessments, v.terminalEvents) = (v.row.map (·.runStatus)).elim (0, 0) RunStatus.records

/-- A run that is not over has no assessment and no terminal event. -/
theorem records_of_not_terminal {status : RunStatus} (h : status.isTerminal = false) :
    status.records = (0, 0) := by
  cases status <;> first | rfl | cases h

/-- An active run is not over. -/
theorem not_terminal_of_isActive {run : RunRow} (h : run.isActive = true) :
    run.runStatus.isTerminal = false := by
  rw [RunRow.isActive, Bool.or_eq_true, beq_iff_eq, beq_iff_eq] at h
  rcases h with h | h <;> rw [h] <;> rfl

/-- Without a row there are no records. -/
@[simp] theorem consistent_none {n m : ℕ} :
    RunView.Consistent ⟨none, n, m⟩ ↔ (n, m) = (0, 0) := Iff.rfl

/-- The records of a row are those of its status. -/
@[simp] theorem consistent_some {run : RunRow} {n m : ℕ} :
    RunView.Consistent ⟨some run, n, m⟩ ↔ (n, m) = run.runStatus.records := Iff.rfl

/-- No status calls for a second assessment or terminal event. -/
theorem RunView.Consistent.le_one {v : RunView} (h : v.Consistent) :
    v.assessments ≤ 1 ∧ v.terminalEvents ≤ 1 := by
  obtain ⟨row, n, m⟩ := v
  cases row with
  | none =>
    obtain ⟨rfl, rfl⟩ := Prod.mk.inj h
    exact ⟨Nat.zero_le 1, Nat.zero_le 1⟩
  | some run =>
    have h_status : ∀ status : RunStatus, status.records.1 ≤ 1 ∧ status.records.2 ≤ 1 := by
      intro status
      cases status <;> decide
    rw [consistent_some] at h
    have h_le := h_status run.runStatus
    rw [← h] at h_le
    exact h_le

/-- **A move keeps consistency.** -/
theorem Move.consistent {claiming : Bool} {v v' : RunView} (h_move : Move claiming v v')
    (h : v.Consistent) : v'.Consistent := by
  cases h_move with
  | stay => exact h
  | enqueue h_queued =>
    rw [consistent_none] at h
    rw [consistent_some, h, h_queued]
    rfl
  | claim h_claiming h_open h_leased h_generation =>
    rw [consistent_some, records_of_not_terminal h_open] at h
    rw [consistent_some, h, h_leased]
    rfl
  | beat h_status h_generation =>
    -- the status is the same, and so are the numbers
    rw [consistent_some] at h ⊢
    rw [h, h_status]
  | save h_active h_succeeded h_generation =>
    -- an active run has neither yet
    rw [consistent_some, records_of_not_terminal (not_terminal_of_isActive h_active)] at h
    obtain ⟨rfl, rfl⟩ := Prod.mk.inj h
    rw [consistent_some, h_succeeded]
    rfl
  | fail h_active h_failed h_generation =>
    rw [consistent_some, records_of_not_terminal (not_terminal_of_isActive h_active)] at h
    obtain ⟨rfl, rfl⟩ := Prod.mk.inj h
    rw [consistent_some, h_failed]
    rfl

/-- How the row of a run may change: the lease generation does not decrease and changes
only by a claim, and a terminal status is kept. -/
structure RunRow.Advances (claiming : Bool) (run run' : RunRow) : Prop where
  generation_le : run.leaseGeneration ≤ run'.leaseGeneration
  generation_ne : run'.leaseGeneration ≠ run.leaseGeneration → claiming = true
  terminal : run.runStatus.isTerminal = true → run'.runStatus = run.runStatus

/-- **A move advances the row.** -/
theorem Move.advances {claiming : Bool} {v v' : RunView} (h_move : Move claiming v v')
    {run : RunRow} (h : v.row = some run) :
    ∃ run', v'.row = some run' ∧ run.Advances claiming run' := by
  -- moves that are made of runs in a known status, under the generation they had
  have h_ended : ∀ {run run' : RunRow}, run.isActive = true →
      run'.leaseGeneration = run.leaseGeneration → run.Advances claiming run' := by
    intro run run' h_active h_generation
    refine ⟨h_generation.ge, fun h_ne => absurd h_generation h_ne, fun h_terminal => ?_⟩
    rw [not_terminal_of_isActive h_active] at h_terminal
    cases h_terminal
  cases h_move with
  | stay => exact ⟨run, h, le_rfl, fun h_ne => absurd rfl h_ne, fun _ => rfl⟩
  | enqueue h_queued => cases h
  | claim h_claiming h_open h_leased h_generation =>
    obtain rfl := Option.some.inj h
    refine ⟨_, rfl, h_generation ▸ Nat.le_succ _, fun _ => h_claiming, fun h_terminal => ?_⟩
    rw [h_open] at h_terminal
    cases h_terminal
  | beat h_status h_generation =>
    obtain rfl := Option.some.inj h
    exact ⟨_, rfl, h_generation.ge, fun h_ne => absurd h_generation h_ne, fun _ => h_status⟩
  | save h_active h_succeeded h_generation =>
    obtain rfl := Option.some.inj h
    exact ⟨_, rfl, h_ended h_active h_generation⟩
  | fail h_active h_failed h_generation =>
    obtain rfl := Option.some.inj h
    exact ⟨_, rfl, h_ended h_active h_generation⟩

/-! ### Every call moves every run -/

/-- Events of one run count for that run only. -/
theorem countP_isTerminal_of_run {events : List RunEvent} {runId : Uuid}
    (h : ∀ event ∈ events, event.runId = runId) (k : Uuid) :
    (events.countP fun event => event.runId = k && event.isTerminal) =
      if k = runId then events.countP RunEvent.isTerminal else 0 := by
  by_cases h_k : k = runId
  · rw [if_pos h_k]
    refine List.countP_congr fun event h_event => ?_
    rw [h event h_event, h_k, decide_eq_true rfl, Bool.true_and]
  · rw [if_neg h_k, List.countP_eq_zero]
    intro event h_event
    have h_other : event.runId ≠ k := fun h_eq => h_k (h_eq.symm.trans (h event h_event))
    rw [decide_eq_false h_other, Bool.false_and]
    exact Bool.false_ne_true

/-- The number of terminal events that a call records, from the type of its event. -/
theorem countP_isTerminal_singleton {event : RunEvent} {eventType : String}
    (h : event.eventType = eventType) :
    [event].countP RunEvent.isTerminal =
      if eventType = "RUN_SUCCEEDED" || eventType = "RUN_FAILED" then 1 else 0 := by
  rw [List.countP_singleton, RunEvent.isTerminal, h]

/-- A transaction that writes one run moves that run, and leaves the others. -/
theorem WritesRun.moves {claiming : Bool} {db db' : Database α} {runId : Uuid} {row : RunRow}
    {events : List RunEvent} (h : WritesRun db runId row events db')
    (h_move : ∀ n m, Move claiming ⟨db.runs.find? runId, n, m⟩
      ⟨some row, n, m + events.countP RunEvent.isTerminal⟩) (k : Uuid) :
    Move claiming (db.view k) (db'.view k) := by
  have h_view : db'.view k = ⟨if k = runId then some row else db.runs.find? k,
      (db.view k).assessments, (db.view k).terminalEvents +
        if k = runId then events.countP RunEvent.isTerminal else 0⟩ := by
    rw [Database.view, h.runs, h.sameStore.assessments, h.runEvents, List.countP_append,
      countP_isTerminal_of_run h.of_run]
    rfl
  rw [h_view]
  by_cases h_k : k = runId
  · subst h_k
    rw [if_pos rfl, if_pos rfl]
    exact h_move _ _
  · rw [if_neg h_k, if_neg h_k]
    exact Move.stay _

/-- Enqueueing adds a queued run without records, or returns the one that is there. -/
theorem enqueueRun_moves {claiming : Bool} {upper : String → String} {catalog : Catalog}
    {db db' : Database α} {spec : RunSpec} {idempotencyKey : String} {runId : Uuid}
    (h : enqueueRun upper catalog db spec idempotencyKey = .ok (db', runId)) (k : Uuid) :
    Move claiming (db.view k) (db'.view k) := by
  rcases enqueueRun_ok h with rfl | ⟨run, event, h_free, h_queued, h_type, h_writes⟩
  · exact Move.stay _
  · refine h_writes.moves (fun n m => ?_) k
    rw [h_free, countP_isTerminal_singleton h_type]
    exact Move.enqueue h_queued

/-- Claiming leases at most one open run, under its next generation. -/
theorem claimNextRun_moves (db : Database α) (workerId : String) (timeoutSeconds : ℤ)
    (runId : Option Uuid) (locked : Uuid → Bool) (k : Uuid) :
    Move true (db.view k) ((claimNextRun db workerId timeoutSeconds runId locked).1.view k) := by
  rcases claimNextRun_spec db workerId timeoutSeconds runId locked with
    h_same | ⟨run, event, h_found, h_claimable, h_type, h_writes⟩
  · rw [h_same]
    exact Move.stay _
  · refine h_writes.moves (fun n m => ?_) k
    rw [h_found, countP_isTerminal_singleton h_type]
    have h_open : run.runStatus.isTerminal = false := by
      -- a run is claimed when it is queued, leased or running
      rw [RunRow.isClaimable, Bool.and_eq_true, Bool.or_eq_true, Bool.and_eq_true,
        beq_iff_eq] at h_claimable
      rcases h_claimable.1 with h_queued | ⟨h_active, -⟩
      · rw [h_queued]
        rfl
      · exact not_terminal_of_isActive h_active
    exact Move.claim rfl h_open rfl rfl

/-- A heartbeat moves the lease of the run it owns, and nothing else. -/
theorem heartbeat_moves {claiming : Bool} (db : Database α) (runId : Uuid)
    (leaseGeneration : ℕ) (timeoutSeconds : Option ℤ) (k : Uuid) :
    Move claiming (db.view k) ((heartbeat db runId leaseGeneration timeoutSeconds).1.view k) := by
  rcases heartbeat_spec db runId leaseGeneration timeoutSeconds with
    h_same | ⟨run, timeout, h_found, -, h_writes⟩
  · rw [h_same]
    exact Move.stay _
  · refine h_writes.moves (fun n m => ?_) k
    rw [h_found]
    exact Move.beat rfl rfl

/-- An owned run is active. -/
theorem isActive_of_ownedBy {runId : Uuid} {leaseGeneration : ℕ} {now : Time} {run : RunRow}
    (h : run.ownedBy runId leaseGeneration now = true) : run.isActive = true := by
  rw [RunRow.ownedBy, Bool.and_eq_true, Bool.and_eq_true] at h
  exact h.1.2

/-- A completion as failed, or of a run that has already succeeded. -/
theorem completeRun_moves {claiming : Bool} {db : Database α} {runId : Uuid}
    {leaseGeneration : ℕ} {status : RunStatus} {errorMessage : Option String}
    (h : status = .failed ∨
      ∃ run, db.runs.find? runId = some run ∧ run.runStatus = .succeeded) (k : Uuid) :
    Move claiming (db.view k)
      ((completeRun db runId leaseGeneration status errorMessage).1.view k) := by
  rcases completeRun_spec db runId leaseGeneration status errorMessage with
    h_same | ⟨run, event, h_found, h_owned, h_type, h_writes⟩
  · rw [h_same]
    exact Move.stay _
  · have h_active : run.isActive = true := isActive_of_ownedBy h_owned
    rcases h with rfl | ⟨run', h_found', h_succeeded⟩
    · refine h_writes.moves (fun n m => ?_) k
      rw [h_found, countP_isTerminal_singleton h_type]
      exact Move.fail h_active rfl rfl
    · -- a run that has succeeded is not active
      obtain rfl : run = run' := Option.some.inj (h_found.symm.trans h_found')
      have h_open := not_terminal_of_isActive h_active
      rw [h_succeeded] at h_open
      cases h_open

section Save

variable [Field α] [LinearOrder α]

/-- Saving writes assessment, status and terminal event of an owned run in one transaction.
-/
theorem saveAssessmentAtomic_moves {claiming : Bool} {rt : StoreRuntime} {catalog : Catalog}
    {db db' : Database α} {a : ImmutableAssessment α} {ruleResults : List (QualityRuleResult α)}
    {leaseGeneration : ℕ}
    (h : saveAssessmentAtomic rt catalog db a ruleResults leaseGeneration = .ok db') (k : Uuid) :
    Move claiming (db.view k) (db'.view k) := by
  obtain ⟨run, h_saved⟩ := saveAssessmentAtomic_ok h
  have h_event : (succeededEvent a run.attemptCount leaseGeneration db.now).isTerminal = true :=
    rfl
  -- one assessment and one terminal event more, both of this run
  have h_view : db'.view k = ⟨if k = a.runId then some (run.succeed db.now) else db.runs.find? k,
      (db.view k).assessments + (if a.runId = k then 1 else 0),
      (db.view k).terminalEvents + (if a.runId = k then 1 else 0)⟩ := by
    rw [Database.view, h_saved.runs, Table.rows_of_insert h_saved.assessments, h_saved.events,
      List.countP_append, List.countP_append, List.countP_singleton, List.countP_singleton,
      h_event, Bool.and_true]
    simp only [decide_eq_true_eq]
    rfl
  rw [h_view]
  by_cases h_k : k = a.runId
  · subst h_k
    rw [if_pos rfl, if_pos rfl, Database.view, h_saved.found]
    exact Move.save (isActive_of_ownedBy h_saved.owned) rfl rfl
  · rw [if_neg h_k, if_neg (Ne.symm h_k)]
    exact Move.stay _

/-! ### Reachable states -/

namespace QueueState

/-- What holds of every reachable state. -/
structure Inv (s : QueueState α) : Prop where
  consistent : ∀ runId, (s.db.view runId).Consistent
  saved : ∀ lease ∈ s.saved, ∃ run,
    s.db.runs.find? lease.1 = some run ∧ run.runStatus = .succeeded

/-- **Every allowed call moves every run.** -/
theorem exec_move (env : QueueEnv) {s : QueueState α} (h : s.Inv) {call : Call α}
    (h_allowed : s.Allowed call) (runId : Uuid) :
    Move call.isClaim (s.db.view runId) ((s.exec env call).db.view runId) := by
  cases call with
  | enqueueRun spec idempotencyKey =>
    dsimp only [exec]
    split
    · next h_ok => exact enqueueRun_moves h_ok runId
    · exact Move.stay _
  | claimNextRun workerId timeoutSeconds claimed locked =>
    exact claimNextRun_moves s.db workerId timeoutSeconds claimed locked runId
  | heartbeat beating leaseGeneration timeoutSeconds =>
    exact heartbeat_moves s.db beating leaseGeneration timeoutSeconds runId
  | saveAssessmentAtomic a ruleResults leaseGeneration =>
    dsimp only [exec]
    split
    · next h_ok => exact saveAssessmentAtomic_moves h_ok runId
    · exact Move.stay _
  | completeRun completed leaseGeneration status errorMessage =>
    -- a worker that completes as succeeded has saved, so the run has succeeded already
    refine completeRun_moves ?_ runId
    rcases h_allowed with h_failed | ⟨-, h_saved⟩
    · exact Or.inl h_failed
    · exact Or.inr (h.saved _ h_saved)
  | tick elapsed => exact Move.stay _

omit [Field α] [LinearOrder α] in
/-- An empty queue keeps the invariant. -/
theorem Inv.initial {s : QueueState α} (h : s.Initial) : s.Inv := by
  obtain ⟨now, rfl⟩ := h
  exact ⟨fun _ => rfl, fun lease h_lease => by cases h_lease⟩

omit [Field α] [LinearOrder α] in
/-- A run that has succeeded stays so. -/
theorem succeeded_of_move {claiming : Bool} {db db' : Database α} {runId : Uuid}
    (h_move : Move claiming (db.view runId) (db'.view runId)) {run : RunRow}
    (h_found : db.runs.find? runId = some run) (h_succeeded : run.runStatus = .succeeded) :
    ∃ run', db'.runs.find? runId = some run' ∧ run'.runStatus = .succeeded := by
  obtain ⟨run', h_found', h_adv⟩ := h_move.advances h_found
  have h_terminal : run.runStatus.isTerminal = true := by
    rw [h_succeeded]
    rfl
  exact ⟨run', h_found', (h_adv.terminal h_terminal).trans h_succeeded⟩

/-- The leases saved under after a call: those before, and the one of a save. -/
theorem mem_saved_exec {env : QueueEnv} {s : QueueState α} {call : Call α} {lease : Uuid × ℕ}
    (h : lease ∈ (s.exec env call).saved) :
    lease ∈ s.saved ∨ ∃ run, (s.exec env call).db.runs.find? lease.1 = some run ∧
      run.runStatus = .succeeded := by
  cases call with
  | saveAssessmentAtomic a ruleResults leaseGeneration =>
    dsimp only [exec] at h ⊢
    cases h_save : saveAssessmentAtomic env.runtime env.catalog s.db a ruleResults
        leaseGeneration with
    | error e =>
      rw [h_save] at h
      exact Or.inl h
    | ok db =>
      rw [h_save] at h
      rcases List.mem_cons.mp h with rfl | h_before
      · obtain ⟨run, h_saved⟩ := saveAssessmentAtomic_ok h_save
        exact Or.inr ⟨run.succeed s.db.now, (h_saved.runs a.runId).trans (if_pos rfl), rfl⟩
      · exact Or.inl h_before
  | enqueueRun spec idempotencyKey =>
    dsimp only [exec] at h
    split at h <;> exact Or.inl h
  | claimNextRun workerId timeoutSeconds claimed locked => exact Or.inl h
  | heartbeat beating leaseGeneration timeoutSeconds => exact Or.inl h
  | completeRun completed leaseGeneration status errorMessage => exact Or.inl h
  | tick elapsed => exact Or.inl h

/-- **The invariant is kept by every step.** -/
theorem Inv.step {env : QueueEnv} {s s' : QueueState α} (h : s.Inv) (h_step : Step env s s') :
    s'.Inv := by
  obtain ⟨call, h_allowed, rfl⟩ := h_step
  have h_move := exec_move env h h_allowed
  refine ⟨fun runId => (h_move runId).consistent (h.consistent runId), fun lease h_lease => ?_⟩
  rcases mem_saved_exec h_lease with h_before | h_now
  · obtain ⟨run, h_found, h_succeeded⟩ := h.saved lease h_before
    exact succeeded_of_move (h_move lease.1) h_found h_succeeded
  · exact h_now

end QueueState

end Save

/-! ### Stale leases -/

/-- The lease of a run has expired. -/
def RunRow.LeaseExpired (now : Time) (run : RunRow) : Prop :=
  ∃ t, run.leaseExpiresAt = some t ∧ t ≤ now

/-- A lease generation of a run is stale: it is not the current one, or the lease has
expired. -/
def Database.Stale (db : Database α) (runId : Uuid) (leaseGeneration : ℕ) : Prop :=
  ∀ run, db.runs.find? runId = some run →
    run.leaseGeneration ≠ leaseGeneration ∨ run.LeaseExpired db.now

/-- An expired lease is not in force. -/
theorem not_leaseLive_of_expired {run : RunRow} {now : Time} (h : run.LeaseExpired now) :
    run.leaseLive now = false := by
  obtain ⟨t, h_t, h_le⟩ := h
  rw [RunRow.leaseLive, h_t, Option.any_some, decide_eq_false (not_lt.mpr h_le)]

/-- An expired lease is not open. -/
theorem not_leaseOpen_of_expired {run : RunRow} {now : Time} (h : run.LeaseExpired now) :
    run.leaseOpen now = false := by
  rw [RunRow.leaseOpen, not_leaseLive_of_expired h, Bool.or_false]
  obtain ⟨t, h_t, -⟩ := h
  rw [h_t, Option.isNone_some]

/-- No run is owned under a stale lease. -/
theorem not_ownedBy_of_stale {db : Database α} {runId : Uuid} {leaseGeneration : ℕ}
    (h : db.Stale runId leaseGeneration) {run : RunRow} (h_found : db.runs.find? runId = some run) :
    run.ownedBy runId leaseGeneration db.now = false := by
  rw [RunRow.ownedBy]
  rcases h run h_found with h_generation | h_expired
  · rw [decide_eq_false h_generation, Bool.and_false, Bool.false_and, Bool.false_and]
  · rw [not_leaseOpen_of_expired h_expired, Bool.and_false]

/-- No heartbeat finds its run under a stale lease. -/
theorem not_beating_of_stale {db : Database α} {runId : Uuid} {leaseGeneration : ℕ}
    (h : db.Stale runId leaseGeneration) {run : RunRow} (h_found : db.runs.find? runId = some run) :
    run.beating runId leaseGeneration db.now = false := by
  rw [Bool.eq_false_iff]
  intro h_beating
  have h_owned := ownedBy_of_beating h_beating
  rw [not_ownedBy_of_stale h h_found] at h_owned
  cases h_owned

section Fencing

variable [Field α] [LinearOrder α]

/-- **Fencing.** A call with a stale lease changes nothing. -/
theorem QueueState.exec_of_stale {env : QueueEnv} {s : QueueState α} {call : Call α}
    {runId : Uuid} {leaseGeneration : ℕ} (h_lease : call.lease? = some (runId, leaseGeneration))
    (h_stale : s.db.Stale runId leaseGeneration) : (s.exec env call).db = s.db := by
  cases call with
  | enqueueRun spec idempotencyKey => cases h_lease
  | claimNextRun workerId timeoutSeconds claimed locked => cases h_lease
  | tick elapsed => cases h_lease
  | heartbeat beating generation timeoutSeconds =>
    obtain ⟨rfl, rfl⟩ := Prod.mk.inj (Option.some.inj h_lease)
    rcases heartbeat_spec s.db beating generation timeoutSeconds with
      h_same | ⟨run, timeout, h_found, h_beating, -⟩
    · exact h_same
    · rw [not_beating_of_stale h_stale h_found] at h_beating
      cases h_beating
  | saveAssessmentAtomic a ruleResults generation =>
    obtain ⟨rfl, rfl⟩ := Prod.mk.inj (Option.some.inj h_lease)
    dsimp only [QueueState.exec]
    split
    · next db h_ok =>
      -- a save that succeeds owned the run
      obtain ⟨run, h_saved⟩ := saveAssessmentAtomic_ok h_ok
      have h_owned := h_saved.owned
      rw [not_ownedBy_of_stale h_stale h_saved.found] at h_owned
      cases h_owned
    · rfl
  | completeRun completed generation status errorMessage =>
    obtain ⟨rfl, rfl⟩ := Prod.mk.inj (Option.some.inj h_lease)
    rcases completeRun_spec s.db completed generation status errorMessage with
      h_same | ⟨run, event, h_found, h_owned, -⟩
    · exact h_same
    · rw [not_ownedBy_of_stale h_stale h_found] at h_owned
      cases h_owned

/-! ### Safety -/

/-- Every run has at most one assessment and at most one terminal event, and is SUCCEEDED
exactly when it has an assessment. -/
structure Database.RunsConsistent (db : Database α) : Prop where
  assessments_le : ∀ runId, (db.view runId).assessments ≤ 1
  terminalEvents_le : ∀ runId, (db.view runId).terminalEvents ≤ 1
  succeeded_iff : ∀ runId,
    (∃ run, db.runs.find? runId = some run ∧ run.runStatus = .succeeded) ↔
      ∃ a ∈ db.assessments.rows, a.runId = runId

/-- Every run of the first database is in the second, and has advanced. -/
def Database.RunsAdvance (claiming : Bool) (db db' : Database α) : Prop :=
  ∀ runId run, db.runs.find? runId = some run →
    ∃ run', db'.runs.find? runId = some run' ∧ run.Advances claiming run'

omit [Field α] [LinearOrder α] in
/-- The records of the whole database are consistent when those of each run are. -/
theorem Database.RunsConsistent.of_views {db : Database α}
    (h : ∀ runId, (db.view runId).Consistent) : db.RunsConsistent where
  assessments_le := fun runId => (h runId).le_one.1
  terminalEvents_le := fun runId => (h runId).le_one.2
  succeeded_iff := fun runId => by
    have h_records := congrArg Prod.fst (h runId)
    dsimp only at h_records
    -- there is an assessment when their number is positive, and only SUCCEEDED calls for one
    have h_exists : (∃ a ∈ db.assessments.rows, a.runId = runId) ↔
        0 < (db.view runId).assessments := by
      rw [Database.view, List.countP_pos_iff]
      simp only [decide_eq_true_eq]
    rw [h_exists, h_records]
    show (∃ run, (db.view runId).row = some run ∧ run.runStatus = .succeeded) ↔ _
    cases (db.view runId).row with
    | none => simp
    | some run =>
      rw [Option.map_some, Option.elim_some]
      cases h_status : run.runStatus <;> simp [RunStatus.records, h_status]

omit [Field α] [LinearOrder α] in
/-- A run only moves forward. -/
theorem RunRow.Advances.trans {run run' run'' : RunRow} (h : run.Advances true run')
    (h' : run'.Advances true run'') : run.Advances true run'' where
  generation_le := h.generation_le.trans h'.generation_le
  generation_ne := fun _ => rfl
  terminal := fun h_terminal => by
    have h_same := h.terminal h_terminal
    rw [← h_same] at h_terminal
    exact (h'.terminal h_terminal).trans h_same

/-- The invariant holds in every reachable state. -/
theorem QueueState.Inv.of_reachable {env : QueueEnv} {s : QueueState α}
    (h : Reachable QueueState.Initial (QueueState.Step env) s) : s.Inv :=
  h.invariant (fun _ h_initial => Inv.initial h_initial) fun _ _ h_inv h_step => h_inv.step h_step

/-- Each call moves every run forward, and only a claim raises a generation. -/
theorem QueueState.exec_advances {env : QueueEnv} {s : QueueState α} (h : s.Inv)
    {call : Call α} (h_allowed : s.Allowed call) :
    s.db.RunsAdvance call.isClaim (s.exec env call).db :=
  fun runId _ h_found => (exec_move env h h_allowed runId).advances h_found

/-- **Safety of the queue.** In every reachable state the runs are consistent; an allowed
call advances the runs, and changes nothing when its lease is stale; and whatever happens
later, the runs have only advanced. -/
theorem queue_safe (env : QueueEnv) {s : QueueState α}
    (h : Reachable QueueState.Initial (QueueState.Step env) s) :
    s.db.RunsConsistent ∧
      (∀ call, s.Allowed call → s.db.RunsAdvance call.isClaim (s.exec env call).db ∧
        ∀ runId leaseGeneration, call.lease? = some (runId, leaseGeneration) →
          s.db.Stale runId leaseGeneration → (s.exec env call).db = s.db) ∧
      ∀ s', Relation.ReflTransGen (QueueState.Step env) s s' → s.db.RunsAdvance true s'.db := by
  have h_inv := QueueState.Inv.of_reachable h
  refine ⟨.of_views h_inv.consistent, fun call h_allowed => ?_, fun s' h_run => ?_⟩
  · exact ⟨QueueState.exec_advances h_inv h_allowed, fun runId leaseGeneration h_lease h_stale =>
      QueueState.exec_of_stale h_lease h_stale⟩
  · -- along a run: to advance is reflexive, transitive, and what every step does
    refine Reachable.rel_of_run (R := fun s s' => s.db.RunsAdvance true s'.db)
      (fun s runId run h_found => ?_) (fun s₁ s₂ s₃ h₁ h₂ runId run h_found => ?_)
      (fun s₁ s₂ h₁ h_step runId run h_found => ?_) h h_run
    · exact ⟨run, h_found, le_rfl, fun _ => rfl, fun _ => rfl⟩
    · obtain ⟨run', h_found', h_advances⟩ := h₁ runId run h_found
      obtain ⟨run'', h_found'', h_advances'⟩ := h₂ runId run' h_found'
      exact ⟨run'', h_found'', h_advances.trans h_advances'⟩
    · obtain ⟨call, h_allowed, rfl⟩ := h_step
      obtain ⟨run', h_found', h_advances⟩ :=
        QueueState.exec_advances (QueueState.Inv.of_reachable h₁) h_allowed runId run h_found
      exact ⟨run', h_found', h_advances.generation_le, fun _ => rfl, h_advances.terminal⟩

end Fencing

/-! ### A run that is saved -/

/-- A catalog in which every reference resolves. -/
def fullCatalog : Catalog where
  hasSnapshot := fun _ _ => true
  hasRuleset := fun _ _ => true
  hasPolicy := fun _ _ => true
  hasRule := fun _ _ => true
  hasUser := fun _ => true
  snapshotContentSha256 := fun _ => none
  rulesetConfigHash := fun _ => none
  policyConfigHash := fun _ => none

/-- A runtime for texts in ASCII and results without evidence. -/
def plainRuntime : StoreRuntime where
  upper := String.toUpper
  sha256 := id
  prepareBoundedEvidencePayload := fun _ _ _ => {}
  encodedSize := fun _ => 2
  storedSize := fun _ => 2

/-- A specification of run 1. -/
def runOne : RunSpec where
  runId := .repeated 1
  tenantId := .repeated 2
  snapshotId := .repeated 3
  rulesetId := some (.repeated 4)
  policyId := some (.repeated 5)
  createdBy := some (.repeated 6)
  outlierConfigHash := "h"

/-- An assessment of run 1. -/
def assessmentOne : ImmutableAssessment ℚ where
  assessmentId := .repeated 7
  tenantId := .repeated 2
  runId := .repeated 1
  snapshotId := .repeated 3
  dqScore := some 90
  publicationStatus := .published
  coverageRatio := some 1
  qualityGate := .pass
  dimensionResults := []
  assessmentHash := "a"
  createdAt := 20

/-- The environment of run 1. -/
def plainEnv : QueueEnv where
  runtime := plainRuntime
  catalog := fullCatalog

/-- Run 1 enqueued and claimed. -/
def claimedOne : QueueState ℚ :=
  let s : QueueState ℚ := { db := .initial 10 }
  let s := s.exec plainEnv (.enqueueRun runOne "key")
  s.exec plainEnv (.claimNextRun "worker" 300 none fun _ => false)

/-- Run 1 saved. -/
def savedOne : QueueState ℚ :=
  claimedOne.exec plainEnv (.saveAssessmentAtomic assessmentOne [] 1)

theorem reachable_claimedOne :
    Reachable QueueState.Initial (QueueState.Step plainEnv) claimedOne :=
  ((Reachable.of_initial ⟨10, rfl⟩).next ⟨.enqueueRun runOne "key", trivial, rfl⟩).next
    ⟨.claimNextRun "worker" 300 none fun _ => false, trivial, rfl⟩

theorem queue_safe_savedOne :
    savedOne.db.RunsConsistent ∧ getRunStatus savedOne.db (.repeated 1) = some .succeeded := by
  have h_reachable : Reachable QueueState.Initial (QueueState.Step plainEnv) savedOne :=
    reachable_claimedOne.next ⟨.saveAssessmentAtomic assessmentOne [] 1, trivial, rfl⟩
  exact ⟨(queue_safe _ h_reachable).1, by decide +kernel⟩

end DqScoring
