import DqScoring.Framework.Transaction
import DqScoring.Queue.Fencing
import DqScoring.Queue.RunSpecs

/-!
# Triggering runs

`POST /api/v1/runs` as a transaction: `trigger_run` reads the configuration and builds a
specification, `PostgresQueueAdapter.enqueue_run` looks for the idempotency key, inserts the
run or reads back the one that a concurrent request has inserted, and the response is built
from the request. Requests run in any interleaving with each other and with the transactions
of the workers, which take the runs on.

What every write keeps is `Database.Grows`: a run stays and is of the same request, each key
of a tenant has one run, and each run one RUN_QUEUED event. The queue guarantees the
identifier only: a response describes the run exactly if the request is the one that the run
was made for and the run is still queued (`triggerRun_idempotent`).

The statements on the configuration are read at different times. What they return is an
argument of the request (`TriggerCall.config`), so that nothing is assumed of the changes of
the configuration.
-/

namespace DqScoring

open Framework

variable {α : Type}

/-! ### What the writes keep -/

/-- The rows are of one request: what a run is made of never changes. -/
structure RunRow.SameRequest (run run' : RunRow) : Prop where
  runId : run'.runId = run.runId
  tenantId : run'.tenantId = run.tenantId
  idempotencyKey : run'.idempotencyKey = run.idempotencyKey
  snapshotId : run'.snapshotId = run.snapshotId
  rulesetId : run'.rulesetId = run.rulesetId
  policyId : run'.policyId = run.policyId

theorem RunRow.SameRequest.refl (run : RunRow) : run.SameRequest run :=
  ⟨rfl, rfl, rfl, rfl, rfl, rfl⟩

/-- Rows of one request stay so over two moves. -/
theorem RunRow.SameRequest.trans {run run' run'' : RunRow} (h : run.SameRequest run')
    (h' : run'.SameRequest run'') : run.SameRequest run'' where
  runId := h'.runId.trans h.runId
  tenantId := h'.tenantId.trans h.tenantId
  idempotencyKey := h'.idempotencyKey.trans h.idempotencyKey
  snapshotId := h'.snapshotId.trans h.snapshotId
  rulesetId := h'.rulesetId.trans h.rulesetId
  policyId := h'.policyId.trans h.policyId

namespace Database

/-- The run of a tenant and an idempotency key. -/
def findKey (tenantId : Uuid) (key : String) (db : Database α) : Option RunRow :=
  db.runs.rows.find? fun run => run.tenantId = tenantId ∧ run.idempotencyKey = key

/-- A run found by its key is the tenant's run of that key. -/
theorem findKey_some {db : Database α} {tenantId : Uuid} {key : String} {run : RunRow}
    (h : db.findKey tenantId key = some run) :
    db.runs.find? run.runId = some run ∧ run.tenantId = tenantId ∧ run.idempotencyKey = key := by
  have h_found := List.find?_some h
  simp only [decide_eq_true_eq] at h_found
  exact ⟨Table.find?_eq_some_iff.mpr ⟨List.mem_of_find?_eq_some h, rfl⟩, h_found⟩

/-- The number of RUN_QUEUED events of a run. -/
def queuedEvents (db : Database α) (runId : Uuid) : ℕ :=
  db.runEvents.countP fun e => decide (e.runId = runId) && decide (e.eventType = "RUN_QUEUED")

/-- Each key of a tenant has one run, and each run one RUN_QUEUED event. -/
structure Keyed (db : Database α) : Prop where
  unique : ∀ r r', db.runs.find? r.runId = some r → db.runs.find? r'.runId = some r' →
    r.tenantId = r'.tenantId → r.idempotencyKey = r'.idempotencyKey → r.runId = r'.runId
  events : ∀ runId, db.queuedEvents runId = if (db.runs.find? runId).isSome then 1 else 0

/-- What every transaction does to the runs. -/
structure Grows (db db' : Database α) : Prop where
  keyed : db.Keyed → db'.Keyed
  runs : ∀ runId run, db.runs.find? runId = some run →
    ∃ run', db'.runs.find? runId = some run' ∧ run.SameRequest run'

theorem Grows.refl (db : Database α) : db.Grows db :=
  ⟨id, fun _ run h => ⟨run, h, .refl run⟩⟩

/-- Runs are only ever added, so growth composes. -/
theorem Grows.trans {db db' db'' : Database α} (h : db.Grows db') (h' : db'.Grows db'') :
    db.Grows db'' := by
  refine ⟨fun h_keyed => h'.keyed (h.keyed h_keyed), fun runId run h_run => ?_⟩
  obtain ⟨run', h_run', h_same⟩ := h.runs runId run h_run
  obtain ⟨run'', h_run'', h_same'⟩ := h'.runs runId run' h_run'
  exact ⟨run'', h_run'', h_same.trans h_same'⟩

/-- Events of other types are not counted. -/
theorem queuedEvents_append {db db' : Database α} {events : List RunEvent}
    (h : db'.runEvents = db.runEvents ++ events)
    (h_events : ∀ e ∈ events, e.eventType ≠ "RUN_QUEUED") (runId : Uuid) :
    db'.queuedEvents runId = db.queuedEvents runId := by
  unfold queuedEvents
  rw [h, List.countP_append]
  have h_none : events.countP (fun e => decide (e.runId = runId) &&
      decide (e.eventType = "RUN_QUEUED")) = 0 := by
    rw [List.countP_eq_zero]
    intro e h_e h_counted
    rw [Bool.and_eq_true, decide_eq_true_eq, decide_eq_true_eq] at h_counted
    exact h_events e h_e h_counted.2
  rw [h_none, Nat.add_zero]

/-- A transaction that writes a run without changing its request keeps the runs. -/
theorem Grows.of_write {db db' : Database α} {runId : Uuid} {run row : RunRow}
    {events : List RunEvent}
    (h_runs : ∀ k, db'.runs.find? k = if k = runId then some row else db.runs.find? k)
    (h_appended : db'.runEvents = db.runEvents ++ events)
    (h_found : db.runs.find? runId = some run) (h_same : run.SameRequest row)
    (h_events : ∀ e ∈ events, e.eventType ≠ "RUN_QUEUED") : db.Grows db' := by
  have h_id : run.runId = runId := (Table.find?_eq_some_iff.mp h_found).2
  -- the row that a run has now is of the request of the row that it had
  have h_before : ∀ r, db'.runs.find? r.runId = some r →
      ∃ r₀, db.runs.find? r₀.runId = some r₀ ∧ r₀.SameRequest r := by
    intro r h_r
    rw [h_runs] at h_r
    by_cases h_eq : r.runId = runId
    · rw [if_pos h_eq] at h_r
      obtain rfl := Option.some.inj h_r
      exact ⟨run, h_id ▸ h_found, h_same⟩
    · rw [if_neg h_eq] at h_r
      exact ⟨r, h_r, .refl r⟩
  refine ⟨fun h_keyed => ⟨fun r r' h_r h_r' h_tenant h_key => ?_, fun id => ?_⟩,
    fun id r h_r => ?_⟩
  · obtain ⟨r₀, h_r₀, h_from⟩ := h_before r h_r
    obtain ⟨r₀', h_r₀', h_from'⟩ := h_before r' h_r'
    rw [h_from.runId, h_from'.runId]
    refine h_keyed.unique r₀ r₀' h_r₀ h_r₀' ?_ ?_
    · rw [← h_from.tenantId, ← h_from'.tenantId, h_tenant]
    · rw [← h_from.idempotencyKey, ← h_from'.idempotencyKey, h_key]
  · rw [queuedEvents_append h_appended h_events, h_keyed.events, h_runs]
    by_cases h_eq : id = runId
    · rw [if_pos h_eq, h_eq, h_found]
      rfl
    · rw [if_neg h_eq]
  · rw [h_runs]
    by_cases h_eq : id = runId
    · rw [if_pos h_eq]
      rw [h_eq, h_found] at h_r
      rw [← Option.some.inj h_r]
      exact ⟨row, rfl, h_same⟩
    · rw [if_neg h_eq]
      exact ⟨r, h_r, .refl r⟩

/-- A transaction that leaves the runs and their events keeps the runs. -/
theorem Grows.of_runs_eq {db db' : Database α} (h_runs : db'.runs = db.runs)
    (h_events : db'.runEvents = db.runEvents) : db.Grows db' := by
  have h_counts : ∀ id, db'.queuedEvents id = db.queuedEvents id := fun id => by
    unfold queuedEvents
    rw [h_events]
  refine ⟨fun h => ⟨?_, fun id => ?_⟩, fun id r h_r => ⟨r, ?_, .refl r⟩⟩
  · rw [h_runs]
    exact h.unique
  · rw [h_counts, h_runs]
    exact h.events id
  · rw [h_runs]
    exact h_r

end Database

/-! ### Requests -/

variable [Field α] [LinearOrder α]

/-- `RunResponse`, as `trigger_run` fills it. -/
structure RunResponse where
  runId : Uuid
  tenantId : Uuid
  snapshotId : Uuid
  rulesetId : Uuid
  policyId : Uuid
  status : String
  createdAt : Time
  deriving DecidableEq

/-- A request, with what its statements on the configuration return. -/
structure TriggerCall (α : Type) [Field α] [LinearOrder α] where
  req : TriggerRunRequest
  idempotencyKey : Option String
  currentUser : AuthenticatedUser
  config : ConfigurationDb α
  order : RowOrder (QualityRuleRow α)
  /-- What `uuid4()` and `datetime.now(UTC)` give. -/
  runId : Uuid
  now : Time

/-- `req.idempotency_key or f"run-{run_id}"`. -/
def TriggerCall.key (call : TriggerCall α) : String :=
  match call.idempotencyKey with
  | none => "run-" ++ call.runId.str
  | some key => if key = "" then "run-" ++ call.runId.str else key

/-- The response of a request, with the identifier that the queue returns. -/
def TriggerCall.response (call : TriggerCall α) (actualRunId : Uuid) : RunResponse where
  runId := actualRunId
  tenantId := call.currentUser.tenantId
  snapshotId := call.req.snapshotId
  rulesetId := call.req.rulesetId
  policyId := call.req.policyId
  status := "QUEUED"
  createdAt := call.now

/-- What the requests are served with. -/
structure TriggerEnv (α : Type) [Field α] [LinearOrder α] where
  queue : QueueEnv
  reading : FloatReading α
  /-- The SHA-256 of the stored outlier configuration. -/
  outlierHash : ExecutionSpec α → String

/-- How a request is refused. -/
inductive TriggerError where
  | spec (e : SpecError)
  /-- The key is taken, and then no run has it. -/
  | unreadable

/-- The index entry of an idempotency key. -/
abbrev TriggerLock := Uuid × String

/-- Transactions on the runs. -/
abbrev TriggerTxn (α β : Type) := Txn (Database α) TriggerLock TriggerError β

section Program

variable [IsStrictOrderedRing α] (env : TriggerEnv α)

/-- The row that `enqueue_run` inserts. -/
def queuedRow (spec : ExecutionSpec α) (createdBy : Uuid) (key : String) (now : Time) : RunRow where
  runId := spec.runId
  tenantId := spec.tenantId
  snapshotId := spec.snapshot.snapshotId
  rulesetId := spec.rulesetId
  policyId := spec.policyId
  executionProfile := storedProfile env.queue.runtime.upper spec.executionProfile
  outlierConfigHash := env.outlierHash spec
  runStatus := .queued
  idempotencyKey := key
  createdBy := createdBy
  createdAt := now

/-- The event that `enqueue_run` records. -/
def queuedEvent (spec : ExecutionSpec α) (now : Time) : RunEvent where
  tenantId := spec.tenantId
  runId := spec.runId
  eventType := "RUN_QUEUED"
  attemptCount := 0
  leaseGeneration := some 0
  createdAt := now

/-- The two INSERTs of `enqueue_run`. -/
def insertQueued (spec : ExecutionSpec α) (createdBy : Uuid) (key : String) (db : Database α) :
    Option (Database α) :=
  match db.insertRun env.queue.catalog (queuedRow env spec createdBy key db.now) with
  | .ok db' => some (db'.insertEvent (queuedEvent spec db.now))
  | .error _ => none

/-- `enqueue_run` for a specification of `trigger_run`, which has a creator. -/
def enqueueRunTxn (spec : ExecutionSpec α) (createdBy : Uuid) (key : String) :
    TriggerTxn α Uuid := do
  let existing ← Txn.select (Database.findKey spec.tenantId key)
  match existing with
  | some run => return run.runId
  | none =>
    -- `ON CONFLICT` waits for a transaction that has inserted the key
    Txn.forUpdate (spec.tenantId, key)
    let conflict ← Txn.select (Database.findKey spec.tenantId key)
    match conflict with
    | none =>
      Txn.exec (insertQueued env spec createdBy key)
      return spec.runId
    | some _ =>
      let winner ← Txn.select (Database.findKey spec.tenantId key)
      match winner with
      | some run => return run.runId
      | none => .raise .unreadable

/-- `trigger_run`. -/
def triggerRunTxn (call : TriggerCall α) : TriggerTxn α RunResponse :=
  match triggerRun env.reading call.order call.config call.req call.currentUser call.runId with
  | .error e => .raise (.spec e)
  | .ok spec => do
    let actualRunId ← enqueueRunTxn env spec call.currentUser.userId call.key
    return call.response actualRunId

end Program

/-! ### The system -/

/-- The calls of the workers: a run is completed as succeeded or failed, and nothing is enqueued. -/
def Call.isWorker : Call α → Bool
  | .enqueueRun .. => false
  | .completeRun _ _ status _ => status.isTerminal
  | _ => true

/-- A request to trigger a run, or a call of a worker. -/
inductive RunRequest (α : Type) [Field α] [LinearOrder α] where
  | trigger (call : TriggerCall α)
  | worker (call : { call : Call α // call.isWorker = true })

/-- What a transaction returns. -/
inductive RunAnswer where
  | response (response : RunResponse)
  | worked

/-- The system of the requests and the workers. -/
def triggerSystem [IsStrictOrderedRing α] (env : TriggerEnv α) :
    TxnSystem ℕ (RunRequest α) (Database α) TriggerLock TriggerError RunAnswer where
  -- triggers run as transactions among the writes of the workers
  program
    | .trigger call => do
      let response ← triggerRunTxn env call
      return .response response
    | .worker call => do
      Txn.exec fun db => some (QueueState.exec env.queue ⟨db, []⟩ call.val).db
      return .worked
  allowed _ _ := True

/-- The states of triggered runs, in any interleaving. -/
abbrev TriggerState (α : Type) [Field α] [LinearOrder α] :=
  TxnState ℕ (RunRequest α) (Database α) TriggerLock TriggerError RunAnswer

/-- The states that are reached from a database without runs. -/
def TriggerReachable [IsStrictOrderedRing α] (env : TriggerEnv α) (s : TriggerState α) : Prop :=
  Reachable (TxnSystem.Initial fun db => ∃ now, db = .initial now)
    (TxnSystem.Step (triggerSystem env)) s

/-! ### What the transactions do -/

/-- **The workers keep the runs.** -/
theorem grows_exec (env : QueueEnv) (db : Database α) {call : Call α}
    (h_call : call.isWorker = true) : db.Grows (QueueState.exec env ⟨db, []⟩ call).db := by
  -- each call of a worker is one write at most
  cases call with
  | enqueueRun spec key => cases h_call
  | claimNextRun workerId timeout runId locked =>
    show db.Grows (claimNextRun db workerId timeout runId locked).1
    rcases claimNextRun_spec db workerId timeout runId locked with
      h_same | ⟨run, event, h_found, -, h_event, h_writes⟩
    · -- nothing to claim
      rw [h_same]
      exact .refl db
    · refine .of_write h_writes.runs h_writes.runEvents h_found
        ⟨rfl, rfl, rfl, rfl, rfl, rfl⟩ fun e h_e => ?_
      rw [List.mem_singleton.mp h_e, h_event]
      decide
  | heartbeat runId g timeout =>
    show db.Grows (heartbeat db runId g timeout).1
    rcases heartbeat_spec db runId g timeout with h_same | ⟨run, t, h_found, -, h_writes⟩
    · rw [h_same]
      exact .refl db
    · exact .of_write h_writes.runs h_writes.runEvents h_found ⟨rfl, rfl, rfl, rfl, rfl, rfl⟩
        fun e h_e => by cases h_e
  | saveAssessmentAtomic a results g =>
    dsimp only [QueueState.exec]
    -- the results are saved with the end of the run, or not at all
    split
    · next db' h_ok =>
      obtain ⟨run, h_saved⟩ := saveAssessmentAtomic_ok h_ok
      refine .of_write h_saved.runs h_saved.events h_saved.found ⟨rfl, rfl, rfl, rfl, rfl, rfl⟩
        fun e h_e => ?_
      rw [List.mem_singleton.mp h_e]
      show "RUN_SUCCEEDED" ≠ "RUN_QUEUED"
      decide
    · exact .refl db
  | completeRun runId g status message =>
    -- a run ends as succeeded or failed, never queued again
    show db.Grows (completeRun db runId g status message).1
    rcases completeRun_spec db runId g status message with
      h_same | ⟨run, event, h_found, -, h_event, h_writes⟩
    · rw [h_same]
      exact .refl db
    · refine .of_write h_writes.runs h_writes.runEvents h_found
        ⟨rfl, rfl, rfl, rfl, rfl, rfl⟩ fun e h_e => ?_
      rw [List.mem_singleton.mp h_e, h_event]
      cases status with
      | succeeded => decide
      | failed => decide
      | _ => cases h_call
  | tick elapsed => exact .of_runs_eq rfl rfl

section Requests

variable {env : TriggerEnv α} {spec : ExecutionSpec α} {createdBy : Uuid} {key : String}
  {db db' : Database α}

/-- What inserting a run does: its key and its identifier were free. -/
theorem insertQueued_some (h : insertQueued env spec createdBy key db = some db') :
    (∀ r, db.runs.find? r.runId = some r →
      ¬ (r.tenantId = spec.tenantId ∧ r.idempotencyKey = key)) ∧
    db.runs.find? spec.runId = none ∧
    (∀ k, db'.runs.find? k =
      if k = spec.runId then some (queuedRow env spec createdBy key db.now)
      else db.runs.find? k) ∧
    db'.runEvents = db.runEvents ++ [queuedEvent spec db.now] := by
  unfold insertQueued at h
  split at h
  case h_2 => cases h
  case h_1 db₁ h_insert =>
    obtain rfl := Option.some.inj h
    obtain ⟨h_free, h_writes⟩ := insertRun_ok h_insert
    refine ⟨fun r h_r h_same => ?_, h_free, h_writes.runs, ?_⟩
    · -- the unique constraint of the table
      unfold Database.insertRun at h_insert
      split at h_insert
      · cases h_insert
      split at h_insert
      · cases h_insert
      · next h_unique =>
        refine h_unique (List.any_eq_true.mpr ⟨r, (Table.find?_eq_some_iff.mp h_r).1, ?_⟩)
        exact decide_eq_true h_same
    · show db₁.runEvents ++ _ = _
      rw [h_writes.runEvents, List.append_nil]

/-- An insert of a queued run lets the database grow. -/
theorem grows_insertQueued (h : insertQueued env spec createdBy key db = some db') :
    db.Grows db' := by
  obtain ⟨h_key, h_free, h_runs, h_events⟩ := insertQueued_some h
  refine ⟨fun h_keyed => ⟨fun r r' h_r h_r' h_tenant h_same => ?_, fun id => ?_⟩,
    fun id r h_r => ?_⟩
  · rw [h_runs] at h_r h_r'
    -- the new run is the only one with its key
    by_cases h_eq : r.runId = spec.runId <;> by_cases h_eq' : r'.runId = spec.runId
    · rw [h_eq, h_eq']
    · rw [if_pos h_eq] at h_r
      rw [if_neg h_eq'] at h_r'
      rw [← Option.some.inj h_r] at h_tenant h_same
      exact absurd ⟨h_tenant.symm, h_same.symm⟩ (h_key r' h_r')
    · rw [if_neg h_eq] at h_r
      rw [if_pos h_eq'] at h_r'
      rw [← Option.some.inj h_r'] at h_tenant h_same
      exact absurd ⟨h_tenant, h_same⟩ (h_key r h_r)
    · rw [if_neg h_eq] at h_r
      rw [if_neg h_eq'] at h_r'
      exact h_keyed.unique r r' h_r h_r' h_tenant h_same
  · have h_before := h_keyed.events id
    unfold Database.queuedEvents at h_before ⊢
    rw [h_events, List.countP_append, h_before, h_runs, List.countP_singleton]
    by_cases h_eq : id = spec.runId
    · rw [if_pos h_eq, h_eq, h_free]
      simp [queuedEvent]
    · have h_other : ¬ spec.runId = id := fun h => h_eq h.symm
      simp [h_eq, h_other, queuedEvent]
  · refine ⟨r, ?_, .refl r⟩
    have h_eq : id ≠ spec.runId := by
      rintro rfl
      rw [h_free] at h_r
      cases h_r
    rw [h_runs, if_neg h_eq]
    exact h_r

/-- Whatever an enqueue commits, the database only grows. -/
theorem writes_enqueueRunTxn (spec : ExecutionSpec α) (createdBy : Uuid) (key : String) :
    (enqueueRunTxn env spec createdBy key).Writes Database.Grows := by
  refine Txn.Writes.bind (fun _ => trivial) fun existing => ?_
  cases existing with
  | some run => exact trivial
  | none =>
    refine Txn.Writes.bind trivial fun _ => Txn.Writes.bind (fun _ => trivial) fun conflict => ?_
    cases conflict with
    | none => exact ⟨fun _ _ h => grows_insertQueued h, trivial⟩
    | some run =>
      refine Txn.Writes.bind (fun _ => trivial) fun winner => ?_
      cases winner with
      | some run => exact trivial
      | none => exact trivial

/-- An enqueue finds the run of its key, or adds a new one, or fails. -/
theorem ends_enqueueRunTxn
    {K : Except TriggerError Uuid → (Database α → Option (Database α)) → Database α → Prop}
    (h_found : ∀ db' run, db'.findKey spec.tenantId key = some run → K (.ok run.runId) some db')
    (h_new : ∀ db', K (.ok spec.runId) (insertQueued env spec createdBy key) db')
    (h_error : ∀ db', K (.error .unreadable) some db') :
    (enqueueRunTxn env spec createdBy key).Ends Database.Grows K some db := by
  unfold enqueueRunTxn
  rw [Txn.ends_bind, Txn.ends_select]
  intro db₁ _ view h_view
  obtain rfl := Option.some.inj h_view
  cases h_existing : db₁.findKey spec.tenantId key with
  | some run => exact h_found db₁ run h_existing
  | none =>
    show Txn.Ends _ (_ >>= _) _ _ _
    rw [Txn.ends_bind, Txn.ends_forUpdate]
    show Txn.Ends _ (_ >>= _) _ _ _
    rw [Txn.ends_bind, Txn.ends_select]
    intro db₂ _ view h_view
    obtain rfl := Option.some.inj h_view
    cases db₂.findKey spec.tenantId key with
    | none => exact h_new db₂
    | some _ =>
      show Txn.Ends _ (_ >>= _) _ _ _
      rw [Txn.ends_bind, Txn.ends_select]
      intro db₃ _ view h_view
      obtain rfl := Option.some.inj h_view
      cases h_winner : db₃.findKey spec.tenantId key with
      | some run => exact h_found db₃ run h_winner
      | none => exact h_error db₃

variable [IsStrictOrderedRing α]

/-- The transactions of the requests and of the workers keep the runs. -/
theorem writes_triggerSystem (env : TriggerEnv α) (r : RunRequest α) :
    ((triggerSystem env).program r).Writes Database.Grows := by
  cases r with
  | trigger call =>
    refine Txn.Writes.bind ?_ fun _ => trivial
    unfold triggerRunTxn
    split
    · trivial
    · exact (writes_enqueueRunTxn _ _ _).bind fun _ => trivial
  | worker call =>
    refine ⟨fun db db' h => ?_, trivial⟩
    rw [← Option.some.inj h]
    exact grows_exec env.queue db call.property

/-- The response of a request, and what it commits: it finds the run of its key, or inserts it. -/
def Triggered (env : TriggerEnv α) (call : TriggerCall α) (response : RunResponse)
    (writes : Database α → Option (Database α)) (db : Database α) : Prop :=
  (∃ run, db.runs.find? run.runId = some run ∧ run.tenantId = call.currentUser.tenantId ∧
    run.idempotencyKey = call.key ∧ response = call.response run.runId ∧ writes = some) ∨
  ∃ spec, TriggeredFor call.req call.currentUser call.runId spec ∧
    response = call.response spec.runId ∧
    writes = insertQueued env spec call.currentUser.userId call.key

/-- What a trigger answers names a run that is there when it commits. -/
theorem ends_trigger (env : TriggerEnv α) (call : TriggerCall α) (db : Database α) :
    ((triggerSystem env).program (.trigger call)).Ends Database.Grows
      (fun x writes db => ∀ answer, x = .ok answer →
        ∃ response, answer = .response response ∧ Triggered env call response writes db)
      some db := by
  show Txn.Ends _ (triggerRunTxn env call >>= _) _ _ _
  rw [Txn.ends_bind]
  unfold triggerRunTxn
  split
  · exact fun _ h => by cases h
  next spec h_spec =>
  have h_for := triggeredFor_of_ok h_spec
  rw [Txn.ends_bind]
  refine ends_enqueueRunTxn (fun db' run h_run answer h_answer => ?_)
    (fun db' answer h_answer => ?_) (fun db' answer h_answer => by cases h_answer)
  · obtain rfl := Except.ok.inj h_answer
    obtain ⟨h_stored, h_tenant, h_key⟩ := Database.findKey_some h_run
    exact ⟨_, rfl, Or.inl ⟨run, h_stored, h_tenant.trans h_for.tenantId, h_key, rfl, rfl⟩⟩
  · obtain rfl := Except.ok.inj h_answer
    exact ⟨_, rfl, Or.inr ⟨spec, h_for, rfl, rfl⟩⟩

end Requests

/-! ### What the callers are told -/

/-- The response describes the run that it names. -/
def RunResponse.Describes (response : RunResponse) (db : Database α) : Prop :=
  ∃ run, db.runs.find? response.runId = some run ∧ response.snapshotId = run.snapshotId ∧
    response.rulesetId = run.rulesetId ∧ response.policyId = run.policyId ∧
    response.status = run.runStatus.value

/-- A run that has the key already was made for the same snapshot, ruleset and policy, and is still
queued. -/
def TriggerCall.Fits (call : TriggerCall α) (db : Database α) : Prop :=
  ∀ run, db.runs.find? run.runId = some run → run.tenantId = call.currentUser.tenantId →
    run.idempotencyKey = call.key → run.snapshotId = call.req.snapshotId ∧
      run.rulesetId = call.req.rulesetId ∧ run.policyId = call.req.policyId ∧
      run.runStatus = .queued

/-- The run of a request's key, the only one with its one RUN_QUEUED event, is the one that the
response names. -/
def RunResponse.NamesRun (response : RunResponse) (call : TriggerCall α) (db : Database α) : Prop :=
  ∃ run, db.runs.find? response.runId = some run ∧ run.tenantId = call.currentUser.tenantId ∧
    run.idempotencyKey = call.key ∧ db.queuedEvents run.runId = 1 ∧
    ∀ run', db.runs.find? run'.runId = some run' → run'.tenantId = call.currentUser.tenantId →
      run'.idempotencyKey = call.key → run' = run

/-- The value of QUEUED belongs to no other status. -/
theorem RunStatus.value_eq_queued_iff (status : RunStatus) :
    "QUEUED" = status.value ↔ status = .queued := by
  cases status <;> decide

/-- In a database with one run for each key, the run that has the key is the only one. -/
theorem namesRun_of_keyed {db : Database α} (h_keyed : db.Keyed) {call : TriggerCall α}
    {response : RunResponse} {run : RunRow} (h_run : db.runs.find? response.runId = some run)
    (h_tenant : run.tenantId = call.currentUser.tenantId)
    (h_key : run.idempotencyKey = call.key) : response.NamesRun call db := by
  have h_id : run.runId = response.runId := (Table.find?_eq_some_iff.mp h_run).2
  refine ⟨run, h_run, h_tenant, h_key, ?_, fun run' h_run' h_tenant' h_key' => ?_⟩
  · rw [h_keyed.events, h_id, h_run]
    rfl
  · have h_same := h_keyed.unique run' run h_run' (h_id ▸ h_run) (h_tenant'.trans h_tenant.symm)
      (h_key'.trans h_key.symm)
    rw [h_same, h_id, h_run] at h_run'
    exact (Option.some.inj h_run').symm

section Run

variable [IsStrictOrderedRing α] {env : TriggerEnv α} {s s' : TriggerState α}

/-- Along every run of the system the database only grows. -/
theorem runs_grow (h : TriggerReachable env s)
    (h_run : Relation.ReflTransGen (TxnSystem.Step (triggerSystem env)) s s') :
    s.db.Grows s'.db :=
  TxnSystem.rel_of_writes Database.Grows.refl (fun _ _ _ h_first h_second => h_first.trans h_second)
    (writes_triggerSystem env) h h_run

/-- In every reachable state a tenant's key belongs to one run. -/
theorem keyed_of_reachable (h : TriggerReachable env s) : s.db.Keyed := by
  obtain ⟨s₀, h₀, h_run⟩ := h
  refine (runs_grow (.of_initial h₀) h_run).keyed ?_
  obtain ⟨⟨now, h_db⟩, -, -⟩ := h₀
  rw [h_db]
  exact ⟨fun r r' h_r => by (cases h_r), fun _ => rfl⟩

/-- A committed request, seen from the state that it commits. -/
theorem committed_trigger (h : TriggerReachable env s)
    (h_step : TxnSystem.Step (triggerSystem env) s s') {i : ℕ} {call : TriggerCall α}
    {answer : RunAnswer} (h_log : s'.log = .committed i (.trigger call) answer :: s.log) :
    ∃ response, answer = .response response ∧
      ((∃ run, s.db.runs.find? run.runId = some run ∧ run.tenantId = call.currentUser.tenantId ∧
        run.idempotencyKey = call.key ∧ response = call.response run.runId ∧ s'.db = s.db) ∨
      ∃ spec, TriggeredFor call.req call.currentUser call.runId spec ∧
        response = call.response spec.runId ∧
        insertQueued env spec call.currentUser.userId call.key s.db = some s'.db) := by
  obtain ⟨s₀, h₀, h_run⟩ := h
  have h_ends := TxnSystem.ends_of_run (ends_trigger env call s₀.db)
    (fun u u' h_u h_after => runs_grow (Reachable.run (.of_initial h₀) h_u) h_after)
    (h₀.2.1 i) h_run h_step
  obtain ⟨writes, db, h_answer, h_grows, h_writes⟩ := h_ends.1 answer h_log
  obtain ⟨response, rfl, h_triggered⟩ := h_answer answer rfl
  refine ⟨response, rfl, ?_⟩
  rcases h_triggered with ⟨run, h_run, h_tenant, h_key, h_response, rfl⟩ |
    ⟨spec, h_for, h_response, rfl⟩
  · -- the run that was found is still there
    obtain ⟨run', h_run', h_same⟩ := h_grows.runs run.runId run h_run
    refine Or.inl ⟨run', ?_, h_same.tenantId.trans h_tenant, h_same.idempotencyKey.trans h_key,
      ?_, (Option.some.inj h_writes).symm⟩
    · rw [h_same.runId]
      exact h_run'
    · rw [h_same.runId]
      exact h_response
  · exact Or.inr ⟨spec, h_for, h_response, h_writes⟩

/-- The run of a committed request stays. -/
theorem namesRun_of_log (h : TriggerReachable env s) {i : ℕ} {call : TriggerCall α}
    {response : RunResponse} (h_log : .committed i (.trigger call) (.response response) ∈ s.log) :
    response.NamesRun call s.db := by
  have h_keyed := keyed_of_reachable h
  obtain ⟨s₀, h₀, h_run⟩ := h
  have h_stored : ∃ run, s.db.runs.find? response.runId = some run ∧
      run.tenantId = call.currentUser.tenantId ∧ run.idempotencyKey = call.key := by
    clear h_keyed
    -- on the run: the request commits in its last step, or has committed before
    induction h_run with
    | refl =>
      rw [h₀.2.2] at h_log
      cases h_log
    | @tail s₁ s₂ h_before h_last ih =>
      have h_reachable : TriggerReachable env s₁ := ⟨s₀, h₀, h_before⟩
      rcases TxnSystem.mem_log_of_step h_last h_log with h_old | h_new
      · obtain ⟨run, h_found, h_tenant, h_key⟩ := ih h_old
        obtain ⟨run', h_found', h_same⟩ :=
          (runs_grow h_reachable (.single h_last)).runs _ run h_found
        exact ⟨run', h_found', h_same.tenantId.trans h_tenant, h_same.idempotencyKey.trans h_key⟩
      · obtain ⟨_, h_answer, h_committed⟩ := committed_trigger h_reachable h_last h_new
        obtain rfl := RunAnswer.response.inj h_answer
        rcases h_committed with ⟨run, h_found, h_tenant, h_key, rfl, h_db⟩ |
          ⟨spec, h_for, rfl, h_db⟩
        · rw [h_db]
          exact ⟨run, h_found, h_tenant, h_key⟩
        · obtain ⟨-, -, h_runs, -⟩ := insertQueued_some h_db
          refine ⟨_, (h_runs spec.runId).trans (if_pos rfl), h_for.tenantId, rfl⟩
  obtain ⟨run, h_found, h_tenant, h_key⟩ := h_stored
  exact namesRun_of_keyed h_keyed h_found h_tenant h_key

/-- A response describes its run exactly if the request fits the run that has its key. -/
theorem describes_iff_fits (h : TriggerReachable env s)
    (h_step : TxnSystem.Step (triggerSystem env) s s') {i : ℕ} {call : TriggerCall α}
    {response : RunResponse}
    (h_log : s'.log = .committed i (.trigger call) (.response response) :: s.log) :
    response.Describes s'.db ↔ call.Fits s.db := by
  obtain ⟨_, h_answer, h_committed⟩ := committed_trigger h h_step h_log
  obtain rfl := RunAnswer.response.inj h_answer
  rcases h_committed with ⟨run, h_found, h_tenant, h_key, rfl, h_db⟩ | ⟨spec, h_for, rfl, h_db⟩
  · rw [h_db]
    constructor
    · rintro ⟨run₀, h_run₀, h_snapshot, h_ruleset, h_policy, h_status⟩ run' h_run' h_tenant' h_key'
      -- the run that has the key is the one that was found
      have h_same := (keyed_of_reachable h).unique run' run h_run' h_found
        (h_tenant'.trans h_tenant.symm) (h_key'.trans h_key.symm)
      rw [h_same] at h_run'
      obtain rfl := Option.some.inj (h_run₀.symm.trans h_run')
      exact ⟨h_snapshot.symm, h_ruleset.symm, h_policy.symm,
        (RunStatus.value_eq_queued_iff _).mp h_status⟩
    · intro h_fits
      obtain ⟨h_snapshot, h_ruleset, h_policy, h_status⟩ := h_fits run h_found h_tenant h_key
      refine ⟨run, h_found, h_snapshot.symm, h_ruleset.symm, h_policy.symm, ?_⟩
      rw [h_status]
      rfl
  · obtain ⟨h_unused, -, h_runs, -⟩ := insertQueued_some h_db
    refine iff_of_true ?_ fun run h_run h_tenant h_key => ?_
    · exact ⟨_, (h_runs spec.runId).trans (if_pos rfl), h_for.snapshotId.symm,
        h_for.rulesetId.symm, h_for.policyId.symm, rfl⟩
    · exact absurd ⟨h_tenant.trans h_for.tenantId.symm, h_key⟩ (h_unused run h_run)

/-- **Triggering a run.** In every interleaving, the response to a request names the only run of its
key, which has one RUN_QUEUED event, so that all callers with one key get the same run. A request
is answered with a description of that run exactly if the run that has its key when it commits,
if there is one, was made for the same snapshot, ruleset and policy and is still queued. -/
theorem triggerRun_idempotent (h : TriggerReachable env s)
    (h_step : TxnSystem.Step (triggerSystem env) s s') :
    (∀ i call response, .committed i (.trigger call) (.response response) ∈ s'.log →
      response.NamesRun call s'.db) ∧
    (∀ i j call call' response response',
      .committed i (.trigger call) (.response response) ∈ s'.log →
      .committed j (.trigger call') (.response response') ∈ s'.log →
      call'.currentUser.tenantId = call.currentUser.tenantId → call'.key = call.key →
        response'.runId = response.runId) ∧
    ∀ i call response, s'.log = .committed i (.trigger call) (.response response) :: s.log →
      (response.Describes s'.db ↔ call.Fits s.db) := by
  have h' : TriggerReachable env s' := h.next h_step
  refine ⟨fun i call response h_log => namesRun_of_log h' h_log, ?_,
    fun i call response h_log => describes_iff_fits h h_step h_log⟩
  intro i j call call' response response' h_log h_log' h_tenant h_key
  obtain ⟨run, h_run, -, -, -, h_only⟩ := namesRun_of_log h' h_log
  obtain ⟨run', h_run', h_tenant', h_key', -, -⟩ := namesRun_of_log h' h_log'
  have h_id := (Table.find?_eq_some_iff.mp h_run).2
  have h_id' := (Table.find?_eq_some_iff.mp h_run').2
  have h_same := h_only run' (h_id' ▸ h_run') (h_tenant'.trans h_tenant) (h_key'.trans h_key)
  rw [← h_id, ← h_id', h_same]

end Run

/-! ### A request that is repeated -/

/-- An environment for the configuration of one rule. -/
def plainTriggerEnv : TriggerEnv ℚ := ⟨plainEnv, exactReading, fun _ => "h"⟩

/-- A request with a key. -/
def emailCall : TriggerCall ℚ where
  req := emailRequest
  idempotencyKey := some "key"
  currentUser := emailUser
  config := emailDb true
  order := storedOrder
  runId := Uuid.repeated 8
  now := 10

/-- A claim of any run. -/
def claimCall : Call ℚ := .claimNextRun "worker" 300 none fun _ => false

theorem isWorker_claimCall : claimCall.isWorker = true := rfl

/-- The request for it. -/
def claimAny : RunRequest ℚ := .worker ⟨claimCall, isWorker_claimCall⟩

/-- The response that has been committed last. -/
def newestResponse :
    List (TxnEvent ℕ (RunRequest ℚ) TriggerError RunAnswer) → Option RunResponse
  | .committed _ (.trigger _) (.response response) :: _ => some response
  | _ => none

/-- Whether the newest response names a run with another status. -/
def misdescribes (db : Database ℚ)
    (log : List (TxnEvent ℕ (RunRequest ℚ) TriggerError RunAnswer)) : Bool :=
  (newestResponse log).any fun response =>
    (db.runs.find? response.runId).all fun run => decide (response.status ≠ run.runStatus.value)

/-- Requests that run one after the other reach a state. -/
theorem reachable_of_serial {env : TriggerEnv ℚ} {rs : List (ℕ × RunRequest ℚ)} {db : Database ℚ}
    {log : List (TxnEvent ℕ (RunRequest ℚ) TriggerError RunAnswer)} {now : Time}
    (h : (triggerSystem env).serial rs (.initial now) [] = some (db, log)) :
    TriggerReachable env ⟨db, fun _ => none, log⟩ :=
  ⟨⟨.initial now, fun _ => none, []⟩, ⟨⟨now, rfl⟩, fun _ => rfl, rfl⟩,
    TxnSystem.run_serial (TxnSystem.serialAllowed_of_forall (fun _ _ _ => trivial) _ _) h⟩

/-- The newest response is that of a committed trigger. -/
theorem newestResponse_eq_some
    {log : List (TxnEvent ℕ (RunRequest ℚ) TriggerError RunAnswer)} {response : RunResponse}
    (h : newestResponse log = some response) :
    ∃ i call rest, log = .committed i (.trigger call) (.response response) :: rest := by
  unfold newestResponse at h
  split at h
  · next i call answer rest =>
    obtain rfl := Option.some.inj h
    exact ⟨i, call, rest, rfl⟩
  · cases h

theorem triggerRun_idempotent_email : ∃ (s : TriggerState ℚ) (call : TriggerCall ℚ)
    (response : RunResponse), s.db.runs.rows ≠ [] ∧ response.NamesRun call s.db := by
  have h_serial : (((triggerSystem plainTriggerEnv).serial [(0, .trigger emailCall)]
      (.initial 10) []).any fun r => (newestResponse r.2).isSome && !r.1.runs.rows.isEmpty) =
        true := by
    decide +kernel
  obtain ⟨⟨db, log⟩, h_serial, h_newest⟩ := (Option.any_eq_true _ _).mp h_serial
  rw [Bool.and_eq_true] at h_newest
  obtain ⟨response, h_response⟩ := Option.isSome_iff_exists.mp h_newest.1
  obtain ⟨i, call, rest, rfl⟩ := newestResponse_eq_some h_response
  -- another request with the key begins
  have h_step : TxnSystem.Step (triggerSystem plainTriggerEnv)
      ⟨db, fun _ => none, .committed i (.trigger call) (.response response) :: rest⟩ _ :=
    .begin 0 (.trigger emailCall) rfl trivial
  refine ⟨_, call, response, ?_, (triggerRun_idempotent (reachable_of_serial h_serial) h_step).1 i
    call response (List.mem_cons_of_mem _ List.mem_cons_self)⟩
  intro h_nil
  have h_rows : db.runs.rows = [] := h_nil
  simp [h_rows] at h_newest

/-- A request that is repeated once its run has been claimed is told that the run is queued. -/
theorem triggerRun_misdescribes : ¬ ∀ (env : TriggerEnv ℚ) (s : TriggerState ℚ),
    TriggerReachable env s → ∀ i call response rest,
      s.log = .committed i (.trigger call) (.response response) :: rest →
        response.Describes s.db := by
  intro h
  have h_replay : (((triggerSystem plainTriggerEnv).serial
      [(0, .trigger emailCall), (1, claimAny), (0, .trigger emailCall)] (.initial 10) []).any
        fun r => misdescribes r.1 r.2) = true := by
    decide +kernel
  obtain ⟨⟨db, log⟩, h_serial, h_wrong⟩ := (Option.any_eq_true _ _).mp h_replay
  obtain ⟨response, h_newest, h_status⟩ := (Option.any_eq_true _ _).mp h_wrong
  obtain ⟨i, call, rest, rfl⟩ := newestResponse_eq_some h_newest
  obtain ⟨run, h_run, -, -, -, h_described⟩ :=
    h plainTriggerEnv _ (reachable_of_serial h_serial) i call response rest rfl
  have h_found : db.runs.find? response.runId = some run := h_run
  rw [h_found, Option.all_some, decide_eq_true_eq] at h_status
  exact h_status h_described

end DqScoring
