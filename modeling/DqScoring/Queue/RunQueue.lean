import DqScoring.Store.AssessmentStore

/-!
# The run queue

The transactions of `adapters/queue/postgres_queue.py` on the run table: enqueue, claim,
heartbeat and completion. A claim takes the first eligible run by priority and age
that no concurrent claim has locked (`SKIP LOCKED`); which runs are locked, and how
ties are broken, is the parameter `locked`.

The specification stored with a run is not modelled: a claim that cannot read it
fails, and a failed transaction changes nothing.
-/

namespace DqScoring

open Framework

variable {α : Type}

/-! ### Enqueue -/

/-- The part of a run specification that the queue stores in columns. -/
structure RunSpec where
  runId : Uuid
  tenantId : Uuid
  snapshotId : Uuid
  executionProfile : String := "standard"
  rulesetId : Option Uuid := none
  policyId : Option Uuid := none
  createdBy : Option Uuid := none
  outlierConfigHash : String

/-- The execution profile stored for a run. -/
def storedProfile (upper : String → String) (profile : String) : String :=
  if upper profile = "SPARK_K3S" ∨ upper profile = "STANDARD" then "SPARK_K3S"
  else if profile = "" then "SPARK_K3S" else profile

/-- Enqueue a run, or return the run of the same tenant and idempotency key. -/
def enqueueRun (upper : String → String) (catalog : Catalog) (db : Database α) (spec : RunSpec)
    (idempotencyKey : String) : Except DbError (Database α × Uuid) :=
  match spec.rulesetId, spec.policyId, spec.createdBy with
  | some rulesetId, some policyId, some createdBy =>
    let seen := db.runs.rows.find? fun run =>
      -- one run per tenant and key
      run.tenantId = spec.tenantId ∧ run.idempotencyKey = idempotencyKey
    match seen with
    | some run => .ok (db, run.runId)
    -- the foreign keys are checked by the insertion
    | none => do
      let db ← db.insertRun catalog {
        runId := spec.runId
        tenantId := spec.tenantId
        snapshotId := spec.snapshotId
        rulesetId
        policyId
        executionProfile := storedProfile upper spec.executionProfile
        outlierConfigHash := spec.outlierConfigHash
        runStatus := .queued
        idempotencyKey
        createdBy
        createdAt := db.now }
      -- the event is written with the run
      let db := db.insertEvent {
        tenantId := spec.tenantId
        runId := spec.runId
        eventType := "RUN_QUEUED"
        attemptCount := 0
        leaseGeneration := some 0
        createdAt := db.now }
      return (db, spec.runId)
  | _, _, _ =>
    .error (.valueError
      "enqueue_run requires spec.ruleset_id, spec.policy_id and spec.created_by")

/-! ### Claim -/

/-- A claimed run. -/
structure LeasedRun where
  runId : Uuid
  workerId : String
  leaseGeneration : ℕ
  claimedAt : Time
  leaseExpiresAt : Time

/-- The run may be claimed: queued, or its lease has expired. -/
def RunRow.isClaimable (runId : Option Uuid) (now : Time) (run : RunRow) : Bool :=
  (run.runStatus == .queued
      || run.isActive && run.leaseExpiresAt.any (fun t => decide (t < now)))
    && runId.all (run.runId = ·)

/-- Dispatch order: by priority, then by age. -/
def RunRow.before (run run' : RunRow) : Bool :=
  decide (run.priority < run'.priority)
    || decide (run.priority = run'.priority) && decide (run.createdAt ≤ run'.createdAt)

/-- The first of some runs in dispatch order. -/
def firstRun (runs : List RunRow) : Option RunRow :=
  runs.foldr (fun run best =>
    match best with
    | some run' => if run.before run' then some run else some run'
    | none => some run) none

/-- The run under its next lease. -/
def RunRow.lease (workerId : String) (timeoutSeconds : ℤ) (now : Time) (run : RunRow) : RunRow :=
  { run with
    runStatus := .leased
    leaseOwner := some workerId
    -- every lease has a generation of its own
    leaseGeneration := run.leaseGeneration + 1
    leaseExpiresAt := some (now + timeoutSeconds)
    -- the start is that of the first lease
    startedAt := run.startedAt.or (some now)
    heartbeatAt := some now
    attemptCount := run.attemptCount + 1 }

/-- Claim the next queued or expired run and increment its lease generation. -/
def claimNextRun (db : Database α) (workerId : String) (timeoutSeconds : ℤ)
    (runId : Option Uuid) (locked : Uuid → Bool) : Database α × Option LeasedRun :=
  -- `FOR UPDATE SKIP LOCKED`
  let candidates := db.runs.rows.filter fun run => run.isClaimable runId db.now && !locked run.runId
  match firstRun candidates with
  | none => (db, none)
  | some run =>
    let leased := run.lease workerId timeoutSeconds db.now
    let runs := db.runs.updateWhere (fun r => decide (r.runId = run.runId))
      (RunRow.lease workerId timeoutSeconds db.now) fun _ => rfl
    let db := ({ db with runs }).insertEvent {
      tenantId := run.tenantId
      runId := run.runId
      eventType := "RUN_CLAIMED"
      attemptCount := leased.attemptCount
      leaseGeneration := some leased.leaseGeneration
      eventPayload := [("worker_id", workerId)]
      createdAt := db.now }
    (db, some {
      runId := run.runId
      workerId
      leaseGeneration := leased.leaseGeneration
      claimedAt := leased.startedAt.getD db.now
      leaseExpiresAt := db.now + timeoutSeconds })

/-! ### Heartbeat and completion -/

/-- The run with an extended lease. -/
def RunRow.extend (timeoutSeconds : ℤ) (now : Time) (run : RunRow) : RunRow :=
  { run with
    heartbeatAt := some now
    leaseExpiresAt := some (now + timeoutSeconds) }

/-- The row a heartbeat selects: unlike the other guards, this one wants a lease that
has a time. -/
def RunRow.beating (runId : Uuid) (leaseGeneration : ℕ) (now : Time) (run : RunRow) : Bool :=
  decide (run.runId = runId) && decide (run.leaseGeneration = leaseGeneration)
    && run.isActive && run.leaseLive now

/-- Lease time of a heartbeat that names none, in seconds. -/
def leaseTimeoutSeconds : ℤ := 300

/-- Extend a lease that is current and has not expired. -/
def heartbeat (db : Database α) (runId : Uuid) (leaseGeneration : ℕ)
    (timeoutSeconds : Option ℤ := none) : Database α × Bool :=
  let beating := RunRow.beating runId leaseGeneration db.now
  let timeout := timeoutSeconds.getD leaseTimeoutSeconds
  ({ db with runs := db.runs.updateWhere beating (RunRow.extend timeout db.now) fun _ => rfl },
    db.runs.rowCount beating == 1)

/-- Complete a run under its lease. A run that already has the status under this lease
counts as completed. -/
def completeRun (db : Database α) (runId : Uuid) (leaseGeneration : ℕ) (status : RunStatus)
    (errorMessage : Option String := none) : Database α × Bool :=
  let owned := RunRow.ownedBy runId leaseGeneration db.now
  let db' := { db with
    runs := db.runs.updateWhere owned (RunRow.complete status errorMessage db.now) fun _ => rfl }
  if db.runs.rowCount owned = 1 then
    -- the update has returned the run
    match db'.runs.find? runId with
    | some run =>
      (db'.insertEvent {
        tenantId := run.tenantId
        runId
        eventType := "RUN_" ++ status.value
        attemptCount := run.attemptCount
        leaseGeneration := some leaseGeneration
        eventPayload := errorMessage.elim [] fun e => if e = "" then [] else [("error", e)]
        createdAt := db.now }, true)
    | none => (db', true)
  else
    -- after a save the run has its status already, and this is the second completion
    (db', (db'.runs.find? runId).any fun run =>
      run.runStatus = status ∧ run.leaseGeneration = leaseGeneration)

/-- The lifecycle status of a run, for a tenant if one is given. -/
def getRunStatus (db : Database α) (runId : Uuid) (tenantId : Option Uuid := none) :
    Option RunStatus :=
  ((db.runs.find? runId).filter fun run => tenantId.all (· = run.tenantId)).map (·.runStatus)

/-! ### What the transactions do -/

/-- A transaction leaves the assessments, and what belongs to them, as they are. -/
structure Database.SameStore (db db' : Database α) : Prop where
  assessments : db'.assessments = db.assessments
  dimensionResults : db'.dimensionResults = db.dimensionResults
  qualityResults : db'.qualityResults = db.qualityResults

theorem Database.SameStore.refl (db : Database α) : db.SameStore db := ⟨rfl, rfl, rfl⟩

/-- A transaction writes the row of one run and records events of that run. -/
structure WritesRun (db : Database α) (runId : Uuid) (row : RunRow) (events : List RunEvent)
    (db' : Database α) : Prop where
  runs : ∀ k, db'.runs.find? k = if k = runId then some row else db.runs.find? k
  runEvents : db'.runEvents = db.runEvents ++ events
  of_run : ∀ event ∈ events, event.runId = runId
  sameStore : db.SameStore db'

/-- An update of the run that a guard selects writes the row of that run. -/
theorem WritesRun.of_update {db : Database α} {runId : Uuid} {guard : RunRow → Bool}
    {f : RunRow → RunRow} (hf : ∀ r, (f r).runId = r.runId) {run : RunRow}
    (h_guard : ∀ r, guard r = true → r.runId = runId) (h_found : db.runs.find? runId = some run)
    (h_sel : guard run = true) :
    WritesRun db runId (f run) [] { db with runs := db.runs.updateWhere guard f hf } where
  runs := Table.find?_updateWhere_of_key hf h_guard h_found h_sel
  runEvents := (List.append_nil _).symm
  of_run := fun event h_event => by cases h_event
  sameStore := ⟨rfl, rfl, rfl⟩

/-- **An update whose guard fixes the run** selects nothing and changes nothing, or selects
the row of that run and writes it. -/
theorem update_cases (db : Database α) {runId : Uuid} {guard : RunRow → Bool}
    {f : RunRow → RunRow} (hf : ∀ r, (f r).runId = r.runId)
    (h_guard : ∀ r, guard r = true → r.runId = runId) :
    (db.runs.rowCount guard = 0 ∧ { db with runs := db.runs.updateWhere guard f hf } = db) ∨
      ∃ run, db.runs.rowCount guard = 1 ∧ db.runs.find? runId = some run ∧ guard run = true ∧
        WritesRun db runId (f run) [] { db with runs := db.runs.updateWhere guard f hf } := by
  by_cases h_count : db.runs.rowCount guard = 0
  · refine Or.inl ⟨h_count, ?_⟩
    rw [Table.updateWhere_of_rowCount_eq_zero hf h_count]
  · obtain ⟨run, h_found, h_sel⟩ := Table.exists_of_rowCount_ne_zero h_guard h_count
    have h_one : db.runs.rowCount guard = 1 := by
      rw [Table.rowCount_of_key _ h_guard, h_found, Option.any_some, if_pos h_sel]
    exact Or.inr ⟨run, h_one, h_found, h_sel, .of_update hf h_guard h_found h_sel⟩

/-- An event of the run is written with the run. -/
theorem WritesRun.insertEvent {db db' : Database α} {runId : Uuid} {row : RunRow}
    {event : RunEvent} (h : WritesRun db runId row [] db') (h_event : event.runId = runId) :
    WritesRun db runId row [event] (db'.insertEvent event) where
  runs := h.runs
  runEvents := by
    show db'.runEvents ++ [event] = _
    rw [h.runEvents, List.append_nil]
  of_run := fun e h_mem => by
    rw [List.mem_singleton.mp h_mem, h_event]
  sameStore := ⟨h.sameStore.assessments, h.sameStore.dimensionResults, h.sameStore.qualityResults⟩

/-- **Specification of an insertion.** -/
theorem insertRun_ok {catalog : Catalog} {db db' : Database α} {row : RunRow}
    (h : db.insertRun catalog row = .ok db') :
    db.runs.find? row.runId = none ∧ WritesRun db row.runId row [] db' := by
  unfold Database.insertRun at h
  split at h
  · cases h
  split at h
  · cases h
  split at h
  · cases h
  split at h
  · next runs h_insert =>
    obtain rfl := Except.ok.inj h
    exact ⟨Table.find?_none_of_insert h_insert, {
      runs := Table.find?_of_insert h_insert
      runEvents := (List.append_nil _).symm
      of_run := fun event h_event => by cases h_event
      sameStore := ⟨rfl, rfl, rfl⟩ }⟩
  · cases h

/-- **Specification of an enqueue.** -/
theorem enqueueRun_ok {upper : String → String} {catalog : Catalog} {db db' : Database α}
    {spec : RunSpec} {idempotencyKey : String} {runId : Uuid}
    (h : enqueueRun upper catalog db spec idempotencyKey = .ok (db', runId)) :
    db' = db ∨ ∃ run event, db.runs.find? run.runId = none ∧ run.runStatus = .queued ∧
      event.eventType = "RUN_QUEUED" ∧ WritesRun db run.runId run [event] db' := by
  unfold enqueueRun at h
  split at h
  case h_2 => cases h
  dsimp only at h
  split at h
  · -- the key has been seen
    exact Or.inl (Prod.mk.inj (Except.ok.inj h)).1.symm
  · simp only [bind, Except.bind] at h
    split at h
    · cases h
    next db₁ h_insert =>
    obtain ⟨h_free, h_writes⟩ := insertRun_ok h_insert
    obtain rfl := (Prod.mk.inj (Except.ok.inj h)).1
    exact Or.inr ⟨_, _, h_free, rfl, rfl, h_writes.insertEvent rfl⟩

/-- The first run is one of the runs. -/
theorem firstRun_mem {runs : List RunRow} {run : RunRow} (h : firstRun runs = some run) :
    run ∈ runs := by
  induction runs with
  | nil => cases h
  | cons r runs ih =>
    rw [firstRun, List.foldr_cons, ← firstRun] at h
    cases h_rest : firstRun runs with
    | none =>
      rw [h_rest] at h
      exact Option.some.inj h ▸ List.mem_cons_self
    | some run' =>
      rw [h_rest] at h
      dsimp only at h
      split at h
      · exact Option.some.inj h ▸ List.mem_cons_self
      · exact List.mem_cons_of_mem r (ih (h_rest.trans h))

/-- **Specification of a claim.** -/
theorem claimNextRun_spec (db : Database α) (workerId : String) (timeoutSeconds : ℤ)
    (runId : Option Uuid) (locked : Uuid → Bool) :
    (claimNextRun db workerId timeoutSeconds runId locked).1 = db ∨
      ∃ run event, db.runs.find? run.runId = some run ∧
        run.isClaimable runId db.now = true ∧ event.eventType = "RUN_CLAIMED" ∧
        WritesRun db run.runId (run.lease workerId timeoutSeconds db.now) [event]
          (claimNextRun db workerId timeoutSeconds runId locked).1 := by
  dsimp only [claimNextRun]
  cases h_first : firstRun (db.runs.rows.filter fun run =>
      run.isClaimable runId db.now && !locked run.runId) with
  | none => exact Or.inl rfl
  | some run =>
    obtain ⟨h_mem, h_claimable⟩ := List.mem_filter.mp (firstRun_mem h_first)
    rw [Bool.and_eq_true] at h_claimable
    have h_found : db.runs.find? run.runId = some run :=
      Table.find?_eq_some_iff.mpr ⟨h_mem, rfl⟩
    have h_guard : ∀ r : RunRow, decide (r.runId = run.runId) = true → r.runId = run.runId :=
      fun r h_r => of_decide_eq_true h_r
    have h_writes := WritesRun.of_update (f := RunRow.lease workerId timeoutSeconds db.now)
      (fun _ => rfl) h_guard h_found (decide_eq_true rfl)
    exact Or.inr ⟨run, _, h_found, h_claimable.1, rfl, h_writes.insertEvent rfl⟩

/-- What a heartbeat selects a completion would select as well. -/
theorem ownedBy_of_beating {runId : Uuid} {leaseGeneration : ℕ} {now : Time} {run : RunRow}
    (h : run.beating runId leaseGeneration now = true) :
    run.ownedBy runId leaseGeneration now = true := by
  rw [RunRow.beating, Bool.and_eq_true] at h
  obtain ⟨h_current, h_live⟩ := h
  have h_open : run.leaseOpen now = true := by
    rw [RunRow.leaseOpen, h_live, Bool.or_true]
  rw [RunRow.ownedBy, h_current, h_open]
  rfl

/-- A heartbeat is for the run that was asked for. -/
theorem beating_runId {runId : Uuid} {leaseGeneration : ℕ} {now : Time} {run : RunRow}
    (h : run.beating runId leaseGeneration now = true) : run.runId = runId :=
  ownedBy_runId (ownedBy_of_beating h)

/-- **Specification of a heartbeat.** -/
theorem heartbeat_spec (db : Database α) (runId : Uuid) (leaseGeneration : ℕ)
    (timeoutSeconds : Option ℤ) :
    (heartbeat db runId leaseGeneration timeoutSeconds).1 = db ∨
      ∃ run timeout, db.runs.find? runId = some run ∧
        run.beating runId leaseGeneration db.now = true ∧
        WritesRun db runId (run.extend timeout db.now) []
          (heartbeat db runId leaseGeneration timeoutSeconds).1 := by
  dsimp only [heartbeat]
  rcases update_cases db (f := RunRow.extend (timeoutSeconds.getD leaseTimeoutSeconds) db.now)
      (fun _ => rfl) (fun _ h => beating_runId h) with
    ⟨-, h_same⟩ | ⟨run, -, h_found, h_beating, h_writes⟩
  · exact Or.inl h_same
  · exact Or.inr ⟨run, _, h_found, h_beating, h_writes⟩

/-- **Specification of a completion.** -/
theorem completeRun_spec (db : Database α) (runId : Uuid) (leaseGeneration : ℕ)
    (status : RunStatus) (errorMessage : Option String) :
    (completeRun db runId leaseGeneration status errorMessage).1 = db ∨
      ∃ run event, db.runs.find? runId = some run ∧
        run.ownedBy runId leaseGeneration db.now = true ∧
        event.eventType = "RUN_" ++ status.value ∧
        WritesRun db runId (run.complete status errorMessage db.now) [event]
          (completeRun db runId leaseGeneration status errorMessage).1 := by
  dsimp only [completeRun]
  rcases update_cases db (f := RunRow.complete status errorMessage db.now)
      (fun _ => rfl) (fun _ h => ownedBy_runId h) with
    ⟨h_none, h_same⟩ | ⟨run, h_one, h_found, h_owned, h_writes⟩
  · rw [h_none, if_neg Nat.zero_ne_one]
    exact Or.inl h_same
  · -- the update has returned the run, so the event is recorded
    rw [if_pos h_one, h_writes.runs, if_pos rfl]
    exact Or.inr ⟨run, _, h_found, h_owned, rfl, h_writes.insertEvent rfl⟩

end DqScoring
