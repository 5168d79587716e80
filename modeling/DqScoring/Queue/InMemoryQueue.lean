import DqScoring.Framework.Transition
import DqScoring.Queue.RunQueue
import Mathlib.Logic.Function.Basic

/-!
# The in-memory run queue

`adapters/queue/in_memory_queue.py`. The dictionaries of the adapter are functions, and the
calls come one after the other while time passes. The state carries what the callers know of
the leases (`granted`): the generation of the last claim of a run, and the time until which
that claim and the heartbeats since have extended it.

The fencing contract of the port is a property of steps (`FencedStep`) and of states
(`Reclaims`). The adapter breaks it where it adopts a generation that nobody has claimed, where
a completion ignores the lease time or replaces a status, and where a lease expires at all:
`Meets` excludes these steps, and every run without them is fenced.
-/

namespace DqScoring

open Framework

/-- A `LeasedRun`, with its specification. -/
structure HeldRun where
  runId : Uuid
  workerId : String
  leaseGeneration : ℤ
  claimedAt : Time
  leaseExpiresAt : Time
  spec : RunSpec

/-- The fields of the adapter. Each queued run has its specification. -/
structure InMemoryQueue where
  runs : Uuid → Option RunSpec
  statuses : Uuid → Option RunStatus
  idempotencyMap : String → Option Uuid
  leaseGenerations : Uuid → Option ℤ
  queue : List Uuid
  activeLeases : Uuid → Option HeldRun
  queue_runs : ∀ id ∈ queue, (runs id).isSome = true

namespace InMemoryQueue

theorem queue_runs_nil : ∀ id ∈ ([] : List Uuid), (none : Option RunSpec).isSome = true :=
  List.forall_mem_nil _

/-- A new adapter. -/
def empty : InMemoryQueue where
  runs _ := none
  statuses _ := none
  idempotencyMap _ := none
  leaseGenerations _ := none
  queue := []
  activeLeases _ := none
  queue_runs := queue_runs_nil

variable (q : InMemoryQueue)

theorem queue_runs_enqueue (spec : RunSpec) :
    ∀ id ∈ q.queue ++ [spec.runId],
      (Function.update q.runs spec.runId (some spec) id).isSome = true := by
  intro id h
  by_cases h_id : id = spec.runId
  · rw [h_id, Function.update_self]
    rfl
  · rw [Function.update_of_ne h_id]
    rcases List.mem_append.mp h with h | h
    · exact q.queue_runs id h
    · exact absurd (List.mem_singleton.mp h) h_id

/-- The adapter with a new run. -/
def addRun (spec : RunSpec) (idempotencyKey : String) : InMemoryQueue where
  runs := Function.update q.runs spec.runId (some spec)
  statuses := Function.update q.statuses spec.runId (some .queued)
  idempotencyMap := Function.update q.idempotencyMap idempotencyKey (some spec.runId)
  leaseGenerations := Function.update q.leaseGenerations spec.runId (some 0)
  queue := q.queue ++ [spec.runId]
  activeLeases := q.activeLeases
  queue_runs := q.queue_runs_enqueue spec

/-- `enqueue_run`. -/
def enqueueRun (spec : RunSpec) (idempotencyKey : String) : InMemoryQueue × Uuid :=
  match q.idempotencyMap idempotencyKey with
  | some runId => (q, runId)
  | none => (q.addRun spec idempotencyKey, spec.runId)

/-- The run that a claim takes from the queue: the first one, or only the one that it names. -/
def claimTarget (runId : Option Uuid) : Option { id // id ∈ q.queue } :=
  q.queue.attach.find? fun x => runId.all (x.val = ·)

theorem queue_runs_erase (runId : Uuid) : ∀ id ∈ q.queue.erase runId, (q.runs id).isSome = true :=
  fun id h => q.queue_runs id (List.mem_of_mem_erase h)

/-- The lease of a claim. -/
def newLease (now : Time) (workerId : String) (timeoutSeconds : ℤ) (x : { id // id ∈ q.queue }) :
    HeldRun where
  runId := x.val
  workerId := workerId
  leaseGeneration := (q.leaseGenerations x.val).getD 0 + 1
  claimedAt := now
  leaseExpiresAt := now + timeoutSeconds
  spec := (q.runs x.val).get (q.queue_runs x.val x.property)

/-- The adapter once a queued run is leased. -/
def lease (x : { id // id ∈ q.queue }) (leased : HeldRun) : InMemoryQueue :=
  { q with
    leaseGenerations := Function.update q.leaseGenerations x.val (some leased.leaseGeneration)
    statuses := Function.update q.statuses x.val (some .running)
    activeLeases := Function.update q.activeLeases x.val (some leased)
    queue := q.queue.erase x.val
    queue_runs := q.queue_runs_erase x.val }

/-- `claim_next_run`. -/
def claimNextRun (now : Time) (workerId : String) (timeoutSeconds : ℤ) (runId : Option Uuid) :
    InMemoryQueue × Option HeldRun :=
  match q.claimTarget runId with
  | none => (q, none)
  | some x =>
    let leased := q.newLease now workerId timeoutSeconds x
    (q.lease x leased, some leased)

/-- The run belongs to another tenant than the one that is named. -/
def deniesTenant (runId : Uuid) (tenantId : Option Uuid) : Bool :=
  tenantId.any fun tenant => (q.runs runId).any fun spec => decide (spec.tenantId ≠ tenant)

/-- A generation recorded without a claim: the run has none yet, or a lower one and no lease. -/
def adopts (runId : Uuid) (leaseGeneration : ℤ) : Bool :=
  match q.leaseGenerations runId with
  | none => true
  | some current => decide (current < leaseGeneration) && (q.activeLeases runId).isNone

/-- The adapter with that generation, if it is recorded. -/
def adopt (runId : Uuid) (leaseGeneration : ℤ) : InMemoryQueue :=
  if q.adopts runId leaseGeneration then
    { q with
      leaseGenerations := Function.update q.leaseGenerations runId (some leaseGeneration) }
  else q

/-- The lease time of a heartbeat that names none, in seconds. -/
def defaultTtl : ℤ := 300

/-- The adapter once a lease is extended. -/
def extend (runId : Uuid) (leased : HeldRun) (leaseExpiresAt : Time) : InMemoryQueue :=
  { q with
    activeLeases := Function.update q.activeLeases runId
      (some { leased with leaseExpiresAt := leaseExpiresAt }) }

/-- `heartbeat`. -/
def heartbeat (now : Time) (runId : Uuid) (leaseGeneration : ℤ) (timeoutSeconds : Option ℤ)
    (tenantId : Option Uuid) : InMemoryQueue × Bool :=
  -- the run of another tenant
  if q.deniesTenant runId tenantId then (q, false)
  else
    -- a newer generation is taken over where no lease is in the way
    let q := q.adopt runId leaseGeneration
    if q.leaseGenerations runId ≠ some leaseGeneration then (q, false)
    else
      -- without a lease, nothing has to be extended
      match q.activeLeases runId with
      | none => (q, true)
      | some leased =>
        if leased.leaseExpiresAt ≤ now then (q, false)
        else (q.extend runId leased (now + timeoutSeconds.getD defaultTtl), true)

/-- The adapter once a run is completed. -/
def finish (runId : Uuid) (status : RunStatus) : InMemoryQueue :=
  { q with
    statuses := Function.update q.statuses runId (some status)
    activeLeases := Function.update q.activeLeases runId none }

/-- `complete_run`. -/
def completeRun (runId : Uuid) (leaseGeneration : ℤ) (status : RunStatus)
    (tenantId : Option Uuid) : InMemoryQueue × Bool :=
  if q.deniesTenant runId tenantId then (q, false)
  else
    let q := q.adopt runId leaseGeneration
    if q.leaseGenerations runId ≠ some leaseGeneration then (q, false)
    else
      (q.finish runId status, true)

/-- `get_run_status`. -/
def getRunStatus (runId : Uuid) (tenantId : Option Uuid) : Option RunStatus :=
  if q.deniesTenant runId tenantId then none else q.statuses runId

end InMemoryQueue

/-! ### Calls and time -/

/-- A call of the adapter, or the passing of time. -/
inductive QueueCall where
  | enqueueRun (spec : RunSpec) (idempotencyKey : String)
  | claimNextRun (workerId : String) (timeoutSeconds : ℤ) (runId : Option Uuid)
  | heartbeat (runId : Uuid) (leaseGeneration : ℤ) (timeoutSeconds : Option ℤ)
      (tenantId : Option Uuid)
  /-- The error message of a completion is not kept. -/
  | completeRun (runId : Uuid) (leaseGeneration : ℤ) (status : RunStatus)
      (errorMessage : Option String) (tenantId : Option Uuid)
  | tick (elapsed : ℕ)

/-- What a call returns. -/
inductive QueueAnswer where
  | enqueued (runId : Uuid)
  | claimed (leased : Option HeldRun)
  | accepted (accepted : Bool)
  | ticked

/-- The adapter, the clock, and what the callers know of the leases. -/
structure QueueClock where
  adapter : InMemoryQueue
  now : Time
  granted : Uuid → Option (ℤ × Time)

namespace QueueClock

variable (s : QueueClock)

/-- Before the first call. -/
def Initial (s : QueueClock) : Prop := ∃ now, s = ⟨.empty, now, fun _ => none⟩

/-- The answer to a call, and the adapter after it. -/
def call : QueueCall → InMemoryQueue × QueueAnswer
  | .enqueueRun spec idempotencyKey =>
    let r := s.adapter.enqueueRun spec idempotencyKey
    (r.1, .enqueued r.2)
  | .claimNextRun workerId timeoutSeconds runId =>
    let r := s.adapter.claimNextRun s.now workerId timeoutSeconds runId
    (r.1, .claimed r.2)
  | .heartbeat runId leaseGeneration timeoutSeconds tenantId =>
    let r := s.adapter.heartbeat s.now runId leaseGeneration timeoutSeconds tenantId
    (r.1, .accepted r.2)
  | .completeRun runId leaseGeneration status _ tenantId =>
    let r := s.adapter.completeRun runId leaseGeneration status tenantId
    (r.1, .accepted r.2)
  | .tick _ => (s.adapter, .ticked)

/-- What the callers know once a call is answered. -/
def learn (call : QueueCall) (answer : QueueAnswer) : Uuid → Option (ℤ × Time) :=
  match call, answer with
  | _, .claimed (some leased) =>
    Function.update s.granted leased.runId (some (leased.leaseGeneration, leased.leaseExpiresAt))
  | .heartbeat runId leaseGeneration timeoutSeconds _, .accepted true =>
    -- a heartbeat extends the lease that it is for
    if (s.granted runId).map Prod.fst = some leaseGeneration then
      Function.update s.granted runId
        (some (leaseGeneration, s.now + timeoutSeconds.getD InMemoryQueue.defaultTtl))
    else s.granted
  | _, _ => s.granted

/-- The clock after a call. -/
def clock : QueueCall → Time
  | .tick elapsed => s.now + elapsed
  | _ => s.now

/-- One step. -/
def step (call : QueueCall) : QueueClock :=
  ⟨(s.call call).1, s.clock call, s.learn call (s.call call).2⟩

/-- The generation is that of the last claim of the run, and its lease has not expired. -/
def Granted (runId : Uuid) (leaseGeneration : ℤ) : Prop :=
  ∃ expiresAt, s.granted runId = some (leaseGeneration, expiresAt) ∧ s.now < expiresAt

/-- The lease generation of a run. -/
def generation (runId : Uuid) : ℤ := (s.adapter.leaseGenerations runId).getD 0

end QueueClock

/-! ### The contract -/

/-- The port's terminal statuses. -/
def RunStatus.isFinal : RunStatus → Bool
  | .succeeded | .failed | .cancelled => true
  | _ => false

/-- A call obeys the fencing contract. -/
structure FencedStep (s : QueueClock) (call : QueueCall) : Prop where
  /-- Only a claim of the run changes its generation. -/
  claims : ∀ runId, (s.step call).generation runId ≠ s.generation runId →
    ∃ leased, (s.call call).2 = .claimed (some leased) ∧ leased.runId = runId
  /-- A heartbeat whose generation was not claimed, is stale or has expired does nothing. -/
  heartbeat : ∀ runId g timeout tenant, call = .heartbeat runId g timeout tenant →
    ¬ s.Granted runId g → s.call call = (s.adapter, .accepted false)
  /-- The same of a completion. -/
  complete : ∀ runId g status message tenant, call = .completeRun runId g status message tenant →
    ¬ s.Granted runId g → s.call call = (s.adapter, .accepted false)
  /-- A terminal status stays. -/
  final : ∀ runId status, s.adapter.statuses runId = some status → status.isFinal = true →
    (s.step call).adapter.statuses runId = some status

/-- A run whose lease has expired can be claimed, unless it is done. -/
def QueueClock.Reclaims (s : QueueClock) : Prop :=
  ∀ runId g expiresAt, s.granted runId = some (g, expiresAt) → expiresAt < s.now →
    (∀ status, s.adapter.statuses runId = some status → status.isFinal = false) →
    ∀ workerId timeout, (s.adapter.claimNextRun s.now workerId timeout (some runId)).2.isSome = true

/-- The generation is refused: another one is recorded, and it is not replaced. -/
def InMemoryQueue.Refuses (q : InMemoryQueue) (runId : Uuid) (g : ℤ) : Prop :=
  q.adopts runId g = false ∧ q.leaseGenerations runId ≠ some g

/-- The steps on which the adapter keeps the contract. -/
def QueueClock.Meets (s : QueueClock) : QueueCall → Prop
  | .enqueueRun spec key =>
    -- a run is enqueued once
    (s.adapter.idempotencyMap key).isSome = true ∨ s.adapter.runs spec.runId = none
  -- a lease is not negative
  | .claimNextRun _ timeout runId => s.adapter.claimTarget runId = none ∨ 0 ≤ timeout
  | .heartbeat runId g timeout tenant =>
    s.adapter.deniesTenant runId tenant = true ∨ s.adapter.Refuses runId g ∨
      -- the current holder extends, or the lease is over
      (s.Granted runId g ∧ 0 ≤ timeout.getD InMemoryQueue.defaultTtl) ∨
      ∃ leased, s.adapter.activeLeases runId = some leased ∧ leased.leaseExpiresAt ≤ s.now
  | .completeRun runId g status _ tenant =>
    s.adapter.deniesTenant runId tenant = true ∨ s.adapter.Refuses runId g ∨
      -- the current holder ends the run, and never differently
      (s.Granted runId g ∧ ∀ old, s.adapter.statuses runId = some old → old.isFinal = true →
        status = old)
  -- the lease of a run that has not ended is extended in time
  | .tick elapsed => ∀ runId g expiresAt, s.granted runId = some (g, expiresAt) →
      (∀ status, s.adapter.statuses runId = some status → status.isFinal = false) →
      s.now + elapsed ≤ expiresAt

/-! ### What a call does -/

namespace InMemoryQueue

variable {q : InMemoryQueue} {runId : Uuid} {g : ℤ}

/-- A generation that is refused is not adopted. -/
theorem adopt_of_refuses (h : q.Refuses runId g) : q.adopt runId g = q := by
  unfold adopt
  rw [h.1]
  rfl

/-- The generation that is recorded is not adopted again. -/
theorem adopt_of_current (h : q.leaseGenerations runId = some g) : q.adopt runId g = q := by
  unfold adopt adopts
  rw [h]
  simp

/-- A refused heartbeat changes nothing and says so. -/
theorem heartbeat_of_refuses {tenantId : Option Uuid}
    (h : q.deniesTenant runId tenantId = true ∨ q.Refuses runId g) (now : Time)
    (timeoutSeconds : Option ℤ) :
    q.heartbeat now runId g timeoutSeconds tenantId = (q, false) := by
  unfold heartbeat
  split
  · rfl
  · next h_tenant =>
    have h_refuses := h.resolve_left h_tenant
    dsimp only
    rw [adopt_of_refuses h_refuses, if_pos h_refuses.2]

/-- A refused completion changes nothing and says so. -/
theorem completeRun_of_refuses {tenantId : Option Uuid}
    (h : q.deniesTenant runId tenantId = true ∨ q.Refuses runId g) (status : RunStatus) :
    q.completeRun runId g status tenantId = (q, false) := by
  unfold completeRun
  split
  · rfl
  · next h_tenant =>
    have h_refuses := h.resolve_left h_tenant
    dsimp only
    rw [adopt_of_refuses h_refuses, if_pos h_refuses.2]

/-- A heartbeat of the current generation extends a lease that has not expired. -/
theorem heartbeat_of_current {tenantId : Option Uuid}
    (h_tenant : ¬ q.deniesTenant runId tenantId = true)
    (h : q.leaseGenerations runId = some g) (now : Time) (timeoutSeconds : Option ℤ) :
    (q.activeLeases runId = none →
      q.heartbeat now runId g timeoutSeconds tenantId = (q, true)) ∧
    ∀ leased, q.activeLeases runId = some leased →
      q.heartbeat now runId g timeoutSeconds tenantId =
        if leased.leaseExpiresAt ≤ now then (q, false)
        else (q.extend runId leased (now + timeoutSeconds.getD defaultTtl), true) := by
  unfold heartbeat
  rw [if_neg h_tenant]
  dsimp only
  rw [adopt_of_current h, if_neg (not_not.mpr h)]
  constructor
  · intro h_none
    rw [h_none]
  · intro leased h_some
    rw [h_some]

/-- A completion of the current generation ends the run. -/
theorem completeRun_of_current {tenantId : Option Uuid}
    (h_tenant : ¬ q.deniesTenant runId tenantId = true)
    (h : q.leaseGenerations runId = some g) (status : RunStatus) :
    q.completeRun runId g status tenantId = (q.finish runId status, true) := by
  unfold completeRun
  rw [if_neg h_tenant]
  dsimp only
  rw [adopt_of_current h, if_neg (not_not.mpr h)]

end InMemoryQueue

/-- What holds after steps on which the adapter keeps the contract. -/
structure QueueClock.Inv (s : QueueClock) : Prop where
  /-- Nothing is recorded of an unknown run. -/
  unknown : ∀ id, s.adapter.runs id = none →
    s.adapter.statuses id = none ∧ s.adapter.leaseGenerations id = none
  queue_nodup : s.adapter.queue.Nodup
  queued : ∀ id ∈ s.adapter.queue, s.adapter.statuses id = some .queued ∧ s.granted id = none
  /-- The last claim's generation is the recorded one, and its lease has not expired unless the run
  is done. -/
  granted : ∀ id g t, s.granted id = some (g, t) → s.adapter.leaseGenerations id = some g ∧
    ((∀ status, s.adapter.statuses id = some status → status.isFinal = false) → s.now ≤ t)
  active : ∀ id leased, s.adapter.activeLeases id = some leased →
    s.granted id = some (leased.leaseGeneration, leased.leaseExpiresAt)

/-- What a call does to the adapter and answers, where the contract is kept. -/
inductive QueueEffect (s : QueueClock) : QueueCall → InMemoryQueue × QueueAnswer → Prop
  | known (spec : RunSpec) (key : String) (runId : Uuid) :
    QueueEffect s (.enqueueRun spec key) (s.adapter, .enqueued runId)
  | enqueued (spec : RunSpec) (key : String) (h : s.adapter.runs spec.runId = none) :
    QueueEffect s (.enqueueRun spec key) (s.adapter.addRun spec key, .enqueued spec.runId)
  | idle (workerId : String) (timeout : ℤ) (runId : Option Uuid) :
    QueueEffect s (.claimNextRun workerId timeout runId) (s.adapter, .claimed none)
  | claimed (workerId : String) (timeout : ℤ) (runId : Option Uuid)
      (x : { id // id ∈ s.adapter.queue }) (h : 0 ≤ timeout) :
    QueueEffect s (.claimNextRun workerId timeout runId)
      (s.adapter.lease x (s.adapter.newLease s.now workerId timeout x),
        .claimed (some (s.adapter.newLease s.now workerId timeout x)))
  | ignored (runId : Uuid) (g : ℤ) (timeout : Option ℤ) (tenant : Option Uuid) :
    QueueEffect s (.heartbeat runId g timeout tenant) (s.adapter, .accepted false)
  | kept (runId : Uuid) (g : ℤ) (timeout : Option ℤ) (tenant : Option Uuid)
      (h : s.Granted runId g) (h_timeout : 0 ≤ timeout.getD InMemoryQueue.defaultTtl)
      (h_active : s.adapter.activeLeases runId = none) :
    QueueEffect s (.heartbeat runId g timeout tenant) (s.adapter, .accepted true)
  | extended (runId : Uuid) (g : ℤ) (timeout : Option ℤ) (tenant : Option Uuid) (leased : HeldRun)
      (h : s.Granted runId g) (h_timeout : 0 ≤ timeout.getD InMemoryQueue.defaultTtl)
      (h_active : s.adapter.activeLeases runId = some leased) :
    QueueEffect s (.heartbeat runId g timeout tenant)
      (s.adapter.extend runId leased (s.now + timeout.getD InMemoryQueue.defaultTtl),
        .accepted true)
  | rejected (runId : Uuid) (g : ℤ) (status : RunStatus) (message : Option String)
      (tenant : Option Uuid) :
    QueueEffect s (.completeRun runId g status message tenant) (s.adapter, .accepted false)
  | completed (runId : Uuid) (g : ℤ) (status : RunStatus) (message : Option String)
      (tenant : Option Uuid) (h : s.Granted runId g)
      (h_final : ∀ old, s.adapter.statuses runId = some old → old.isFinal = true → status = old) :
    QueueEffect s (.completeRun runId g status message tenant)
      (s.adapter.finish runId status, .accepted true)
  | ticked (elapsed : ℕ) (h : ∀ runId g expiresAt, s.granted runId = some (g, expiresAt) →
      (∀ status, s.adapter.statuses runId = some status → status.isFinal = false) →
      s.now + elapsed ≤ expiresAt) :
    QueueEffect s (.tick elapsed) (s.adapter, .ticked)

namespace QueueClock

variable {s : QueueClock}

/-- What one call does in a state of the invariant, said once for the claims about runs. -/
theorem Inv.effect (h : s.Inv) {call : QueueCall} (h_meets : s.Meets call) :
    QueueEffect s call (s.call call) := by
  -- each call has one effect, told by what the dictionaries say
  cases call with
  | enqueueRun spec key =>
    show QueueEffect s _ ((s.adapter.enqueueRun spec key).1,
      .enqueued (s.adapter.enqueueRun spec key).2)
    unfold InMemoryQueue.enqueueRun
    -- a known key answers the run of the first call
    cases h_key : s.adapter.idempotencyMap key with
    | some runId => exact .known spec key runId
    | none =>
      -- an unknown one adds the run it names
      refine .enqueued spec key (h_meets.resolve_left fun h_some => ?_)
      rw [h_key] at h_some
      cases h_some
  | claimNextRun workerId timeout runId =>
    show QueueEffect s _ ((s.adapter.claimNextRun s.now workerId timeout runId).1,
      .claimed (s.adapter.claimNextRun s.now workerId timeout runId).2)
    unfold InMemoryQueue.claimNextRun
    -- nothing to claim, or the first run that is queued
    cases h_target : s.adapter.claimTarget runId with
    | none => exact .idle workerId timeout runId
    | some x =>
      refine .claimed workerId timeout runId x (h_meets.resolve_left fun h_none => ?_)
      rw [h_target] at h_none
      cases h_none
  | heartbeat runId g timeout tenant =>
    show QueueEffect s _ ((s.adapter.heartbeat s.now runId g timeout tenant).1,
      .accepted (s.adapter.heartbeat s.now runId g timeout tenant).2)
    -- a heartbeat is refused for the tenant or the generation
    by_cases h_refuses : s.adapter.deniesTenant runId tenant = true ∨ s.adapter.Refuses runId g
    · rw [InMemoryQueue.heartbeat_of_refuses h_refuses]
      exact .ignored runId g timeout tenant
    · obtain ⟨h_tenant, h_current⟩ := not_or.mp h_refuses
      -- the generation is the recorded one, and the lease decides
      have h_rest := (h_meets.resolve_left h_tenant).resolve_left h_current
      have h_gen : s.adapter.leaseGenerations runId = some g := by
        rcases h_rest with ⟨⟨t, h_granted, _⟩, _⟩ | ⟨leased, h_active, _⟩
        · exact (h.granted runId g t h_granted).1
        · have h_recorded := (h.granted _ _ _ (h.active _ _ h_active)).1
          by_contra h_ne
          refine h_current ⟨?_, h_ne⟩
          unfold InMemoryQueue.adopts
          rw [h_recorded, h_active]
          exact Bool.and_false _
      obtain ⟨h_none, h_some⟩ :=
        InMemoryQueue.heartbeat_of_current h_tenant h_gen s.now timeout
      -- a lease that the worker still holds is extended
      cases h_active : s.adapter.activeLeases runId with
      | none =>
        obtain ⟨h_granted, h_timeout⟩ := h_rest.resolve_right fun ⟨_, h_leased, _⟩ => by
          rw [h_active] at h_leased
          cases h_leased
        rw [h_none h_active]
        exact .kept runId g timeout tenant h_granted h_timeout h_active
      | some leased =>
        rw [h_some leased h_active]
        split
        · exact .ignored runId g timeout tenant
        · next h_live =>
          obtain ⟨h_granted, h_timeout⟩ := h_rest.resolve_right fun ⟨_, h_leased, h_expired⟩ => by
            rw [h_active] at h_leased
            obtain rfl := Option.some.inj h_leased
            exact h_live h_expired
          exact .extended runId g timeout tenant leased h_granted h_timeout h_active
  | completeRun runId g status message tenant =>
    show QueueEffect s _ ((s.adapter.completeRun runId g status tenant).1,
      .accepted (s.adapter.completeRun runId g status tenant).2)
    -- the end of a run is refused on the same terms
    by_cases h_refuses : s.adapter.deniesTenant runId tenant = true ∨ s.adapter.Refuses runId g
    · rw [InMemoryQueue.completeRun_of_refuses h_refuses]
      exact .rejected runId g status message tenant
    · obtain ⟨h_tenant, h_current⟩ := not_or.mp h_refuses
      obtain ⟨h_granted, h_final⟩ := (h_meets.resolve_left h_tenant).resolve_left h_current
      obtain ⟨t, h_t, _⟩ := h_granted
      rw [InMemoryQueue.completeRun_of_current h_tenant (h.granted runId g t h_t).1]
      exact .completed runId g status message tenant ⟨t, h_t, ‹_›⟩ h_final
  | tick elapsed => exact .ticked elapsed h_meets

/-! ### The contract is kept -/

/-- An empty queue keeps the invariant. -/
theorem inv_initial (h : s.Initial) : s.Inv := by
  obtain ⟨now, rfl⟩ := h
  exact ⟨fun _ _ => ⟨rfl, rfl⟩, List.nodup_nil, fun _ h => by (cases h),
    fun _ _ _ h => by (cases h), fun _ _ h => by cases h⟩

/-- A run with an entry in the queue has not been claimed. -/
theorem Inv.not_mem_queue (h : s.Inv) {runId : Uuid} {lease : ℤ × Time}
    (h_granted : s.granted runId = some lease) : runId ∉ s.adapter.queue := by
  intro h_mem
  rw [(h.queued runId h_mem).2] at h_granted
  cases h_granted

/-- A new run keeps the invariant. -/
theorem Inv.enqueue (h : s.Inv) (spec : RunSpec) (key : String)
    (h_new : s.adapter.runs spec.runId = none) :
    Inv ⟨s.adapter.addRun spec key, s.now, s.granted⟩ := by
  obtain ⟨h_status, h_generation⟩ := h.unknown spec.runId h_new
  have h_granted : s.granted spec.runId = none := by
    cases h_lease : s.granted spec.runId with
    | none => rfl
    | some lease =>
      rw [(h.granted spec.runId lease.1 lease.2 h_lease).1] at h_generation
      cases h_generation
  have h_queue : spec.runId ∉ s.adapter.queue := by
    intro h_mem
    have h_runs := s.adapter.queue_runs spec.runId h_mem
    rw [h_new] at h_runs
    cases h_runs
  refine ⟨fun id h_id => ?_, ?_, fun id h_id => ?_, fun id g t h_lease => ?_, h.active⟩
  · by_cases h_eq : id = spec.runId
    · exact absurd h_id (by simp [InMemoryQueue.addRun, h_eq])
    · simp only [InMemoryQueue.addRun, Function.update_of_ne h_eq] at h_id ⊢
      exact h.unknown id h_id
  · exact List.nodup_append'.mpr ⟨h.queue_nodup, List.nodup_singleton _,
      List.disjoint_singleton.mpr h_queue⟩
  · by_cases h_eq : id = spec.runId
    · rw [h_eq]
      exact ⟨Function.update_self .., h_granted⟩
    · have h_mem := (List.mem_append.mp h_id).resolve_right fun h => h_eq (List.mem_singleton.mp h)
      refine ⟨?_, (h.queued id h_mem).2⟩
      exact (Function.update_of_ne h_eq ..).trans (h.queued id h_mem).1
  · have h_eq : id ≠ spec.runId := by
      rintro rfl
      rw [h_granted] at h_lease
      cases h_lease
    simp only [InMemoryQueue.addRun, Function.update_of_ne h_eq]
    exact h.granted id g t h_lease

/-- A claim grants the next generation to one worker and keeps the invariant. -/
theorem Inv.claim (h : s.Inv) (workerId : String) {timeout : ℤ} (x : { id // id ∈ s.adapter.queue })
    (h_timeout : 0 ≤ timeout) :
    let leased := s.adapter.newLease s.now workerId timeout x
    Inv ⟨s.adapter.lease x leased, s.now,
      Function.update s.granted x.val (some (leased.leaseGeneration, leased.leaseExpiresAt))⟩ := by
  intro leased
  have h_runs : s.adapter.runs x.val ≠ none := by
    have h_known := s.adapter.queue_runs x.val x.property
    intro h_none
    rw [h_none] at h_known
    cases h_known
  refine ⟨fun id h_id => ?_, h.queue_nodup.erase _, fun id h_id => ?_, fun id g t h_lease => ?_,
    fun id held h_active => ?_⟩
  · have h_eq : id ≠ x.val := fun h_eq => h_runs (h_eq ▸ h_id)
    simp only [InMemoryQueue.lease, Function.update_of_ne h_eq]
    exact h.unknown id h_id
  · obtain ⟨h_eq, h_mem⟩ := h.queue_nodup.mem_erase_iff.mp h_id
    simp only [InMemoryQueue.lease, Function.update_of_ne h_eq]
    exact h.queued id h_mem
  · by_cases h_eq : id = x.val
    · rw [h_eq] at h_lease ⊢
      simp only [InMemoryQueue.lease, Function.update_self] at h_lease ⊢
      obtain ⟨rfl, rfl⟩ := Prod.mk.inj (Option.some.inj h_lease)
      exact ⟨rfl, fun _ => Int.le_add_of_nonneg_right h_timeout⟩
    · simp only [InMemoryQueue.lease, Function.update_of_ne h_eq] at h_lease ⊢
      exact h.granted id g t h_lease
  · by_cases h_eq : id = x.val
    · rw [h_eq] at h_active ⊢
      simp only [InMemoryQueue.lease, Function.update_self] at h_active ⊢
      rw [← Option.some.inj h_active]
    · simp only [InMemoryQueue.lease, Function.update_of_ne h_eq] at h_active ⊢
      exact h.active id held h_active

/-- A heartbeat of the current lease, with the active leases that it leaves. -/
theorem Inv.renew (h : s.Inv) {runId : Uuid} {g : ℤ} {t : Time} (h_granted : s.Granted runId g)
    (h_t : s.now ≤ t) {leases : Uuid → Option HeldRun}
    (h_leases : ∀ id leased, leases id = some leased →
      Function.update s.granted runId (some (g, t)) id =
        some (leased.leaseGeneration, leased.leaseExpiresAt)) :
    Inv ⟨{ s.adapter with activeLeases := leases }, s.now,
      Function.update s.granted runId (some (g, t))⟩ := by
  obtain ⟨t₀, h_lease, _⟩ := h_granted
  refine ⟨h.unknown, h.queue_nodup, fun id h_id => ?_, fun id g' t' h_id => ?_, h_leases⟩
  · have h_eq : id ≠ runId := fun h_eq => h.not_mem_queue h_lease (h_eq ▸ h_id)
    refine ⟨(h.queued id h_id).1, ?_⟩
    exact (Function.update_of_ne h_eq ..).trans (h.queued id h_id).2
  · change Function.update s.granted runId (some (g, t)) id = some (g', t') at h_id
    by_cases h_eq : id = runId
    · rw [h_eq] at h_id ⊢
      rw [Function.update_self] at h_id
      obtain ⟨rfl, rfl⟩ := Prod.mk.inj (Option.some.inj h_id)
      exact ⟨(h.granted runId g t₀ h_lease).1, fun _ => h_t⟩
    · rw [Function.update_of_ne h_eq] at h_id
      exact h.granted id g' t' h_id

/-- A completion keeps the invariant: the run leaves the queue with its lease. -/
theorem Inv.complete (h : s.Inv) {runId : Uuid} {g : ℤ} (h_granted : s.Granted runId g)
    (status : RunStatus) : Inv ⟨s.adapter.finish runId status, s.now, s.granted⟩ := by
  obtain ⟨t, h_lease, h_t⟩ := h_granted
  have h_generation := (h.granted runId g t h_lease).1
  refine ⟨fun id h_id => ?_, h.queue_nodup, fun id h_id => ?_, fun id g' t' h_id => ?_,
    fun id held h_active => ?_⟩
  · have h_eq : id ≠ runId := by
      rintro rfl
      rw [(h.unknown id h_id).2] at h_generation
      cases h_generation
    exact ⟨(Function.update_of_ne h_eq ..).trans (h.unknown id h_id).1, (h.unknown id h_id).2⟩
  · have h_eq : id ≠ runId := fun h_eq => h.not_mem_queue h_lease (h_eq ▸ h_id)
    exact ⟨(Function.update_of_ne h_eq ..).trans (h.queued id h_id).1, (h.queued id h_id).2⟩
  · refine ⟨(h.granted id g' t' h_id).1, fun h_open => ?_⟩
    by_cases h_eq : id = runId
    · rw [h_eq, h_lease] at h_id
      obtain ⟨rfl, rfl⟩ := Prod.mk.inj (Option.some.inj h_id)
      exact le_of_lt h_t
    · simp only [InMemoryQueue.finish, Function.update_of_ne h_eq] at h_open
      exact (h.granted id g' t' h_id).2 h_open
  · by_cases h_eq : id = runId
    · rw [h_eq] at h_active
      simp [InMemoryQueue.finish] at h_active
    · simp only [InMemoryQueue.finish, Function.update_of_ne h_eq] at h_active
      exact h.active id held h_active

/-- An accepted heartbeat is remembered with the new expiry. -/
theorem learn_heartbeat {runId : Uuid} {g : ℤ} (h_granted : s.Granted runId g)
    (timeout : Option ℤ) (tenant : Option Uuid) :
    s.learn (.heartbeat runId g timeout tenant) (.accepted true) =
      Function.update s.granted runId
        (some (g, s.now + timeout.getD InMemoryQueue.defaultTtl)) := by
  obtain ⟨t, h_lease, _⟩ := h_granted
  exact if_pos (by rw [h_lease]; rfl)

/-- Every call that meets the condition keeps the invariant. -/
theorem Inv.step (h : s.Inv) {call : QueueCall} (h_meets : s.Meets call) : (s.step call).Inv := by
  have h_effect := h.effect h_meets
  have h_step : s.step call = ⟨(s.call call).1, s.clock call, s.learn call (s.call call).2⟩ := rfl
  rw [h_step]
  generalize s.call call = result at h_effect ⊢
  cases h_effect with
  | known spec key runId => exact h
  | enqueued spec key h_new => exact h.enqueue spec key h_new
  | idle workerId timeout runId => exact h
  | claimed workerId timeout runId x h_timeout => exact h.claim workerId x h_timeout
  | ignored runId g timeout tenant => exact h
  | kept runId g timeout tenant h_granted h_timeout h_active =>
    rw [learn_heartbeat h_granted]
    refine h.renew h_granted (Int.le_add_of_nonneg_right h_timeout) fun id leased h_id => ?_
    have h_eq : id ≠ runId := by
      rintro rfl
      rw [h_active] at h_id
      cases h_id
    exact (Function.update_of_ne h_eq ..).trans (h.active id leased h_id)
  | extended runId g timeout tenant leased h_granted h_timeout h_active =>
    rw [learn_heartbeat h_granted]
    refine h.renew h_granted (Int.le_add_of_nonneg_right h_timeout) fun id held h_id => ?_
    by_cases h_eq : id = runId
    · rw [h_eq, Function.update_self] at h_id
      rw [h_eq, Function.update_self, ← Option.some.inj h_id]
      -- the lease that is extended is the one of the last claim
      obtain ⟨t, h_lease, _⟩ := h_granted
      have h_last := (h.active runId leased h_active).symm.trans h_lease
      rw [(Prod.mk.inj (Option.some.inj h_last)).1]
    · rw [Function.update_of_ne h_eq] at h_id
      exact (Function.update_of_ne h_eq ..).trans (h.active id held h_id)
  | rejected runId g status message tenant => exact h
  | completed runId g status message tenant h_granted h_final => exact h.complete h_granted status
  | ticked elapsed h_time =>
    exact ⟨h.unknown, h.queue_nodup, h.queued,
      fun id g t h_lease => ⟨(h.granted id g t h_lease).1, h_time id g t h_lease⟩, h.active⟩

/-- Every call that meets the condition obeys the contract. -/
theorem Inv.fenced (h : s.Inv) {call : QueueCall} (h_meets : s.Meets call) : FencedStep s call := by
  have h_effect := h.effect h_meets
  -- generations go up by claims only; the others need the current one; what ended stays
  refine ⟨fun runId h_changed => ?_, ?_, ?_, fun runId status h_status h_final => ?_⟩
  · have h_generation : (s.step call).generation runId =
      ((s.call call).1.leaseGenerations runId).getD 0 := rfl
    rw [h_generation] at h_changed
    unfold generation at h_changed
    generalize s.call call = result at h_effect h_changed ⊢
    cases h_effect with
    | enqueued spec key h_new =>
      -- a new run had no generation, and has now 0
      by_cases h_eq : runId = spec.runId
      · have h_zero : (s.adapter.addRun spec key).leaseGenerations spec.runId = some 0 :=
          Function.update_self ..
        rw [h_eq, (h.unknown spec.runId h_new).2, h_zero] at h_changed
        exact absurd rfl h_changed
      · have h_same : (s.adapter.addRun spec key).leaseGenerations runId =
            s.adapter.leaseGenerations runId := Function.update_of_ne h_eq ..
        exact absurd (congrArg (Option.getD · 0) h_same) h_changed
    | claimed workerId timeout id x h_timeout =>
      refine ⟨_, rfl, ?_⟩
      by_contra h_eq
      have h_ne : runId ≠ x.val := fun h => h_eq h.symm
      exact h_changed (congrArg (Option.getD · 0) (Function.update_of_ne h_ne ..))
    | _ => exact absurd rfl h_changed
  · -- a heartbeat of an old generation changes nothing
    rintro runId g timeout tenant rfl h_granted
    generalize s.call _ = result at h_effect ⊢
    cases h_effect with
    | ignored => rfl
    | kept _ _ _ _ h_current => exact absurd h_current h_granted
    | extended _ _ _ _ _ h_current => exact absurd h_current h_granted
  · -- nor does an end
    rintro runId g status message tenant rfl h_granted
    generalize s.call _ = result at h_effect ⊢
    cases h_effect with
    | rejected => rfl
    | completed _ _ _ _ _ h_current => exact absurd h_current h_granted
  · have h_statuses : (s.step call).adapter.statuses = (s.call call).1.statuses := rfl
    rw [h_statuses]
    generalize s.call call = result at h_effect ⊢
    -- an ended run is none of those that are added, claimed or completed
    cases h_effect with
    | enqueued spec key h_new =>
      have h_eq : runId ≠ spec.runId := by
        rintro rfl
        rw [(h.unknown _ h_new).1] at h_status
        cases h_status
      exact (Function.update_of_ne h_eq ..).trans h_status
    | claimed workerId timeout id x h_timeout =>
      have h_eq : runId ≠ x.val := by
        rintro rfl
        rw [(h.queued _ x.property).1] at h_status
        obtain rfl := Option.some.inj h_status
        cases h_final
      exact (Function.update_of_ne h_eq ..).trans h_status
    | completed id g new message tenant h_granted h_same =>
      by_cases h_eq : runId = id
      · rw [h_eq] at h_status ⊢
        rw [← h_same status h_status h_final]
        exact Function.update_self ..
      · exact (Function.update_of_ne h_eq ..).trans h_status
    | _ => exact h_status

theorem Inv.reclaims (h : s.Inv) : s.Reclaims :=
  fun runId g t h_lease h_expired h_open =>
    absurd ((h.granted runId g t h_lease).2 h_open) (Int.not_le.mpr h_expired)

end QueueClock

/-- One step of a run on which the adapter keeps the contract. -/
def QueueClock.MeetsStep (s s' : QueueClock) : Prop := ∃ call, s.Meets call ∧ s' = s.step call

/-- **Fencing of the in-memory queue.** In every run whose steps all meet the condition, each call
that meets it obeys the contract, and a run whose lease has expired can be claimed. -/
theorem inMemoryQueue_fenced {s : QueueClock}
    (h : Reachable QueueClock.Initial QueueClock.MeetsStep s) :
    (∀ call, s.Meets call → FencedStep s call) ∧ s.Reclaims := by
  have h_inv : s.Inv := h.invariant (fun _ => QueueClock.inv_initial) (by
    rintro s _ h_inv ⟨call, h_meets, rfl⟩
    exact h_inv.step h_meets)
  exact ⟨fun _ h_meets => h_inv.fenced h_meets, h_inv.reclaims⟩

/-- A specification. -/
def queuedSpec : RunSpec where
  runId := Uuid.repeated 1
  tenantId := Uuid.repeated 2
  snapshotId := Uuid.repeated 3
  outlierConfigHash := ""

/-- A new adapter at time 0. -/
def queueAtZero : QueueClock := ⟨.empty, 0, fun _ => none⟩

/-- The adapter once a run is claimed. -/
def queueWithClaim : QueueClock :=
  (queueAtZero.step (.enqueueRun queuedSpec "key")).step (.claimNextRun "worker" 300 none)

theorem inMemoryQueue_fenced_claimed :
    (∀ call, queueWithClaim.Meets call → FencedStep queueWithClaim call) ∧
      queueWithClaim.Reclaims :=
  inMemoryQueue_fenced (((Reachable.of_initial ⟨0, rfl⟩).next
    ⟨.enqueueRun queuedSpec "key", Or.inr rfl, rfl⟩).next
    ⟨.claimNextRun "worker" 300 none, Or.inr (by decide), rfl⟩)

/-- A heartbeat of a queued run, under a generation that nobody has claimed, is accepted. -/
theorem inMemoryQueue_adopts : ¬ ∀ s : QueueClock,
    Reachable QueueClock.Initial (fun s s' => ∃ call, s' = s.step call) s →
    (∀ call, FencedStep s call) ∧ s.Reclaims := by
  intro h
  have h_fenced := (h (queueAtZero.step (.enqueueRun queuedSpec "key"))
    ((Reachable.of_initial ⟨0, rfl⟩).next ⟨_, rfl⟩)).1
    (.heartbeat queuedSpec.runId 7 none none)
  have h_refused := h_fenced.heartbeat _ _ _ _ rfl fun ⟨_, h_granted, _⟩ => by cases h_granted
  have h_answer : QueueAnswer.accepted true = .accepted false := congrArg Prod.snd h_refused
  cases h_answer

end DqScoring
