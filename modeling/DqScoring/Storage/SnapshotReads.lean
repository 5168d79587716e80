import DqScoring.Queue.RunSpecs
import DqScoring.Storage.SnapshotObjects

/-!
# What an evaluation reads

`SparkComputeEngine` checks the objects of a snapshot and then lets Spark read the current object of
the key, in many requests and without a version. An engine keeps the snapshots whose digests it has
compared and compares only versions and sizes when it checks them again.

`evaluateSnapshot_spec`: an evaluation that is not aborted has computed its results on the
registered bytes, whatever others wrote meanwhile. It rests on the last check of the run, since a
version that has been replaced does not become the current one again.
-/

namespace DqScoring

open Framework

variable {α : Type}

/-! ### The engine -/

/-- The error of a run for an error of a snapshot: `str(exc)`. -/
def asRunAborted : StorageFailure → StorageFailure
  | .snapshotObject code detail => .runAborted (code ++ ": " ++ detail)
  | e => e

/-- `_object_ref`. -/
def objectRef (snapshot : SnapshotSpec) (descriptor : PyDict) (bucket : String) :
    StorageM ObjectRef :=
  tryCatch (ofExcept (pinnedRef snapshot.tenantId descriptor bucket)) fun e =>
    throw (asRunAborted e)

/-- `_verify_object`. -/
def verifyForRun (env : StorageEnv) (ref : ObjectRef) (descriptor : PyDict) (full : Bool) :
    StorageM Unit :=
  tryCatch (verifyObject env ref descriptor full none) fun e => throw (asRunAborted e)

/-- `verify_snapshot` after it has found the canonical descriptor. -/
def verifyObjects (env : StorageEnv) (bucket : String) (snapshot : SnapshotSpec)
    (canonical : PyDict) : StorageM Unit := do
  let raw ← objectRef snapshot snapshot.sourceDescriptor bucket
  let ref ← objectRef snapshot canonical bucket
  -- the contents are compared once per pair of versions
  let w ← get
  let full := decide (w.verified snapshot.snapshotId ≠ some (raw, ref))
  verifyForRun env raw snapshot.sourceDescriptor full
  verifyForRun env ref canonical full
  modify fun w =>
    { w with verified := Function.update w.verified snapshot.snapshotId (some (raw, ref)) }

/-- `verify_snapshot`. -/
def verifySnapshot (env : StorageEnv) (bucket : String) (snapshot : SnapshotSpec) : StorageM Unit :=
  -- a legacy snapshot is refused before any request
  if snapshot.sourceKind ≠ "OBJECT_FILE" then
    throw (.runAborted "LEGACY_SOURCE_UNSUPPORTED: Import this snapshot into object storage.")
  else
    -- the descriptor decides which object is analysed
    match canonicalDescriptor snapshot.sourceDescriptor with
    | .ok canonical => verifyObjects env bucket snapshot canonical
    | .error _ =>
      throw (.runAborted "MALFORMED_IMPORT: Canonical Parquet descriptor is missing.")

/-- `release_snapshot`. -/
def StorageWorker.release (snapshot : SnapshotSpec) (w : StorageWorker) : StorageWorker :=
  { w with verified := Function.update w.verified snapshot.snapshotId none }

/-- The canonical descriptor of a snapshot that has one. -/
def canonicalOf (snapshot : SnapshotSpec) : PyDict :=
  match canonicalDescriptor snapshot.sourceDescriptor with
  | .ok canonical => canonical
  | .error _ => []

/-- The object that Spark reads: the URI has no version. -/
def sparkRef (snapshot : SnapshotSpec) : ObjectRef where
  bucket := textOf (canonicalOf snapshot) "bucket"
  key := textOf (canonicalOf snapshot) "key"

/-- A request of Spark; nothing where it fails. -/
def request (env : StorageEnv) (snapshot : SnapshotSpec) : StorageM (Option Bytes) :=
  tryCatch (some <$> call env (openStream (sparkRef snapshot))) fun _ => return none

/-! ### Evaluations -/

/-- What the engine makes of a snapshot. It loads the table several times, and what it requests may
depend on what it has read. -/
inductive Analysis (α : Type) where
  | result (a : α)
  | abort (e : StorageFailure)
  /-- `_load_df`, which checks the snapshot. -/
  | load (rest : Analysis α)
  /-- A request of Spark, without bytes where it fails: the evidence of a rule is then left out. -/
  | read (rest : Option Bytes → Analysis α)

namespace Analysis

/-- The analysis of fixed bytes. -/
def eval (b : Bytes) : Analysis α → Except StorageFailure α
  | result a => .ok a
  | abort e => .error e
  | load rest => rest.eval b
  | read rest => (rest (some b)).eval b

/-- A result of an analysis of fixed bytes in which any request may fail. -/
inductive Yields (b : Bytes) : Analysis α → α → Prop
  | result (a : α) : Yields b (.result a) a
  | load {rest : Analysis α} {a : α} (h : Yields b rest a) : Yields b (.load rest) a
  | read {rest : Option Bytes → Analysis α} {a : α} (h : Yields b (rest (some b)) a) :
    Yields b (.read rest) a
  | failed {rest : Option Bytes → Analysis α} {a : α} (h : Yields b (rest none) a) :
    Yields b (.read rest) a

/-- The analysis in the bucket. -/
def run (env : StorageEnv) (bucket : String) (snapshot : SnapshotSpec) : Analysis α → StorageM α
  | result a => return a
  | abort e => throw e
  -- loading checks the snapshot again
  | load rest => do
    verifySnapshot env bucket snapshot
    rest.run env bucket snapshot
  | read rest => do
    let b ← request env snapshot
    (rest b).run env bucket snapshot

end Analysis

/-- The `try` of `execute_leased_run`, up to the save. -/
def verifiedAnalysis (env : StorageEnv) (bucket : String) (snapshot : SnapshotSpec)
    (analysis : Analysis α) : StorageM α := do
  verifySnapshot env bucket snapshot
  let a ← analysis.run env bucket snapshot
  verifySnapshot env bucket snapshot
  return a

/-- `execute_leased_run`: the `finally` releases the snapshot. -/
def evaluateSnapshot (env : StorageEnv) (bucket : String) (snapshot : SnapshotSpec)
    (analysis : Analysis α) : StorageM α := fun w =>
  match verifiedAnalysis env bucket snapshot analysis w with
  | .ok a w' => .ok a (w'.release snapshot)
  | .error e w' => .error e (w'.release snapshot)

/-- A worker evaluates one run after another. -/
def evaluateRuns (env : StorageEnv) (bucket : String) :
    List (SnapshotSpec × Analysis α) → StorageWorker → List (Except StorageFailure α)
  | [], _ => []
  | (snapshot, analysis) :: rest, w =>
    match evaluateSnapshot env bucket snapshot analysis w with
    | .ok a w' => .ok a :: evaluateRuns env bucket rest w'
    | .error e w' => .error e :: evaluateRuns env bucket rest w'

/-! ### One check -/

variable {env : StorageEnv} {bucket : String} {snapshot : SnapshotSpec} {w w' : StorageWorker}

/-- The reference of an object is pinned by its descriptor. -/
theorem objectRef_ok {descriptor : PyDict} {ref : ObjectRef}
    (h : objectRef snapshot descriptor bucket w = .ok ref w') :
    pinnedRef snapshot.tenantId descriptor bucket = .ok ref ∧ w' = w :=
  ofExcept_ok (run_of_rethrow h)

/-- A verification for a run verifies the object itself. -/
theorem verifyForRun_ok {ref : ObjectRef} {descriptor : PyDict} {full : Bool} {u : Unit}
    (h : verifyForRun env ref descriptor full w = .ok u w') :
    verifyObject env ref descriptor full none w = .ok u w' :=
  run_of_rethrow h

/-- What a check finds: the reference of the canonical object, and the bytes that are its current
version at the end of the check; the digest is compared unless the engine has the snapshot. -/
theorem verifySnapshot_ok {u : Unit} (h : verifySnapshot env bucket snapshot w = .ok u w') :
    canonicalDescriptor snapshot.sourceDescriptor = .ok (canonicalOf snapshot) ∧
      ∃ ref b t, pinnedRef snapshot.tenantId (canonicalOf snapshot) bucket = .ok ref ∧
        w.clock ≤ t ∧ w'.clock = t + 1 ∧ IsCurrent env ref t b ∧
        (w.verified snapshot.snapshotId = none → Fits env (canonicalOf snapshot) b) := by
  unfold verifySnapshot at h
  split at h
  · cases h
  cases h_canonical : canonicalDescriptor snapshot.sourceDescriptor with
  | ok canonical =>
    simp only [h_canonical] at h
    -- the canonical descriptor is the one of the snapshot
    have h_of : canonicalOf snapshot = canonical := by
      unfold canonicalOf
      rw [h_canonical]
    rw [h_of]
    refine ⟨rfl, ?_⟩
    obtain ⟨raw, w₁, h_raw, h_rest⟩ := run_of_bind h
    obtain ⟨h_rawRef, rfl⟩ := objectRef_ok h_raw
    obtain ⟨ref, w₂, h_ref, h_check⟩ := run_of_bind h_rest
    obtain ⟨h_pinned, rfl⟩ := objectRef_ok h_ref
    -- what the engine has verified decides whether the digests are compared
    -- the raw object is verified first, the canonical one last
    obtain ⟨w₃, w₄, h_get, h_full⟩ := run_of_bind h_check
    cases h_get
    obtain ⟨_, w₅, h_first, h_second⟩ := run_of_bind h_full
    obtain ⟨_, w₆, h_last, h_done⟩ := run_of_bind h_second
    cases h_done
    obtain ⟨-, -, -, h_rawPinned, -⟩ := pinnedRef_ok h_rawRef
    obtain ⟨-, -, -, h_isPinned, -⟩ := pinnedRef_ok h_pinned
    obtain ⟨h_lt, -⟩ := verifyObject_ok h_rawPinned (verifyForRun_ok h_first)
    obtain ⟨h_lt', b, h_current, -, h_digest, -⟩ :=
      verifyObject_ok h_isPinned (verifyForRun_ok h_last)
    -- the last call of the check is the one that sees the current version
    refine ⟨ref, b, w₆.clock - 1, h_pinned, by omega, ?_, h_current _ (by omega) (by omega), ?_⟩
    · show w₆.clock = _
      omega
    · intro h_new
      refine (h_digest (decide_eq_true ?_)).1
      rw [h_new]
      exact (Option.some_ne_none _).symm
  | error e =>
    -- without a canonical descriptor nothing is read
    simp only [h_canonical] at h
    cases h

/-! ### Runs -/

/-- Spark reads the pinned version, an outage apart. -/
theorem request_eq (env : StorageEnv) (snapshot : SnapshotSpec) (w : StorageWorker) :
    request env snapshot w =
      if env.outage w.clock then .ok none w.tick
      else
        match openStream (sparkRef snapshot) (env.history.store w.clock) with
        | .ok b => .ok (some b) w.tick
        | .error _ => .ok none w.tick := by
  show EStateM.tryCatch (EStateM.map some (call env _)) _ w = _
  unfold EStateM.tryCatch EStateM.map call
  by_cases h_outage : env.outage w.clock
  · simp only [h_outage, if_true]
    rfl
  · simp only [h_outage]
    cases openStream (sparkRef snapshot) (env.history.store w.clock) with
    | ok b => rfl
    | error e => rfl

/-- A request is one call, whether it fails or not. -/
theorem request_clock {o : Option Bytes} (h : request env snapshot w = .ok o w') :
    w'.clock = w.clock + 1 := by
  rw [request_eq] at h
  split at h
  · cases h
    rfl
  · split at h <;> cases h <;> rfl

variable {ref : ObjectRef} {b : Bytes}

/-- Spark reads the key of the pinned version, without the version. -/
theorem sparkRef_eq
    (h : pinnedRef snapshot.tenantId (canonicalOf snapshot) bucket = .ok ref) :
    sparkRef snapshot = { bucket := ref.bucket, key := ref.key } := by
  obtain ⟨h_bucket, h_key⟩ := pinnedRef_location h
  unfold sparkRef
  rw [h_bucket, h_key]

/-- While the bytes are the current version a request finds them, if it does not fail. -/
theorem request_of_isCurrent (h_key : sparkRef snapshot = { bucket := ref.bucket, key := ref.key })
    (h : IsCurrent env ref w.clock b) :
    request env snapshot w = .ok (if env.outage w.clock then none else some b) w.tick := by
  rw [request_eq, h_key, openStream_current h]
  split <;> rfl

/-- An analysis takes no time back. -/
theorem Analysis.run_clock {analysis : Analysis α} {a : α}
    (h : analysis.run env bucket snapshot w = .ok a w') : w.clock ≤ w'.clock := by
  induction analysis generalizing w with
  | result _ =>
    cases h
    exact Nat.le_refl _
  | abort _ => cases h
  | load rest ih =>
    obtain ⟨_, w₁, h_check, h_rest⟩ := run_of_bind h
    obtain ⟨-, -, -, t, -, h_le, h_clock, -⟩ := verifySnapshot_ok h_check
    have h_later := ih h_rest
    omega
  | read rest ih =>
    obtain ⟨o, w₁, h_request, h_rest⟩ := run_of_bind h
    have h_later := ih o h_rest
    have h_clock := request_clock h_request
    omega

/-- **Run lemma.** While the bytes are the current version an analysis yields what it does on the
bytes alone. -/
theorem Analysis.run_ok {analysis : Analysis α} {a : α}
    (h_key : sparkRef snapshot = { bucket := ref.bucket, key := ref.key })
    (h : analysis.run env bucket snapshot w = .ok a w')
    (h_same : ∀ n, w.clock ≤ n → n < w'.clock → IsCurrent env ref n b) :
    analysis.Yields b a ∧
      ((∀ n, w.clock ≤ n → n < w'.clock → env.outage n = false) → analysis.eval b = .ok a) := by
  -- on the analysis; every request of it is one tick of the clock
  induction analysis generalizing w with
  | result _ =>
    cases h
    exact ⟨.result a, fun _ => rfl⟩
  | abort _ => cases h
  | load rest ih =>
    -- a frame is loaded after the check of the snapshot
    obtain ⟨_, w₁, h_check, h_rest⟩ := run_of_bind h
    obtain ⟨-, -, -, t, -, h_le, h_clock, -⟩ := verifySnapshot_ok h_check
    obtain ⟨h_yields, h_eval⟩ := ih h_rest fun n h_n => h_same n (by omega)
    exact ⟨.load h_yields, fun h_up => h_eval fun n h_n => h_up n (by omega)⟩
  | read rest ih =>
    obtain ⟨o, w₁, h_request, h_rest⟩ := run_of_bind h
    have h_before : w.clock < w'.clock := by
      have h_later := run_clock h_rest
      have h_clock := request_clock h_request
      omega
    -- the request falls into the time in which the bytes are the current version
    have h_now := h_same _ (Nat.le_refl _) h_before
    rw [request_of_isCurrent h_key h_now] at h_request
    cases h_request
    obtain ⟨h_yields, h_eval⟩ := ih _ h_rest fun n h_n => h_same n (by
      rw [StorageWorker.tick_clock] at h_n
      omega)
    constructor
    · -- a request that fails is one of the answers that the analysis expects
      by_cases h_outage : env.outage w.clock
      · rw [if_pos h_outage] at h_yields
        exact .failed h_yields
      · rw [if_neg h_outage] at h_yields
        exact .read h_yields
    · intro h_up
      have h_found := h_eval fun n h_n => h_up n (by
        rw [StorageWorker.tick_clock] at h_n
        omega)
      rw [h_up _ (Nat.le_refl _) h_before] at h_found
      exact h_found

/-- What a run that was not aborted tells about the bucket. -/
structure ReadsRegistered (env : StorageEnv) (bucket : String) (snapshot : SnapshotSpec)
    (analysis : Analysis α) (a : α) (b : Bytes) : Prop where
  /-- The bytes are those of a version of the tenant's canonical object. -/
  pinned : ∃ ref n, pinnedRef snapshot.tenantId (canonicalOf snapshot) bucket = .ok ref ∧
    VersionHolds env ref n b
  fits : Fits env (canonicalOf snapshot) b
  /-- The result is one of the analysis of these bytes. -/
  yields : analysis.Yields b a

/-- A verified analysis read the registered content throughout. -/
theorem verifiedAnalysis_ok {analysis : Analysis α} {a : α}
    (h_new : w.verified snapshot.snapshotId = none)
    (h : verifiedAnalysis env bucket snapshot analysis w = .ok a w') :
    w.clock ≤ w'.clock ∧ ∃ b, ReadsRegistered env bucket snapshot analysis a b ∧
      ((∀ n, w.clock ≤ n → n < w'.clock → env.outage n = false) → analysis.eval b = .ok a) := by
  obtain ⟨_, w₁, h_first, h_rest⟩ := run_of_bind h
  obtain ⟨a', w₂, h_run, h_check⟩ := run_of_bind h_rest
  obtain ⟨_, w₃, h_last, h_done⟩ := run_of_bind h_check
  cases h_done
  obtain ⟨-, ref, b, t, h_ref, h_start, h_clock, h_current, h_fits⟩ := verifySnapshot_ok h_first
  obtain ⟨-, ref', b', t', h_ref', h_end, h_clock', h_current', -⟩ := verifySnapshot_ok h_last
  -- both checks are about the same version
  obtain rfl : ref = ref' := Except.ok.inj (h_ref.symm.trans h_ref')
  have h_later := Analysis.run_clock h_run
  -- the version is the current one before the analysis and after it
  obtain ⟨h_yields, h_eval⟩ := Analysis.run_ok (sparkRef_eq h_ref) h_run fun n h_n h_lt =>
    h_current.between h_current' (by omega) (by omega)
  refine ⟨by omega, b, ⟨⟨ref, t, h_ref, h_current.holds⟩, h_fits h_new, h_yields⟩, ?_⟩
  intro h_up
  exact h_eval fun n h_n h_lt => h_up n (by omega) (by omega)

/-! ### A bucket that is left alone -/

/-- The snapshot is as it was registered, and from a time on nothing disturbs it. -/
structure LeftAlone (env : StorageEnv) (bucket : String) (snapshot : SnapshotSpec) (b : Bytes)
    (start : ℕ) : Prop where
  kind : snapshot.sourceKind = "OBJECT_FILE"
  canonical : canonicalDescriptor snapshot.sourceDescriptor = .ok (canonicalOf snapshot)
  raw : ∃ ref b, pinnedRef snapshot.tenantId snapshot.sourceDescriptor bucket = .ok ref ∧
    Fits env snapshot.sourceDescriptor b ∧ Undisturbed env ref b start
  ref : ∃ ref, pinnedRef snapshot.tenantId (canonicalOf snapshot) bucket = .ok ref ∧
    Fits env (canonicalOf snapshot) b ∧ Undisturbed env ref b start

/-- An object that is left alone stays so. -/
theorem LeftAlone.later {m n : ℕ} (h : LeftAlone env bucket snapshot b m) (h_le : m ≤ n) :
    LeftAlone env bucket snapshot b n := by
  obtain ⟨h_kind, h_canonical, ⟨raw, b_raw, h_raw, h_fitsRaw, h_undisturbed⟩, ref, h_ref, h_fits,
    h_undisturbed'⟩ := h
  exact ⟨h_kind, h_canonical, ⟨raw, b_raw, h_raw, h_fitsRaw, h_undisturbed.later h_le⟩, ref, h_ref,
    h_fits, h_undisturbed'.later h_le⟩

/-- The verification of an undisturbed object passes, in full or by its head alone. -/
theorem verifyForRun_of_undisturbed {descriptor : PyDict} (h_ref : ref.IsPinned)
    (h_fits : Fits env descriptor b) (h : Undisturbed env ref b w.clock) (full : Bool) :
    ∃ w', verifyForRun env ref descriptor full w = .ok () w' ∧ w.clock ≤ w'.clock := by
  obtain ⟨w', h_verify, h_le⟩ := verifyObject_of_undisturbed full none h_ref h_fits h
  exact ⟨w', tryCatch_of_run h_verify, h_le⟩

/-- A snapshot whose object is left alone is verified. -/
theorem verifySnapshot_of_leftAlone (h : LeftAlone env bucket snapshot b w.clock) :
    ∃ w', verifySnapshot env bucket snapshot w = .ok () w' ∧ w.clock ≤ w'.clock := by
  obtain ⟨h_kind, h_canonical, ⟨raw, b_raw, h_raw, h_fitsRaw, h_undisturbed⟩, ref, h_ref, h_fits,
    h_undisturbed'⟩ := h
  obtain ⟨-, -, -, h_rawPinned, -⟩ := pinnedRef_ok h_raw
  obtain ⟨-, -, -, h_isPinned, -⟩ := pinnedRef_ok h_ref
  have h_first : objectRef snapshot snapshot.sourceDescriptor bucket w = .ok raw w := by
    apply tryCatch_of_run
    rw [h_raw]
    rfl
  have h_second : objectRef snapshot (canonicalOf snapshot) bucket w = .ok ref w := by
    apply tryCatch_of_run
    rw [h_ref]
    rfl
  -- both objects are compared in full or by their size, as the engine has seen them
  have h_get : (get : StorageM StorageWorker) w = .ok w w := rfl
  obtain ⟨w₁, h_rawCheck, h_le⟩ := verifyForRun_of_undisturbed h_rawPinned h_fitsRaw h_undisturbed
    (decide (w.verified snapshot.snapshotId ≠ some (raw, ref)))
  obtain ⟨w₂, h_check, h_le'⟩ := verifyForRun_of_undisturbed h_isPinned h_fits
    (h_undisturbed'.later h_le) (decide (w.verified snapshot.snapshotId ≠ some (raw, ref)))
  refine ⟨{ w₂ with
    verified := Function.update w₂.verified snapshot.snapshotId (some (raw, ref)) }, ?_,
    h_le.trans h_le'⟩
  unfold verifySnapshot
  rw [if_neg (not_not.mpr h_kind), h_canonical]
  show verifyObjects env bucket snapshot (canonicalOf snapshot) w = _
  unfold verifyObjects
  rw [bind_of_run h_first, bind_of_run h_second, bind_of_run h_get,
    bind_of_run h_rawCheck, bind_of_run h_check]
  rfl

/-- On an object that is left alone the analysis answers what it computes, and fails where
it fails. -/
theorem Analysis.run_of_leftAlone (analysis : Analysis α)
    (h : LeftAlone env bucket snapshot b w.clock) :
    (∀ a, analysis.eval b = .ok a →
      ∃ w', analysis.run env bucket snapshot w = .ok a w' ∧ w.clock ≤ w'.clock) ∧
    ∀ e, analysis.eval b = .error e →
      ∃ w', analysis.run env bucket snapshot w = .error e w' := by
  induction analysis generalizing w with
  | result a =>
    constructor
    · rintro _ ⟨⟩
      exact ⟨w, rfl, Nat.le_refl _⟩
    · rintro _ ⟨⟩
  | abort e =>
    constructor
    · rintro _ ⟨⟩
    · rintro _ ⟨⟩
      exact ⟨w, rfl⟩
  | load rest ih =>
    obtain ⟨w₁, h_check, h_le⟩ := verifySnapshot_of_leftAlone h
    obtain ⟨h_ok, h_error⟩ := ih (h.later h_le)
    unfold run
    rw [bind_of_run h_check]
    refine ⟨fun a h_a => ?_, h_error⟩
    obtain ⟨w', h_run, h_le'⟩ := h_ok a h_a
    exact ⟨w', h_run, h_le.trans h_le'⟩
  | read rest ih =>
    obtain ⟨ref, h_ref, -, h_undisturbed⟩ := h.ref
    have h_request := request_of_isCurrent (sparkRef_eq h_ref)
      (h_undisturbed.current _ (Nat.le_refl _))
    rw [h_undisturbed.noOutage _ (Nat.le_refl _), if_neg Bool.false_ne_true] at h_request
    obtain ⟨h_ok, h_error⟩ := ih (some b) (w := w.tick) (h.later (Nat.le_succ _))
    unfold run
    rw [bind_of_run h_request]
    refine ⟨fun a h_a => ?_, h_error⟩
    obtain ⟨w', h_run, h_le⟩ := h_ok a h_a
    exact ⟨w', h_run, (Nat.le_succ _).trans h_le⟩

/-- **No false alarm.** In a bucket that is left alone an evaluation does what the analysis does on
the registered bytes. -/
theorem evaluateSnapshot_of_leftAlone {analysis : Analysis α} {a : α}
    (h : LeftAlone env bucket snapshot b w.clock) (h_eval : analysis.eval b = .ok a) :
    ∃ w', evaluateSnapshot env bucket snapshot analysis w = .ok a w' := by
  -- each of the three stages starts later, and nothing disturbs it either
  obtain ⟨w₁, h_first, h_le⟩ := verifySnapshot_of_leftAlone h
  obtain ⟨w₂, h_run, h_le'⟩ := (analysis.run_of_leftAlone (h.later h_le)).1 a h_eval
  obtain ⟨w₃, h_last, -⟩ := verifySnapshot_of_leftAlone (h.later (h_le.trans h_le'))
  have h_verified : verifiedAnalysis env bucket snapshot analysis w = .ok a w₃ := by
    unfold verifiedAnalysis
    rw [bind_of_run h_first, bind_of_run h_run, bind_of_run h_last]
    rfl
  refine ⟨w₃.release snapshot, ?_⟩
  unfold evaluateSnapshot
  rw [h_verified]

/-! ### One run after another -/

/-- The program does not touch what the engine keeps of other snapshots. -/
def KeepsOthers (id : Uuid) (x : StorageM α) : Prop :=
  Keeps (fun w w' => ∀ other, other ≠ id → w'.verified other = w.verified other) x

namespace KeepsOthers

variable {id : Uuid} {β : Type} {x : StorageM α} {f : α → StorageM β}

/-- Steps that keep the other snapshots' verifications compose. -/
theorem bind (h : KeepsOthers id x) (h_f : ∀ a, KeepsOthers id (f a)) :
    KeepsOthers id (x >>= f) :=
  Keeps.bind (fun h_ab h_bc other h_ne => (h_bc other h_ne).trans (h_ab other h_ne)) h h_f

/-- So does a handler, whatever the first step had done. -/
theorem tryCatch {handler : StorageFailure → StorageM α} (h : KeepsOthers id x)
    (h_handler : ∀ e, KeepsOthers id (handler e)) : KeepsOthers id (tryCatch x handler) :=
  Keeps.tryCatch (fun h_ab h_bc other h_ne => (h_bc other h_ne).trans (h_ab other h_ne)) h h_handler

theorem pure (a : α) : KeepsOthers id (pure a : StorageM α) := fun _ _ _ => rfl

theorem raise (e : StorageFailure) : KeepsOthers id (throw e : StorageM α) := fun _ _ _ => rfl

/-- A call to the bucket remembers no verification. -/
theorem call (f : ObjectStore → Except StorageFailure α) : KeepsOthers id (call env f) := by
  intro w other _
  unfold DqScoring.call
  by_cases h_outage : env.outage w.clock
  · simp only [h_outage, if_true]
    rfl
  · simp only [h_outage]
    cases f (env.history.store w.clock) with
    | ok a => rfl
    | error e => rfl

theorem ofExcept (x : Except StorageFailure α) : KeepsOthers id (ofExcept x) := by
  intro w other _
  cases x with
  | ok a => rfl
  | error e => rfl

/-- Copying remembers no verification. -/
theorem copyChunks {dest : Option String} (pieces : List Bytes) (hashed : Bytes) :
    KeepsOthers id (copyChunks env dest pieces hashed) := by
  induction pieces generalizing hashed with
  | nil => exact bind (call _) fun _ => pure _
  | cons chunk rest ih =>
    refine bind (call _) fun _ => bind ?_ fun _ => ih _
    intro w other _
    cases dest with
    | none => rfl
    | some path => rfl

theorem checkCurrent (size : Option ℤ) : KeepsOthers id (checkCurrent env ref size) := by
  refine bind (call _) fun metadata => ?_
  split
  · exact raise _
  · exact pure _

/-- Verifying an object remembers nothing by itself. -/
theorem verifyObject {descriptor : PyDict} {full : Bool} {spool : Option String} :
    KeepsOthers id (verifyObject env ref descriptor full spool) := by
  refine tryCatch (bind (checkCurrent _) fun _ => ?_) fun _ => raise _
  cases full with
  | false => exact pure _
  | true =>
    refine bind (call _) fun stream => bind ?_ fun _ => bind (copyChunks _ _) fun hashed => ?_
    · intro w other _
      cases spool with
      | none => rfl
      | some path => rfl
    · split
      · exact raise _
      · exact checkCurrent _

/-- Verifying a snapshot remembers its own id only. -/
theorem verifySnapshot :
    KeepsOthers snapshot.snapshotId (verifySnapshot env bucket snapshot) := by
  unfold DqScoring.verifySnapshot
  split
  · exact raise _
  cases canonicalDescriptor snapshot.sourceDescriptor with
  | error e => exact raise _
  | ok canonical =>
    refine bind (tryCatch (ofExcept _) fun _ => raise _) fun raw =>
      bind (tryCatch (ofExcept _) fun _ => raise _) fun ref =>
      bind (fun _ _ _ => rfl) fun w =>
      bind (tryCatch verifyObject fun _ => raise _) fun _ =>
      bind (tryCatch verifyObject fun _ => raise _) fun _ => ?_
    intro w other h_ne
    exact Function.update_of_ne h_ne ..

/-- An analysis remembers the verification of its own snapshot only. -/
theorem run (analysis : Analysis α) :
    KeepsOthers snapshot.snapshotId (analysis.run env bucket snapshot) := by
  -- the continuations of a request are smaller programs
  induction analysis with
  | result a => exact pure _
  | abort e => exact raise _
  | load rest ih => exact bind verifySnapshot fun _ => ih
  | read rest ih =>
    refine bind (tryCatch ?_ fun _ => pure _) ih
    exact bind (call _) fun _ => pure _

end KeepsOthers

/-- An engine between two runs has no snapshot. -/
def StorageWorker.Idle (w : StorageWorker) : Prop := ∀ id, w.verified id = none

/-- The `finally` of a run. -/
theorem finalState_evaluateSnapshot (analysis : Analysis α) :
    finalState (evaluateSnapshot env bucket snapshot analysis w) =
      (finalState (verifiedAnalysis env bucket snapshot analysis w)).release snapshot := by
  unfold evaluateSnapshot
  cases verifiedAnalysis env bucket snapshot analysis w with
  | ok a w' => rfl
  | error e w' => rfl

/-- **Between two runs.** However a run ends, it releases its snapshot. -/
theorem evaluateSnapshot_idle (env : StorageEnv) (bucket : String) (snapshot : SnapshotSpec)
    (analysis : Analysis α) (h : w.Idle) :
    (finalState (evaluateSnapshot env bucket snapshot analysis w)).Idle := by
  have h_keeps : KeepsOthers snapshot.snapshotId
      (verifiedAnalysis env bucket snapshot analysis) :=
    KeepsOthers.verifySnapshot.bind fun _ => (KeepsOthers.run analysis).bind fun _ =>
      KeepsOthers.verifySnapshot.bind fun _ => KeepsOthers.pure _
  rw [finalState_evaluateSnapshot]
  intro id
  by_cases h_id : id = snapshot.snapshotId
  · rw [h_id]
    exact Function.update_self ..
  · -- only the own snapshot was verified, and it is released
    exact (Function.update_of_ne h_id ..).trans ((h_keeps w id h_id).trans (h id))

/-- What an evaluation answers was computed from the registered content. -/
theorem evaluateSnapshot_ok {analysis : Analysis α} {a : α} (h_idle : w.Idle)
    (h : evaluateSnapshot env bucket snapshot analysis w = .ok a w') :
    ∃ b, ReadsRegistered env bucket snapshot analysis a b := by
  unfold evaluateSnapshot at h
  cases h_run : verifiedAnalysis env bucket snapshot analysis w with
  | error e w₁ =>
    rw [h_run] at h
    cases h
  | ok a' w₁ =>
    rw [h_run] at h
    cases h
    obtain ⟨-, b, h_reads, -⟩ := verifiedAnalysis_ok (h_idle _) h_run
    exact ⟨b, h_reads⟩

/-- **Registered bytes only.** Of the runs that a worker goes through, each one that is not aborted
has computed its result on the registered bytes of its snapshot. -/
theorem evaluateRuns_spec (env : StorageEnv) (bucket : String)
    (jobs : List (SnapshotSpec × Analysis α)) (w : StorageWorker) (h : w.Idle) :
    List.Forall₂ (fun job result => ∀ a, result = .ok a →
      ∃ b, ReadsRegistered env bucket job.1 job.2 a b) jobs (evaluateRuns env bucket jobs w) := by
  induction jobs generalizing w with
  | nil => exact .nil
  | cons job rest ih =>
    obtain ⟨snapshot, analysis⟩ := job
    -- the next run starts without what this one verified
    have h_next := evaluateSnapshot_idle env bucket snapshot analysis h
    unfold evaluateRuns
    cases h_run : evaluateSnapshot env bucket snapshot analysis w with
    | ok a w' =>
      rw [h_run] at h_next
      refine .cons ?_ (ih w' h_next)
      rintro _ ⟨⟩
      exact evaluateSnapshot_ok h h_run
    | error e w' =>
      rw [h_run] at h_next
      refine .cons ?_ (ih w' h_next)
      rintro _ ⟨⟩

section Stored

def storedId : Uuid := Uuid.repeated 0

def storedDescriptor (name : String) : PyDict :=
  [("bucket", .str "dq-snapshots"), ("key", .str (tenantPrefix storedId ++ name)),
    ("version_id", .str "v1"), ("content_sha256", .str (String.ofList (List.replicate 64 '0'))),
    ("size_bytes", .int 1)]

/-- A snapshot with one byte in each object. -/
def storedSnapshot : SnapshotSpec where
  snapshotId := storedId
  tenantId := storedId
  assetId := storedId
  sourceKind := "OBJECT_FILE"
  sourceDescriptor :=
    storedDescriptor "source.csv" ++
      [("canonical", .dict (storedDescriptor "canonical.parquet" ++ [("format", .str "PARQUET")]))]
  schemaDefinition := []
  totalRows := 1
  totalColumns := 1
  capturedAt := 0

def storedVersions : ObjectStore where
  versions _ := [("v1", some [7])]
  nodup _ := List.nodup_singleton _

def storedEnv : StorageEnv where
  history := { store := fun _ => storedVersions, grows := fun _ => .refl _ }
  diskFree _ := some 1
  sha256 b := String.ofList (List.replicate 64 (if b = [7] then '0' else 'f'))
  etag _ := "e"

/-- The run is not aborted, and what it read is registered. -/
theorem evaluateRuns_spec_stored :
    evaluateRuns storedEnv "dq-snapshots" [(storedSnapshot, .load (.read .result))] {} =
      [.ok (some [7])] ∧
    ∃ b, ReadsRegistered storedEnv "dq-snapshots" storedSnapshot (.load (.read .result)) (some [7])
      b := by
  have h_run : evaluateRuns storedEnv "dq-snapshots" [(storedSnapshot, .load (.read .result))] {} =
      [.ok (some [7])] := by
    decide +kernel
  have h_spec := evaluateRuns_spec storedEnv "dq-snapshots"
    [(storedSnapshot, .load (.read .result))] {} fun _ => rfl
  rw [h_run, List.forall₂_cons] at h_spec
  exact ⟨h_run, h_spec.1 _ rfl⟩

/-- Another writer replaces the canonical object. -/
def replacedAt (time : ℕ) : History (String × String) String Bytes where
  store n :=
    if n < time then storedVersions
    else storedVersions.put ("dq-snapshots", tenantPrefix storedId ++ "canonical.parquet") "v2"
      (some [8]) (by decide)
  grows n := by
    by_cases h : n + 1 < time
    · rw [if_pos h, if_pos (Nat.lt_of_succ_lt h)]
      exact .refl _
    · rw [if_neg h]
      split
      · apply VersionedStore.grows_put
      · exact .refl _

example :
    evaluateRuns { storedEnv with history := replacedAt 9 } "dq-snapshots"
        [(storedSnapshot, .load (.read .result))] {} =
      [.error (.runAborted "OBJECT_CHANGED: Snapshot object changed after registration.")] := by
  decide +kernel

end Stored

end DqScoring
