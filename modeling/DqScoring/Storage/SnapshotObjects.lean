import DqScoring.Common.PyValue
import DqScoring.Common.Uuid
import DqScoring.Framework.Slices
import DqScoring.Framework.Traverse
import DqScoring.Framework.VersionedStore
import Mathlib.Logic.Function.Basic

/-!
# Snapshot objects

`adapters/storage/snapshot_objects.py`: an object of a snapshot is read at the version that was
pinned at its registration, and what was read is compared with the registered digest and size. The
bucket keeps versions, and others may write to any key of it between two calls: a program is run
against a history of the bucket, and each of its calls finds the store of its time.

`spoolCanonical_spec` says what a scratch file holds afterwards. Masked exports and privacy scans
read nothing else.
-/

namespace DqScoring

open Framework

/-! ### The store -/

/-- `ObjectRef`. -/
structure ObjectRef where
  bucket : String
  key : String
  versionId : Option String := none
  deriving DecidableEq

/-- The bytes of an object or of a scratch file. -/
abbrev Bytes := List UInt8

/-- Objects by bucket and key. -/
abbrev ObjectStore := VersionedStore (String × String) String Bytes

/-- `ObjectMetadata`. -/
structure ObjectMetadata where
  sizeBytes : ℕ
  etag : String
  versionId : Option String

/-- The exceptions of programs that read objects. -/
inductive StorageFailure where
  | fileNotFound
  /-- An error of the client, the network or a disk. -/
  | osError
  | snapshotObject (code detail : String)
  | importInspection (code message : String)
  | runAborted (message : String)
  deriving DecidableEq

/-- What surrounds a worker: the store over time, and which calls fail. -/
structure StorageEnv where
  history : History (String × String) String Bytes
  outage : ℕ → Bool := fun _ => false
  /-- The free space that `disk_usage` reports. -/
  diskFree : ℕ → Option ℕ
  sha256 : Bytes → String
  etag : Bytes → String

/-- A worker: how many calls it has made, its scratch files, and the snapshots that its engine has
verified. -/
structure StorageWorker where
  clock : ℕ := 0
  files : String → Option Bytes := fun _ => none
  verified : Uuid → Option (ObjectRef × ObjectRef) := fun _ => none

abbrev StorageM := EStateM StorageFailure StorageWorker

/-- The worker after a call. -/
def StorageWorker.tick (w : StorageWorker) : StorageWorker := { w with clock := w.clock + 1 }

variable {α : Type}

/-- A call of the store. -/
def call (env : StorageEnv) (f : ObjectStore → Except StorageFailure α) : StorageM α := fun w =>
  if env.outage w.clock then .error .osError w.tick
  else
    match f (env.history.store w.clock) with
    | .ok a => .ok a w.tick
    | .error e => .error e w.tick

/-- The version that a reference leads to: the current one, if it has no id. -/
def ObjectRef.find (ref : ObjectRef) (s : ObjectStore) : Option (String × Bytes) :=
  -- an empty id counts as none
  match ref.versionId.filter (· ≠ "") with
  | none =>
    match s.current (ref.bucket, ref.key) with
    | some (v, some b) => some (v, b)
    | _ => none
  | some v => (s.content (ref.bucket, ref.key) v).map (Prod.mk v)

/-- `head`. -/
def headObject (env : StorageEnv) (ref : ObjectRef) (s : ObjectStore) :
    Except StorageFailure ObjectMetadata :=
  match ref.find s with
  | some (v, b) => .ok { sizeBytes := b.length, etag := env.etag b, versionId := some v }
  | none => .error .fileNotFound

/-- `open_stream`: the bytes of the version, which are then read in pieces. -/
def openStream (ref : ObjectRef) (s : ObjectStore) : Except StorageFailure Bytes :=
  match ref.find s with
  | some (_, b) => .ok b
  -- only a missing key counts as a missing file, a missing version does not
  | none => .error (if (ref.versionId.filter (· ≠ "")).isNone then .fileNotFound else .osError)

/-- `CHUNK_BYTES`. -/
def chunkBytes : ℕ := 1024 * 1024

/-- What `read` returns until it returns nothing. -/
def chunks (b : Bytes) : List Bytes :=
  (List.range' 1 ((b.length + chunkBytes - 1) / chunkBytes)).map (slice chunkBytes b)

/-- Bytes are appended to a scratch file; without one they go to the null device. -/
def appendFile (dest : Option String) (chunk : Bytes) : StorageM Unit :=
  modify fun w =>
    match dest with
    | none => w
    | some path =>
      { w with files := Function.update w.files path (some ((w.files path).getD [] ++ chunk)) }

/-- A scratch file is opened for writing. -/
def truncateFile (dest : Option String) : StorageM Unit :=
  modify fun w =>
    match dest with
    | none => w
    | some path => { w with files := Function.update w.files path (some []) }

/-- The loop over the pieces of a stream; what the hash was updated with is returned. -/
def copyChunks (env : StorageEnv) (dest : Option String) : List Bytes → Bytes → StorageM Bytes
  | [], hashed => do
    -- the read that returns nothing
    call env fun _ => .ok ()
    return hashed
  | chunk :: rest, hashed => do
    -- the read fails with the network, and the write with the disk
    call env fun _ => .ok ()
    appendFile dest chunk
    copyChunks env dest rest (hashed ++ chunk)

/-! ### Descriptors -/

/-- The text of a value that is a string. -/
def textOf (d : PyDict) (key : String) : String := ((d.get key).text?).getD ""

/-- The size in a descriptor; a truth value is an `int`. -/
def sizeBytes (d : PyDict) : Option ℤ :=
  match d.get "size_bytes" with
  | .int n => some n
  | .bool b => some (if b then 1 else 0)
  | _ => none

/-- `re.fullmatch(r"[a-f0-9]{64}", digest)`. -/
def isDigest (s : String) : Bool :=
  s.length == 64 && s.toList.all fun c => ('a' ≤ c && c ≤ 'f') || ('0' ≤ c && c ≤ '9')

/-- `canonical_descriptor`. -/
def canonicalDescriptor (sourceDescriptor : PyDict) : Except StorageFailure PyDict :=
  match sourceDescriptor.get "canonical" with
  | .dict canonical =>
    -- only Parquet is read
    if (PyDict.get canonical "format").text? = some "PARQUET" then .ok canonical
    else .error (.snapshotObject "SNAPSHOT_REIMPORT_REQUIRED"
      "Canonical Parquet descriptor is missing.")
  | _ => .error (.snapshotObject "SNAPSHOT_REIMPORT_REQUIRED"
      "Canonical Parquet descriptor is missing.")

/-- The prefix of the keys of a tenant. -/
def tenantPrefix (tenantId : Uuid) : String := "snapshots/" ++ tenantId.str ++ "/"

/-- The key has a part that a file system would resolve, or a character that keys do not have. -/
def isInvalidKey (key : String) : Bool :=
  ((key.toList.splitOn '/').any fun part => part == [] || part == ['.'] || part == ['.', '.']) ||
    key.toList.contains '\\' || key.toList.any fun c => decide (c.toNat < 32)

/-- `pinned_ref`. -/
def pinnedRef (tenantId : Uuid) (descriptor : PyDict) (snapshotBucket : String) :
    Except StorageFailure ObjectRef :=
  -- the bucket, the tenant, the key, the version, the digest and size
  if (descriptor.get "bucket").text? ≠ some snapshotBucket then
    .error (.snapshotObject "STORAGE_VIOLATION" "Snapshot bucket is not configured.")
  else if ¬ (descriptor.get "key").text?.any fun key =>
      (tenantPrefix tenantId).toList.isPrefixOf key.toList then
    .error (.snapshotObject "TENANT_ISOLATION_VIOLATION" "Snapshot is outside the tenant scope.")
  else if isInvalidKey (textOf descriptor "key") then
    .error (.snapshotObject "STORAGE_VIOLATION" "Invalid snapshot object key.")
  -- an object without a version could change unseen
  else if ¬ (descriptor.get "version_id").text?.any fun v => v ≠ "" ∧ v ≠ "null" then
    .error (.snapshotObject "SNAPSHOT_VERSIONING_REQUIRED" "Snapshot has no pinned version.")
  else if ¬ ((descriptor.get "content_sha256").text?.any isDigest ∧
      (sizeBytes descriptor).any fun size => decide (0 < size)) then
    .error (.snapshotObject "MALFORMED_IMPORT" "Invalid snapshot integrity metadata.")
  else
    .ok {
      bucket := snapshotBucket
      key := textOf descriptor "key"
      versionId := some (textOf descriptor "version_id") }

/-! ### Verification -/

/-- `_check_current`. -/
def checkCurrent (env : StorageEnv) (ref : ObjectRef) (size : Option ℤ) : StorageM Unit := do
  let current ← call env (headObject env { bucket := ref.bucket, key := ref.key })
  if current.versionId ≠ ref.versionId ∨ some (current.sizeBytes : ℤ) ≠ size then
    throw (.snapshotObject "OBJECT_CHANGED" "Snapshot object changed after registration.")

/-- What `verify_object` makes of an exception. -/
def asSnapshotError : StorageFailure → StorageFailure
  | .fileNotFound => .snapshotObject "RESOURCE_NOT_FOUND" "Snapshot object is missing."
  | .osError => .snapshotObject "STORAGE_UNAVAILABLE" "Snapshot storage cannot be verified."
  | e => e

/-- The part of `verify_object` that reads the object. -/
def verifyContent (env : StorageEnv) (ref : ObjectRef) (descriptor : PyDict)
    (spool : Option String) : StorageM Unit := do
  -- the stream is hashed while it is copied
  let stream ← call env (openStream ref)
  truncateFile spool
  let hashed ← copyChunks env spool (chunks stream) []
  -- what was read must have the digest and the size
  if env.sha256 hashed ≠ textOf descriptor "content_sha256" ∨
      some (hashed.length : ℤ) ≠ sizeBytes descriptor then
    throw (.snapshotObject "OBJECT_CHANGED" "Snapshot checksum mismatch.")
  else checkCurrent env ref (some hashed.length)

/-- `verify_object`. -/
def verifyObject (env : StorageEnv) (ref : ObjectRef) (descriptor : PyDict) (full : Bool)
    (spool : Option String) : StorageM Unit :=
  tryCatch (do
    checkCurrent env ref (sizeBytes descriptor)
    if full then verifyContent env ref descriptor spool)
    fun e => throw (asSnapshotError e)

/-- The free space of the scratch disk. -/
def diskFree (env : StorageEnv) : StorageM ℕ := fun w =>
  match env.diskFree w.clock with
  | some n => .ok n w.tick
  | none => .error .osError w.tick

/-- `unlink`. -/
def unlink (path : String) : StorageM Unit :=
  modify fun w => { w with files := Function.update w.files path none }

/-- The result of a function that reads nothing. -/
def ofExcept (x : Except StorageFailure α) : StorageM α := fun w =>
  match x with
  | .ok a => .ok a w
  | .error e => .error e w

/-- The part of `spool_canonical` that it cleans up after. -/
def spoolVerified (env : StorageEnv) (ref : ObjectRef) (descriptor : PyDict) (dest : String) :
    StorageM Unit := do
  let free ← diskFree env
  if (sizeBytes descriptor).any fun size => decide ((free : ℤ) < size) then
    throw (.snapshotObject "STORAGE_UNAVAILABLE" "Scratch storage is insufficient.")
  else verifyObject env ref descriptor true (some dest)

/-- `spool_canonical`. -/
def spoolCanonical (env : StorageEnv) (tenantId : Uuid) (sourceDescriptor : PyDict)
    (snapshotBucket dest : String) : StorageM Unit := do
  let descriptor ← ofExcept (canonicalDescriptor sourceDescriptor)
  let ref ← ofExcept (pinnedRef tenantId descriptor snapshotBucket)
  tryCatch (spoolVerified env ref descriptor dest) fun e => do
    unlink dest
    throw e

/-! ### One call -/

variable {env : StorageEnv} {w w' : StorageWorker}

@[simp] theorem StorageWorker.tick_clock (w : StorageWorker) : w.tick.clock = w.clock + 1 := rfl

@[simp] theorem StorageWorker.tick_files (w : StorageWorker) : w.tick.files = w.files := rfl

@[simp] theorem StorageWorker.tick_verified (w : StorageWorker) : w.tick.verified = w.verified :=
  rfl

/-- A call that succeeds saw the bucket at its own tick of the clock. -/
theorem call_ok {f : ObjectStore → Except StorageFailure α} {a : α}
    (h : call env f w = .ok a w') : f (env.history.store w.clock) = .ok a ∧ w' = w.tick := by
  unfold call at h
  by_cases h_outage : env.outage w.clock
  · rw [if_pos h_outage] at h
    cases h
  · rw [if_neg h_outage] at h
    cases h_f : f (env.history.store w.clock) with
    | error e =>
      rw [h_f] at h
      cases h
    | ok a' =>
      rw [h_f] at h
      cases h
      exact ⟨rfl, rfl⟩

/-- Without an outage a call answers what the bucket holds. -/
theorem call_of_ok {f : ObjectStore → Except StorageFailure α} {a : α}
    (h_outage : env.outage w.clock = false) (h : f (env.history.store w.clock) = .ok a) :
    call env f w = .ok a w.tick := by
  unfold call
  rw [if_neg (by rw [h_outage]; exact Bool.false_ne_true), h]

/-- A pure step that succeeds leaves the worker as it was. -/
theorem ofExcept_ok {x : Except StorageFailure α} {a : α} (h : ofExcept x w = .ok a w') :
    x = .ok a ∧ w' = w := by
  cases x with
  | error e => cases h
  | ok a' =>
    cases h
    exact ⟨rfl, rfl⟩

/-- A pure step that fails leaves the worker as it was. -/
theorem ofExcept_error {x : Except StorageFailure α} {e : StorageFailure}
    (h : ofExcept x w = .error e w') : x = .error e ∧ w' = w := by
  cases x with
  | error e' =>
    cases h
    exact ⟨rfl, rfl⟩
  | ok a => cases h

/-! ### The version of a reference -/

/-- At the time the pinned version is the current one of its key, and it holds the bytes. -/
def IsCurrent (env : StorageEnv) (ref : ObjectRef) (n : ℕ) (b : Bytes) : Prop :=
  ∃ v, ref.versionId = some v ∧
    (env.history.store n).current (ref.bucket, ref.key) = some (v, some b)

/-- The pinned version holds the bytes, current or not. -/
def VersionHolds (env : StorageEnv) (ref : ObjectRef) (n : ℕ) (b : Bytes) : Prop :=
  ∃ v, ref.versionId = some v ∧
    (env.history.store n).content (ref.bucket, ref.key) v = some b

variable {ref : ObjectRef} {m n : ℕ} {b b' : Bytes}

/-- The current version is a version that the bucket holds. -/
theorem IsCurrent.holds (h : IsCurrent env ref n b) : VersionHolds env ref n b := by
  obtain ⟨v, h_v, h_current⟩ := h
  exact ⟨v, h_v, VersionedStore.content_of_current h_current⟩

/-- A version that was written stays as it was written. -/
theorem VersionHolds.later (h : VersionHolds env ref m b) (h_le : m ≤ n) :
    VersionHolds env ref n b := by
  obtain ⟨v, h_v, h_content⟩ := h
  exact ⟨v, h_v, (env.history.grows_of_le h_le).content h_content⟩

/-- A version has one content. -/
theorem VersionHolds.unique (h : VersionHolds env ref m b) (h' : VersionHolds env ref n b') :
    b = b' := by
  -- both versions are there at the later time
  obtain ⟨v, h_v, h_b⟩ := h.later (Nat.le_max_left m n)
  obtain ⟨v', h_v', h_b'⟩ := h'.later (Nat.le_max_right m n)
  obtain rfl : v = v' := Option.some.inj (h_v.symm.trans h_v')
  exact Option.some.inj (h_b.symm.trans h_b')

/-- Between two times at which the pinned version is the current one it is so. -/
theorem IsCurrent.between {k : ℕ} (h : IsCurrent env ref m b) (h' : IsCurrent env ref n b')
    (h_m : m ≤ k) (h_n : k ≤ n) : IsCurrent env ref k b := by
  obtain ⟨v, h_v, h_current⟩ := h
  obtain ⟨v', h_v', h_current'⟩ := h'
  obtain rfl : v = v' := Option.some.inj (h_v.symm.trans h_v')
  exact ⟨v, h_v, (env.history.grows_of_le h_m).between (env.history.grows_of_le h_n)
    h_current h_current'⟩

/-- A reference that `pinned_ref` returns has a version. -/
def ObjectRef.IsPinned (ref : ObjectRef) : Prop :=
  ref.versionId.isSome ∧ ref.versionId ≠ some ""

/-- The version of such a reference is asked for. -/
theorem ObjectRef.IsPinned.filter (h : ref.IsPinned) {v : String} (h_v : ref.versionId = some v) :
    ref.versionId.filter (fun v => decide (v ≠ "")) = some v := by
  have h_ne : v ≠ "" := fun h_empty => h.2 (by rw [h_v, h_empty])
  rw [h_v, Option.filter_some, if_pos (decide_eq_true h_ne)]

/-- A reader without a version finds the current one. -/
theorem openStream_current (h : IsCurrent env ref n b) :
    openStream { bucket := ref.bucket, key := ref.key } (env.history.store n) = .ok b := by
  obtain ⟨v, -, h_current⟩ := h
  simp only [openStream, ObjectRef.find, Option.filter_none, h_current]

/-- Opening a pinned object streams the pinned version, whatever is current. -/
theorem openStream_ok (h_ref : ref.IsPinned)
    (h : openStream ref (env.history.store n) = .ok b) : VersionHolds env ref n b := by
  obtain ⟨v, h_v⟩ := Option.isSome_iff_exists.mp h_ref.1
  refine ⟨v, h_v, ?_⟩
  simp only [openStream, ObjectRef.find, h_ref.filter h_v] at h
  cases h_content : (env.history.store n).content (ref.bucket, ref.key) v with
  | none =>
    rw [h_content] at h
    cases h
  | some b₁ =>
    rw [h_content] at h
    cases h
    rfl

/-! ### Streams -/

/-- The chunks of a stream make up its bytes. -/
theorem flatten_chunks (b : Bytes) : (chunks b).flatten = b := by
  unfold chunks
  rw [← List.flatMap_def]
  apply flatMap_slice_of_le
  show b.length ≤ (b.length + 1048576 - 1) / 1048576 * 1048576
  omega

/-- The worker after bytes were written to a scratch file. -/
def StorageWorker.Wrote (dest : Option String) (b : Bytes) (w w' : StorageWorker) : Prop :=
  w'.verified = w.verified ∧
    match dest with
    | none => w'.files = w.files
    | some path => w'.files = Function.update w.files path (some b)

/-- The spool file starts empty. -/
theorem truncateFile_ok {dest : Option String} {u : Unit} (h : truncateFile dest w = .ok u w') :
    w'.clock = w.clock ∧ StorageWorker.Wrote dest [] w w' := by
  cases dest with
  | none =>
    cases h
    exact ⟨rfl, rfl, rfl⟩
  | some path =>
    cases h
    exact ⟨rfl, rfl, rfl⟩

/-- A chunk is appended to what was spooled so far. -/
theorem appendFile_ok {dest : Option String} {written chunk : Bytes} {w₀ : StorageWorker}
    {u : Unit} (h_written : StorageWorker.Wrote dest written w₀ w)
    (h : appendFile dest chunk w = .ok u w') :
    w'.clock = w.clock ∧ StorageWorker.Wrote dest (written ++ chunk) w₀ w' := by
  cases dest with
  | none =>
    cases h
    exact ⟨rfl, h_written⟩
  | some path =>
    cases h
    obtain ⟨h_verified, h_files⟩ := h_written
    refine ⟨rfl, h_verified, ?_⟩
    show Function.update w.files path _ = _
    rw [h_files, Function.update_idem, Function.update_self]
    rfl

/-- A stream that is read to its end was hashed and written as a whole. -/
theorem copyChunks_ok {dest : Option String} {pieces : List Bytes} {hashed : Bytes}
    {w₀ : StorageWorker} (h_written : StorageWorker.Wrote dest hashed w₀ w)
    (h : copyChunks env dest pieces hashed w = .ok b w') :
    b = hashed ++ pieces.flatten ∧ w.clock ≤ w'.clock ∧ StorageWorker.Wrote dest b w₀ w' := by
  induction pieces generalizing hashed w with
  | nil =>
    -- the call that finds the end of the stream
    obtain ⟨_, w₁, h_call, h_rest⟩ := run_of_bind h
    obtain ⟨-, rfl⟩ := call_ok h_call
    cases h_rest
    exact ⟨(List.append_nil _).symm, Nat.le_succ _, h_written⟩
  | cons chunk rest ih =>
    obtain ⟨_, w₁, h_call, h_rest⟩ := run_of_bind h
    obtain ⟨-, rfl⟩ := call_ok h_call
    obtain ⟨_, w₂, h_append, h_rest⟩ := run_of_bind h_rest
    obtain ⟨h_clock, h_written'⟩ := appendFile_ok (w := w.tick) h_written h_append
    obtain ⟨h_b, h_le, h_wrote⟩ := ih h_written' h_rest
    refine ⟨?_, ?_, h_wrote⟩
    · rw [h_b, List.append_assoc, List.flatten_cons]
    · rw [h_clock] at h_le
      exact (Nat.le_succ _).trans h_le

/-! ### Verified objects -/

/-- A head request that passes saw the pinned version as the current one, with its size. -/
theorem checkCurrent_ok {size : Option ℤ} {u : Unit} (h : checkCurrent env ref size w = .ok u w')
    (h_some : ref.versionId.isSome) :
    w' = w.tick ∧ ∃ b, IsCurrent env ref w.clock b ∧ size = some (b.length : ℤ) := by
  obtain ⟨v, h_v⟩ := Option.isSome_iff_exists.mp h_some
  obtain ⟨metadata, w₁, h_head, h_rest⟩ := run_of_bind h
  obtain ⟨h_meta, rfl⟩ := call_ok h_head
  simp only [headObject, ObjectRef.find, Option.filter_none] at h_meta
  split at h_rest
  · cases h_rest
  next h_fits =>
    cases h_rest
    refine ⟨rfl, ?_⟩
    rw [not_or, Decidable.not_not, Decidable.not_not] at h_fits
    cases h_current : (env.history.store w.clock).current (ref.bucket, ref.key) with
    | none =>
      rw [h_current] at h_meta
      cases h_meta
    | some entry =>
      obtain ⟨v', content⟩ := entry
      cases content with
      | none =>
        -- a delete marker is current
        rw [h_current] at h_meta
        cases h_meta
      | some b =>
        rw [h_current] at h_meta
        cases h_meta
        exact ⟨b, ⟨v', h_fits.1.symm, h_current⟩, h_fits.2.symm⟩

/-- The bytes have the digest and the size of a descriptor. -/
def Fits (env : StorageEnv) (descriptor : PyDict) (b : Bytes) : Prop :=
  env.sha256 b = textOf descriptor "content_sha256" ∧
    sizeBytes descriptor = some (b.length : ℤ)

variable {descriptor : PyDict} {spool : Option String} {full : Bool}

/-- A verification that passes read one version from end to end, and found it current
afterwards. -/
theorem verifyContent_ok (h_ref : ref.IsPinned) {u : Unit}
    (h : verifyContent env ref descriptor spool w = .ok u w') :
    ∃ b t, VersionHolds env ref w.clock b ∧ w.clock ≤ t ∧ w'.clock = t + 1 ∧ IsCurrent env ref t b ∧
      Fits env descriptor b ∧ StorageWorker.Wrote spool b w w' := by
  obtain ⟨stream, w₁, h_open, h_write⟩ := run_of_bind h
  obtain ⟨h_stream, rfl⟩ := call_ok h_open
  obtain ⟨_, w₂, h_truncate, h_read⟩ := run_of_bind h_write
  obtain ⟨h_clock, h_empty⟩ := truncateFile_ok h_truncate
  obtain ⟨hashed, w₃, h_copy, h_rest⟩ := run_of_bind h_read
  obtain ⟨h_hashed, h_le, h_wrote⟩ := copyChunks_ok h_empty h_copy
  rw [List.nil_append, flatten_chunks] at h_hashed
  subst h_hashed
  split at h_rest
  · cases h_rest
  next h_fits =>
    rw [not_or, Decidable.not_not, Decidable.not_not] at h_fits
    obtain ⟨h_last, b, h_current, h_length⟩ := checkCurrent_ok h_rest h_ref.1
    subst h_last
    -- the current version is the one that was read
    have h_holds := openStream_ok h_ref h_stream
    obtain rfl : hashed = b := h_holds.unique h_current.holds
    rw [h_clock, StorageWorker.tick_clock] at h_le
    exact ⟨hashed, w₃.clock, h_holds, (Nat.le_succ _).trans h_le, rfl, h_current,
      ⟨h_fits.1, h_fits.2.symm⟩, h_wrote⟩

/-- **Verified objects.** All the time of the check the pinned version was the current one, and
with a full check its content is what the descriptor says and what was spooled. -/
theorem verifyObject_ok (h_ref : ref.IsPinned) {u : Unit}
    (h : verifyObject env ref descriptor full spool w = .ok u w') :
    w.clock < w'.clock ∧ ∃ b, (∀ n, w.clock ≤ n → n < w'.clock → IsCurrent env ref n b) ∧
      sizeBytes descriptor = some (b.length : ℤ) ∧
      (full = true → Fits env descriptor b ∧ StorageWorker.Wrote spool b w w') ∧
      (full = false → StorageWorker.Wrote none b w w') := by
  obtain ⟨_, w₁, h_check, h_rest⟩ := run_of_bind (run_of_rethrow h)
  obtain ⟨rfl, b, h_first, h_size⟩ := checkCurrent_ok h_check h_ref.1
  cases full with
  | false =>
    cases h_rest
    refine ⟨Nat.lt_succ_self _, b, ?_, h_size, ⟨fun h_full => ?_, fun _ => ⟨rfl, rfl⟩⟩⟩
    · intro n h_le h_lt
      obtain rfl : n = w.clock := Nat.le_antisymm (Nat.le_of_lt_succ h_lt) h_le
      exact h_first
    · cases h_full
  | true =>
    -- between the first look at the current version and the last one nothing else was current
    obtain ⟨b', t, h_holds, h_le, h_clock, h_last, h_fits, h_wrote⟩ :=
      verifyContent_ok h_ref h_rest
    obtain rfl : b = b' := h_first.holds.unique h_holds
    rw [StorageWorker.tick_clock] at h_le
    refine ⟨by omega, b, ?_, h_size, ⟨fun _ => ⟨h_fits, h_wrote⟩, fun h_full => ?_⟩⟩
    · intro n h_n h_lt
      exact h_first.between h_last h_n (by omega)
    · cases h_full

/-! ### References -/

/-- The canonical descriptor is the one of a Parquet file. -/
theorem canonicalDescriptor_ok {source : PyDict} (h : canonicalDescriptor source = .ok descriptor) :
    source.get "canonical" = .dict descriptor ∧
      (descriptor.get "format").text? = some "PARQUET" := by
  unfold canonicalDescriptor at h
  split at h
  next canonical h_canonical =>
    split at h
    next h_format =>
      cases h
      exact ⟨h_canonical, h_format⟩
    · cases h
  · cases h

variable {tenantId : Uuid} {bucket : String}

/-- **References.** A reference that is accepted names a version of an object of the tenant in the
bucket of the snapshots, and its descriptor a digest and a size. -/
theorem pinnedRef_ok (h : pinnedRef tenantId descriptor bucket = .ok ref) :
    ref.bucket = bucket ∧ (tenantPrefix tenantId).toList <+: ref.key.toList ∧
      isInvalidKey ref.key = false ∧ ref.IsPinned ∧
      isDigest (textOf descriptor "content_sha256") = true ∧
      ∃ size, sizeBytes descriptor = some size ∧ 0 < size := by
  unfold pinnedRef at h
  -- each check that passed is a fact about the descriptor
  split at h
  · cases h
  split at h
  · cases h
  next h_tenant =>
  split at h
  · cases h
  next h_key =>
  split at h
  · cases h
  next h_version =>
  split at h
  · cases h
  next h_integrity =>
  cases h
  rw [Decidable.not_not] at h_tenant h_version h_integrity
  -- the key is under the prefix of the tenant
  obtain ⟨key, h_text, h_under⟩ := (Option.any_eq_true _ _).mp h_tenant
  obtain ⟨version, h_id, h_some⟩ := (Option.any_eq_true _ _).mp h_version
  obtain ⟨h_digest, h_size⟩ := h_integrity
  obtain ⟨digest, h_sha, h_is⟩ := (Option.any_eq_true _ _).mp h_digest
  obtain ⟨size, h_bytes, h_pos⟩ := (Option.any_eq_true _ _).mp h_size
  -- the bucket, the key, its version, the digest and the size
  refine ⟨rfl, ?_, Bool.eq_false_iff.mpr h_key, ⟨rfl, ?_⟩, ?_, size, h_bytes,
    of_decide_eq_true h_pos⟩
  · show _ <+: (textOf descriptor "key").toList
    unfold textOf
    rw [h_text]
    exact List.isPrefixOf_iff_prefix.mp h_under
  · intro h_empty
    have h_ne := (of_decide_eq_true h_some).1
    refine h_ne ?_
    have h_text' : textOf descriptor "version_id" = "" := Option.some.inj h_empty
    unfold textOf at h_text'
    rw [h_id] at h_text'
    exact h_text'
  · unfold textOf
    rw [h_sha]
    exact h_is

/-- The location that a reference is about. -/
theorem pinnedRef_location (h : pinnedRef tenantId descriptor bucket = .ok ref) :
    ref.bucket = textOf descriptor "bucket" ∧ ref.key = textOf descriptor "key" := by
  unfold pinnedRef at h
  split at h
  · cases h
  next h_bucket =>
    rw [Decidable.not_not] at h_bucket
    iterate 4
      split at h
      · cases h
    cases h
    unfold textOf
    rw [h_bucket]
    exact ⟨rfl, rfl⟩

/-! ### Scratch files -/

/-- The free space is read at one tick of the clock. -/
theorem diskFree_ok {free : ℕ} (h : diskFree env w = .ok free w') :
    env.diskFree w.clock = some free ∧ w' = w.tick := by
  unfold diskFree at h
  cases h_free : env.diskFree w.clock with
  | none =>
    rw [h_free] at h
    cases h
  | some n =>
    rw [h_free] at h
    cases h
    exact ⟨rfl, rfl⟩

variable {sourceDescriptor : PyDict} {dest : String}

/-- A spooled object is the registered content, and the pinned version was current from the
first check to the last. -/
theorem spoolVerified_ok (h_ref : ref.IsPinned) {u : Unit}
    (h : spoolVerified env ref descriptor dest w = .ok u w') :
    ∃ b, Fits env descriptor b ∧ w'.files = Function.update w.files dest (some b) ∧
      w.clock + 1 < w'.clock ∧ ∀ n, w.clock < n → n < w'.clock → IsCurrent env ref n b := by
  obtain ⟨free, w₁, h_free, h_rest⟩ := run_of_bind h
  obtain ⟨-, rfl⟩ := diskFree_ok h_free
  split at h_rest
  · cases h_rest
  · obtain ⟨h_lt, b, h_current, -, h_full, -⟩ := verifyObject_ok h_ref h_rest
    obtain ⟨h_fits, -, h_files⟩ := h_full rfl
    exact ⟨b, h_fits, h_files, h_lt, fun n h_n => h_current n h_n⟩

/-- **Scratch files.** A scratch file that a reader gets holds the registered bytes of the
tenant's snapshot, and they were the current ones all the while; a reader that gets an error finds
no scratch file, unless the descriptor was refused before anything was read. -/
theorem spoolCanonical_spec (env : StorageEnv) (tenantId : Uuid) (sourceDescriptor : PyDict)
    (bucket dest : String) (w w' : StorageWorker) :
    (spoolCanonical env tenantId sourceDescriptor bucket dest w = .ok () w' →
      ∃ descriptor ref b, sourceDescriptor.get "canonical" = .dict descriptor ∧
        pinnedRef tenantId descriptor bucket = .ok ref ∧ b ≠ [] ∧ Fits env descriptor b ∧
        w'.files = Function.update w.files dest (some b) ∧
        ∀ n, w.clock < n → n < w'.clock → IsCurrent env ref n b) ∧
    ∀ e, spoolCanonical env tenantId sourceDescriptor bucket dest w = .error e w' →
      w'.files dest = none ∨ w' = w := by
  constructor
  · intro h
    obtain ⟨descriptor, w₁, h_descriptor, h_rest⟩ := run_of_bind h
    obtain ⟨h_canonical, rfl⟩ := ofExcept_ok h_descriptor
    obtain ⟨ref, w₂, h_ref, h_try⟩ := run_of_bind h_rest
    obtain ⟨h_pinned, rfl⟩ := ofExcept_ok h_ref
    -- the handler raises again, so the body was run to its end
    have h_run : spoolVerified env ref descriptor dest w₂ = .ok () w' := by
      refine run_of_tryCatch ?_ h_try
      intro e w₁ w₂ h_throw
      cases h_throw
    obtain ⟨-, -, -, h_isPinned, -, size, h_size, h_pos⟩ := pinnedRef_ok h_pinned
    obtain ⟨b, h_fits, h_files, -, h_current⟩ := spoolVerified_ok h_isPinned h_run
    refine ⟨descriptor, ref, b, (canonicalDescriptor_ok h_canonical).1, h_pinned, ?_, h_fits,
      h_files, h_current⟩
    -- the registered size is not zero
    rintro rfl
    rw [h_fits.2] at h_size
    cases h_size
    exact absurd h_pos (by decide)
  · intro e h
    rcases raised_of_bind h with h_descriptor | ⟨descriptor, w₁, h_descriptor, h_rest⟩
    · exact Or.inr (ofExcept_error h_descriptor).2
    · obtain ⟨-, rfl⟩ := ofExcept_ok h_descriptor
      rcases raised_of_bind h_rest with h_ref | ⟨ref, w₂, h_ref, h_try⟩
      · exact Or.inr (ofExcept_error h_ref).2
      · obtain ⟨-, rfl⟩ := ofExcept_ok h_ref
        obtain ⟨e₁, w₃, -, h_handler⟩ := raised_of_tryCatch h_try
        -- the handler removes the file
        cases h_handler
        exact Or.inl (Function.update_self ..)

/-! ### A bucket that is left alone -/

/-- From a time on no call fails, the disk has space for a number of bytes, and the pinned version
stays the current one. -/
structure Undisturbed (env : StorageEnv) (ref : ObjectRef) (b : Bytes) (start : ℕ) : Prop where
  noOutage : ∀ n, start ≤ n → env.outage n = false
  space : ∀ n, start ≤ n → ∃ free, env.diskFree n = some free ∧ b.length ≤ free
  current : ∀ n, start ≤ n → IsCurrent env ref n b

/-- An undisturbed object stays undisturbed. -/
theorem Undisturbed.later (h : Undisturbed env ref b m) (h_le : m ≤ n) :
    Undisturbed env ref b n where
  noOutage k h_k := h.noOutage k (h_le.trans h_k)
  space k h_k := h.space k (h_le.trans h_k)
  current k h_k := h.current k (h_le.trans h_k)

/-- The head request passes while the registered version is current. -/
theorem checkCurrent_of_isCurrent (h_outage : env.outage w.clock = false)
    (h : IsCurrent env ref w.clock b) :
    checkCurrent env ref (some (b.length : ℤ)) w = .ok () w.tick := by
  obtain ⟨v, h_v, h_current⟩ := h
  have h_head : headObject env { bucket := ref.bucket, key := ref.key }
      (env.history.store w.clock) =
      .ok { sizeBytes := b.length, etag := env.etag b, versionId := some v } := by
    simp only [headObject, ObjectRef.find, Option.filter_none, h_current]
  unfold checkCurrent
  rw [bind_of_run (call_of_ok h_outage h_head)]
  dsimp only
  rw [if_neg (by rw [h_v]; simp)]
  rfl

/-- The pinned version can be streamed as long as the bucket holds it. -/
theorem openStream_of_holds (h_ref : ref.IsPinned) (h : VersionHolds env ref n b) :
    openStream ref (env.history.store n) = .ok b := by
  obtain ⟨v, h_v, h_content⟩ := h
  simp only [openStream, ObjectRef.find, h_ref.filter h_v, h_content, Option.map_some]

/-- Without an outage all chunks are copied and hashed; the induction is on the chunks. -/
theorem copyChunks_of_noOutage (dest : Option String) (pieces : List Bytes) (hashed : Bytes)
    (h : ∀ n, w.clock ≤ n → env.outage n = false) :
    ∃ w', copyChunks env dest pieces hashed w = .ok (hashed ++ pieces.flatten) w' ∧
      w.clock ≤ w'.clock := by
  have h_call : call env (fun _ => .ok ()) w = .ok () w.tick :=
    call_of_ok (h _ (Nat.le_refl _)) rfl
  induction pieces generalizing hashed w with
  | nil =>
    refine ⟨w.tick, ?_, Nat.le_succ _⟩
    unfold copyChunks
    rw [bind_of_run h_call, List.flatten_nil, List.append_nil]
    rfl
  | cons chunk rest ih =>
    obtain ⟨w₁, h_append⟩ : ∃ w₁, appendFile dest chunk w.tick = .ok () w₁ := ⟨_, rfl⟩
    have h_clock : w₁.clock = w.clock + 1 := by
      cases dest <;> cases h_append <;> rfl
    have h_rest : ∀ n, w₁.clock ≤ n → env.outage n = false := by
      intro n h_n
      exact h n (by omega)
    obtain ⟨w', h_run, h_le⟩ := ih (hashed ++ chunk) h_rest
      (call_of_ok (h_rest _ (Nat.le_refl _)) rfl)
    refine ⟨w', ?_, by omega⟩
    unfold copyChunks
    rw [bind_of_run h_call, bind_of_run h_append, h_run, List.append_assoc, List.flatten_cons]

/-- An undisturbed object that fits its descriptor is verified. -/
theorem verifyObject_of_undisturbed (full : Bool) (spool : Option String) (h_ref : ref.IsPinned)
    (h_fits : Fits env descriptor b) (h : Undisturbed env ref b w.clock) :
    ∃ w', verifyObject env ref descriptor full spool w = .ok () w' ∧ w.clock ≤ w'.clock := by
  have h_first : checkCurrent env ref (sizeBytes descriptor) w = .ok () w.tick := by
    rw [h_fits.2]
    exact checkCurrent_of_isCurrent (h.noOutage _ (Nat.le_refl _)) (h.current _ (Nat.le_refl _))
  cases full with
  | false =>
    -- one call, and no look at the content
    refine ⟨w.tick, ?_, Nat.le_succ _⟩
    apply tryCatch_of_run
    rw [bind_of_run h_first]
    rfl
  | true =>
    have h_later := h.later (Nat.le_succ w.clock)
    have h_open : call env (openStream ref) w.tick = .ok b w.tick.tick :=
      call_of_ok (h_later.noOutage _ (Nat.le_refl _))
        (openStream_of_holds h_ref (h_later.current _ (Nat.le_refl _)).holds)
    obtain ⟨w₁, h_truncate⟩ : ∃ w₁, truncateFile spool w.tick.tick = .ok () w₁ := ⟨_, rfl⟩
    have h_clock := (truncateFile_ok h_truncate).1
    rw [StorageWorker.tick_clock, StorageWorker.tick_clock] at h_clock
    obtain ⟨w₂, h_copy, h_le⟩ := copyChunks_of_noOutage (w := w₁) spool (chunks b) []
      fun n h_n => h.noOutage n (by omega)
    rw [List.nil_append, flatten_chunks] at h_copy
    have h_end := h.later (n := w₂.clock) (by omega)
    have h_last := checkCurrent_of_isCurrent (h_end.noOutage _ (Nat.le_refl _))
      (h_end.current _ (Nat.le_refl _))
    refine ⟨w₂.tick, ?_, by rw [StorageWorker.tick_clock]; omega⟩
    apply tryCatch_of_run
    rw [bind_of_run h_first]
    show verifyContent env ref descriptor spool w.tick = _
    unfold verifyContent
    rw [bind_of_run h_open, bind_of_run h_truncate, bind_of_run h_copy,
      if_neg (not_or.mpr ⟨not_not.mpr h_fits.1, not_not.mpr h_fits.2.symm⟩)]
    exact h_last

/-- **No false alarm.** A snapshot in a bucket that is left alone is spooled. -/
theorem spoolCanonical_of_undisturbed {b : Bytes}
    (h_canonical : canonicalDescriptor sourceDescriptor = .ok descriptor)
    (h_pinned : pinnedRef tenantId descriptor bucket = .ok ref)
    (h_fits : Fits env descriptor b) (h : Undisturbed env ref b w.clock) :
    ∃ w', spoolCanonical env tenantId sourceDescriptor bucket dest w = .ok () w' ∧
      w'.files dest = some b := by
  obtain ⟨-, -, -, h_ref, -⟩ := pinnedRef_ok h_pinned
  obtain ⟨free, h_free, h_enough⟩ := h.space _ (Nat.le_refl _)
  obtain ⟨w', h_verify, -⟩ := verifyObject_of_undisturbed (w := w.tick) true (some dest)
    h_ref h_fits (h.later (Nat.le_succ _))
  have h_run : spoolVerified env ref descriptor dest w = .ok () w' := by
    have h_disk : diskFree env w = .ok free w.tick := by
      unfold diskFree
      rw [h_free]
    unfold spoolVerified
    rw [bind_of_run h_disk, if_neg]
    · exact h_verify
    · rw [h_fits.2, Option.any_some, decide_eq_true_eq]
      omega
  refine ⟨w', ?_, ?_⟩
  · unfold spoolCanonical
    have h_descriptor : ofExcept (canonicalDescriptor sourceDescriptor) w = .ok descriptor w := by
      rw [h_canonical]
      rfl
    have h_reference : ofExcept (pinnedRef tenantId descriptor bucket) w = .ok ref w := by
      rw [h_pinned]
      rfl
    rw [bind_of_run h_descriptor, bind_of_run h_reference]
    exact tryCatch_of_run h_run
  · -- what was spooled was current, and so are the registered bytes
    obtain ⟨b', -, h_files, h_lt, h_current⟩ := spoolVerified_ok h_ref h_run
    have h_same := (h_current _ (Nat.lt_succ_self _) h_lt).holds.unique
      (h.current _ (Nat.le_succ _)).holds
    rw [h_files, h_same]
    exact Function.update_self ..

end DqScoring
