import DqScoring.Framework.Slices
import DqScoring.Framework.Transition
import Mathlib.Algebra.Order.Group.Nat
import Mathlib.Data.List.Dedup
import Mathlib.Data.List.Sort

/-!
# The transfer of a file

`transfer` of `ImportWizard.tsx`: two senders take the parts of the file from one counter, each
awaits the answer to its part, and the upload is completed once both have finished. What the client
knows of the session is the last response it has fetched, which may be an old one; a transfer that
fails is resumed by another, in the same tab or in another one.

A request that was sent may reach the server at any later time, more than once or never, also when
its transfer has been given up. The server keeps the first content of a part (`upload_part`).

Within a transfer each missing part is sent once, in ascending order, whatever the senders do
(`transfer_sends_missing`). What the object store puts together from the parts is the file, provided
that the same file is selected each time (`object_eq_file`): the client compares names and sizes
only. The store is a parameter that concatenates the parts it is given.
-/

namespace DqScoring

open Framework

/-! ### The session and the file -/

/-- The fields of an `ImportSession` that the transfer reads. -/
structure ImportSession where
  partSize : ℕ
  partCount : ℕ
  sizeBytes : ℕ
  originalFilename : String
  completedParts : List ℕ

/-- A file that the user selects; `β` are its bytes. -/
structure LocalFile (β : Type) where
  name : String
  content : List β

/-- The bytes of some parts: `Math.min(part_size, size_bytes - (part - 1) * part_size)` of each. -/
def ImportSession.bytesOf (session : ImportSession) (parts : List ℕ) : ℕ :=
  (parts.map (sliceLength session.partSize session.sizeBytes)).sum

variable {β ι : Type}

/-! ### The server -/

/-- The object store, as far as it puts the parts of an upload together. -/
structure MultipartStore (β : Type) where
  /-- The object that `complete_multipart_upload` makes of the parts that are named. -/
  completeMultipart : List (ℕ × List β) → List β
  /-- The store concatenates parts that are named in ascending order. -/
  completeMultipart_eq : ∀ parts, (parts.map (·.1)).Pairwise (· < ·) →
    completeMultipart parts = parts.flatMap (·.2)

/-- An upload session on the server: the parts in the order they were recorded, and the object they
were put together to. -/
structure UploadServer (β : Type) where
  partBytes : ℕ
  sizeBytes : ℕ
  filename : String
  parts : List (ℕ × List β) := []
  object : Option (List β) := none

namespace UploadServer

variable (server : UploadServer β)

def partCount : ℕ := max 1 ((server.sizeBytes + server.partBytes - 1) / server.partBytes)

/-- The recorded content of a part. -/
def part (n : ℕ) : Option (List β) := (server.parts.find? fun p => p.1 = n).map (·.2)

/-- `_build_session_response` -/
def response : ImportSession where
  partSize := server.partBytes
  partCount := server.partCount
  sizeBytes := server.sizeBytes
  originalFilename := server.filename
  completedParts := (server.parts.map (·.1)).insertionSort (· ≤ ·)

/-- `upload_part`: a part in range, of the length that is its due, is recorded once. -/
def receive (n : ℕ) (content : List β) : UploadServer β :=
  if server.object.isSome then server
  else if n < 1 ∨ server.partCount < n then server
  else if content.length ≠ sliceLength server.partBytes server.sizeBytes n then server
  else if (server.part n).isSome then server
  else { server with parts := server.parts ++ [(n, content)] }

/-- The parts that `S3ObjectStoreAdapter.complete_multipart` names, sorted by their numbers. -/
def namedParts : List (ℕ × List β) :=
  (List.range' 1 server.partCount).map fun n => (n, (server.part n).getD [])

/-- `complete_import`, with the parts that the client has read back. -/
def complete (store : MultipartStore β) : UploadServer β :=
  let numbers := List.range' 1 server.partCount
  if server.object.isSome ∨ ¬ ∀ n ∈ numbers, (server.part n).isSome = true then server
  else { server with object := some (store.completeMultipart server.namedParts) }

end UploadServer

/-! ### The client -/

/-- One of the two `send()`. -/
inductive Sender where
  /-- At the head of its loop. -/
  | running
  /-- `await uploadPart` -/
  | awaiting (part : ℕ)
  | finished
  /-- `uploadPart` has thrown. -/
  | failed (part : ℕ)
  deriving DecidableEq

/-- A call of `transfer`; `sent` are the parts it has sent so far. -/
structure Transfer (β : Type) where
  session : ImportSession
  file : LocalFile β
  next : ℕ := 1
  bytes : ℕ
  senders : Bool → Sender := fun _ => .running
  sent : List ℕ := []

/-- The call begins: the bytes of the parts that are completed are counted. -/
def beginTransfer (session : ImportSession) (file : LocalFile β) : Option (Transfer β) :=
  if file.content.length ≠ session.sizeBytes ∨ file.name ≠ session.originalFilename then none
  else some { session, file, bytes := session.bytesOf session.completedParts.dedup }

namespace Transfer

variable (t : Transfer β)

def withSender (i : Bool) (sender : Sender) : Transfer β :=
  { t with senders := Function.update t.senders i sender }

/-- The head of the loop: the part that is taken, if any, is sent unless it is completed. -/
def loop (i : Bool) : Transfer β :=
  if t.next ≤ t.session.partCount then
    let taken := { t with next := t.next + 1 }
    if t.next ∈ t.session.completedParts then taken
    else { taken.withSender i (.awaiting t.next) with sent := t.sent ++ [t.next] }
  else t.withSender i .finished

/-- What the loop sends: `selected.slice((part - 1) * part_size, part * part_size)`. -/
def request? : Option (ℕ × List β) :=
  if t.next ≤ t.session.partCount ∧ t.next ∉ t.session.completedParts then
    some (t.next, slice t.session.partSize t.file.content t.next)
  else none

/-- `uploadPart` has returned. -/
def answered (i : Bool) (n : ℕ) : Transfer β :=
  { t.withSender i .running with
    bytes := t.bytes + (slice t.session.partSize t.file.content n).length }

end Transfer

/-! ### Runs -/

/-- A session on the server with its clients: what each has fetched and is transferring, and all the
requests that were ever sent. -/
structure UploadState (ι β : Type) where
  server : UploadServer β
  fetched : ι → ImportSession
  transfers : ι → Option (Transfer β) := fun _ => none
  requests : List (ℕ × List β) := []

/-- One step of a client, of the network or of the server. -/
inductive UploadStep [DecidableEq ι] (store : MultipartStore β)
    (selectable : LocalFile β → Prop) : UploadState ι β → UploadState ι β → Prop
  | fetch {s : UploadState ι β} (c : ι) :
      UploadStep store selectable s
        { s with fetched := Function.update s.fetched c s.server.response }
  | start {s : UploadState ι β} {c : ι} {file : LocalFile β} {t : Transfer β}
      (h_idle : s.transfers c = none) (h_file : selectable file)
      (h_begin : beginTransfer (s.fetched c) file = some t) :
      UploadStep store selectable s { s with transfers := Function.update s.transfers c (some t) }
  | loop {s : UploadState ι β} {c : ι} {i : Bool} {t : Transfer β}
      (h_transfer : s.transfers c = some t) (h_sender : t.senders i = .running) :
      UploadStep store selectable s
        { s with
          transfers := Function.update s.transfers c (some (t.loop i))
          requests := s.requests ++ t.request?.toList }
  | arrive {s : UploadState ι β} {r : ℕ × List β} (h_request : r ∈ s.requests) :
      UploadStep store selectable s { s with server := s.server.receive r.1 r.2 }
  | answered {s : UploadState ι β} {c : ι} {i : Bool} {t : Transfer β} {n : ℕ}
      (h_transfer : s.transfers c = some t) (h_sender : t.senders i = .awaiting n)
      (h_recorded : (s.server.part n).isSome = true) :
      UploadStep store selectable s
        { s with transfers := Function.update s.transfers c (some (t.answered i n)) }
  | fails {s : UploadState ι β} {c : ι} {i : Bool} {t : Transfer β} {n : ℕ}
      (h_transfer : s.transfers c = some t) (h_sender : t.senders i = .awaiting n) :
      UploadStep store selectable s
        { s with transfers := Function.update s.transfers c (some (t.withSender i (.failed n))) }
  | giveUp {s : UploadState ι β} (c : ι) :
      UploadStep store selectable s { s with transfers := Function.update s.transfers c none }
  | finish {s : UploadState ι β} {c : ι} {t : Transfer β}
      (h_transfer : s.transfers c = some t) (h_senders : ∀ i, t.senders i = .finished)
      (h_refreshed : s.server.response.completedParts.length = t.session.partCount) :
      UploadStep store selectable s
        { s with
          server := s.server.complete store
          transfers := Function.update s.transfers c none }

/-- A new session, of which the clients know what the server has told them. -/
structure UploadInitial (s : UploadState ι β) : Prop where
  partBytes : 0 < s.server.partBytes
  sizeBytes : 0 < s.server.sizeBytes
  parts : s.server.parts = []
  object : s.server.object = none
  fetched : ∀ c, s.fetched c = s.server.response
  transfers : ∀ c, s.transfers c = none
  requests : s.requests = []

/-! ### What a transfer sends -/

/-- What a client knows of the session: its figures, and some of the parts. -/
structure Figures (server : UploadServer β) (session : ImportSession) : Prop where
  partSize : session.partSize = server.partBytes
  partCount : session.partCount = server.partCount
  sizeBytes : session.sizeBytes = server.sizeBytes
  completed : ∀ n ∈ session.completedParts, n ∈ List.range' 1 server.partCount

namespace ImportSession

variable (session : ImportSession) {n : ℕ}

/-- The parts up to `k` that were not completed. -/
def missing (k : ℕ) : List ℕ := (List.range' 1 k).filter fun n => n ∉ session.completedParts

/-- The last part comes last. -/
theorem range'_of_pos (h : 1 ≤ n) : List.range' 1 n = List.range' 1 (n - 1) ++ [n] := by
  obtain ⟨k, rfl⟩ := Nat.exists_eq_add_of_le' h
  rw [List.range'_concat, Nat.add_sub_cancel, Nat.one_mul, Nat.add_comm 1 k]

/-- A part the server reported is not missing. -/
theorem missing_of_completed (h : 1 ≤ n) (h_completed : n ∈ session.completedParts) :
    session.missing n = session.missing (n - 1) := by
  rw [missing, range'_of_pos h, List.filter_append, missing,
    List.filter_cons_of_neg (by simpa using h_completed), List.filter_nil, List.append_nil]

/-- A part the server did not report is missing, behind the earlier ones. -/
theorem missing_of_not_completed (h : 1 ≤ n) (h_missing : n ∉ session.completedParts) :
    session.missing n = session.missing (n - 1) ++ [n] := by
  rw [missing, range'_of_pos h, List.filter_append, missing,
    List.filter_cons_of_pos (by simpa using h_missing), List.filter_nil]

end ImportSession

/-- The length of a part that is sent and not answered. -/
def Sender.pending (session : ImportSession) : Sender → ℕ
  | .awaiting n => sliceLength session.partSize session.sizeBytes n
  | .failed n => sliceLength session.partSize session.sizeBytes n
  | _ => 0

/-- The bytes that both senders have sent and not been answered. -/
def Transfer.pending (t : Transfer β) : ℕ :=
  (t.senders false).pending t.session + (t.senders true).pending t.session

/-- The state of a transfer: the parts below the counter are sent unless they were completed, and
their bytes are counted but for those that are not answered. -/
structure Transfer.Sound (server : UploadServer β) (t : Transfer β) : Prop where
  figures : Figures server t.session
  file : t.file.content.length = t.session.sizeBytes
  next_pos : 1 ≤ t.next
  next_le : t.next ≤ t.session.partCount + 1
  sent : t.sent = t.session.missing (t.next - 1)
  awaiting : ∀ i n, t.senders i = .awaiting n → 1 ≤ n
  finished : ∀ i, t.senders i = .finished → t.next = t.session.partCount + 1
  bytes : t.bytes + t.pending =
    t.session.bytesOf t.session.completedParts.dedup + t.session.bytesOf t.sent

/-- What is pending splits into this sender's part and the other's. -/
theorem Transfer.pending_withSender (t : Transfer β) (i : Bool) (sender : Sender) :
    (t.withSender i sender).pending + (t.senders i).pending t.session =
      t.pending + sender.pending t.session := by
  cases i <;> simp only [pending, withSender, Function.update_self, ne_eq, not_false_eq_true,
    Function.update_of_ne, Bool.true_eq_false, Bool.false_eq_true] <;> omega

/-- After an update a sender is the new one, or as it was. -/
theorem senders_withSender {t : Transfer β} {i j : Bool} {sender other : Sender}
    (h : (t.withSender i sender).senders j = other) :
    other = sender ∨ t.senders j = other := by
  change Function.update t.senders i sender j = other at h
  by_cases h_same : j = i
  · subst h_same
    rw [Function.update_self] at h
    exact Or.inl h.symm
  · rw [Function.update_of_ne h_same] at h
    exact Or.inr h

namespace Transfer.Sound

variable {server server' : UploadServer β} {t : Transfer β} {i : Bool} {n : ℕ}

/-- A transfer begins with everything missing still pending. -/
theorem start {session : ImportSession} {file : LocalFile β} (h_figures : Figures server session)
    (h : beginTransfer session file = some t) : t.Sound server := by
  unfold beginTransfer at h
  split_ifs at h with h_file
  cases h
  rw [not_or, not_not] at h_file
  exact
    { figures := h_figures
      file := h_file.1
      next_pos := Nat.le_refl 1
      next_le := Nat.le_add_left 1 _
      sent := rfl
      awaiting := fun _ _ h => by cases h
      finished := fun _ h => by cases h
      bytes := rfl }

/-- The loop takes the next part, or ends. -/
theorem loop (h : t.Sound server) (h_sender : t.senders i = .running) :
    (t.loop i).Sound server := by
  -- a sender in its loop waits for no part
  have h_running : (t.senders i).pending t.session = 0 := by
    rw [h_sender]
    rfl
  unfold Transfer.loop
  dsimp only
  split_ifs with h_next h_completed
  · -- the part was there when the session was fetched, so it was not missing
    exact
      { figures := h.figures
        file := h.file
        next_pos := Nat.le_add_left 1 _
        next_le := Nat.succ_le_succ h_next
        sent := h.sent.trans (t.session.missing_of_completed h.next_pos h_completed).symm
        awaiting := h.awaiting
        finished := fun j h_j => absurd (h.finished j h_j) (by omega)
        bytes := h.bytes }
  · -- the part is missing: it is sent, and pending until it is answered
    exact
      { figures := h.figures
        file := h.file
        next_pos := Nat.le_add_left 1 _
        next_le := Nat.succ_le_succ h_next
        sent := by
          rw [h.sent]
          exact (t.session.missing_of_not_completed h.next_pos h_completed).symm
        awaiting := fun j n h_j => by
          rcases senders_withSender h_j with h_new | h_old
          · cases h_new
            exact h.next_pos
          · exact h.awaiting j n h_old
        finished := fun j h_j => by
          rcases senders_withSender h_j with h_new | h_old
          · cases h_new
          · exact absurd (h.finished j h_old) (by omega)
        bytes := by
          have h_sum := t.pending_withSender i (.awaiting t.next)
          have h_bytes := h.bytes
          have h_sent : t.session.bytesOf (t.sent ++ [t.next]) = t.session.bytesOf t.sent +
              sliceLength t.session.partSize t.session.sizeBytes t.next := by
            rw [ImportSession.bytesOf, List.map_append, List.sum_append, List.map_singleton,
              List.sum_singleton]
            rfl
          change t.bytes + (t.withSender i (.awaiting t.next)).pending =
            t.session.bytesOf t.session.completedParts.dedup +
              t.session.bytesOf (t.sent ++ [t.next])
          change _ = t.pending + sliceLength t.session.partSize t.session.sizeBytes t.next at h_sum
          omega }
  · -- no part is left, and the sender ends
    have h_end : t.next = t.session.partCount + 1 := by
      have h_le := h.next_le
      omega
    exact
      { figures := h.figures
        file := h.file
        next_pos := h.next_pos
        next_le := h.next_le
        sent := h.sent
        awaiting := fun j n h_j => by
          rcases senders_withSender h_j with h_new | h_old
          · cases h_new
          · exact h.awaiting j n h_old
        finished := fun _ _ => h_end
        bytes := by
          have h_sum := t.pending_withSender i .finished
          have h_bytes := h.bytes
          change t.bytes + (t.withSender i .finished).pending =
            t.session.bytesOf t.session.completedParts.dedup + t.session.bytesOf t.sent
          change _ = t.pending + 0 at h_sum
          omega }

/-- An answer moves the bytes of its part from those that are pending to those that are counted. -/
theorem answered (h : t.Sound server) (h_sender : t.senders i = .awaiting n) :
    (t.answered i n).Sound server where
  figures := h.figures
  file := h.file
  next_pos := h.next_pos
  next_le := h.next_le
  sent := h.sent
  awaiting j m h_j := by
    rcases senders_withSender h_j with h_new | h_old
    · cases h_new
    · exact h.awaiting j m h_old
  finished j h_j := by
    rcases senders_withSender h_j with h_new | h_old
    · cases h_new
    · exact h.finished j h_old
  bytes := by
    have h_sum := t.pending_withSender i .running
    have h_bytes := h.bytes
    have h_length := length_slice t.session.partSize t.file.content
      (h.awaiting i n h_sender)
    rw [h_sender] at h_sum
    rw [h.file] at h_length
    change t.bytes + (slice t.session.partSize t.file.content n).length +
      (t.withSender i .running).pending =
        t.session.bytesOf t.session.completedParts.dedup + t.session.bytesOf t.sent
    change _ + sliceLength t.session.partSize t.session.sizeBytes n = t.pending + 0 at h_sum
    omega

/-- A failed request loses nothing: its part is not counted as sent. -/
theorem failed (h : t.Sound server) (h_sender : t.senders i = .awaiting n) :
    (t.withSender i (.failed n)).Sound server where
  figures := h.figures
  file := h.file
  next_pos := h.next_pos
  next_le := h.next_le
  sent := h.sent
  awaiting j m h_j := by
    rcases senders_withSender h_j with h_new | h_old
    · cases h_new
    · exact h.awaiting j m h_old
  finished j h_j := by
    rcases senders_withSender h_j with h_new | h_old
    · cases h_new
    · exact h.finished j h_old
  bytes := by
    have h_sum := t.pending_withSender i (.failed n)
    have h_bytes := h.bytes
    rw [h_sender] at h_sum
    change t.bytes + (t.withSender i (.failed n)).pending =
      t.session.bytesOf t.session.completedParts.dedup + t.session.bytesOf t.sent
    change _ + Sender.pending t.session (.awaiting n) =
      t.pending + Sender.pending t.session (.awaiting n) at h_sum
    omega

/-- The bytes of the parts that were completed and of those that the session lacked. -/
theorem bytesOf_all (h : t.Sound server) (h_width : 0 < server.partBytes) :
    t.session.bytesOf t.session.completedParts.dedup +
      t.session.bytesOf (t.session.missing t.session.partCount) = t.session.sizeBytes := by
  have h_range : ∀ n ∈ t.session.completedParts.dedup, n ∈ List.range' 1 t.session.partCount := by
    intro n h_n
    rw [h.figures.partCount]
    exact h.figures.completed n (List.mem_dedup.mp h_n)
  have h_missing : t.session.missing t.session.partCount =
      (List.range' 1 t.session.partCount).filter fun n => n ∉ t.session.completedParts.dedup := by
    simp only [ImportSession.missing, List.mem_dedup]
  have h_enough := le_ceil_mul h_width server.sizeBytes
  rw [h_missing, ImportSession.bytesOf, ImportSession.bytesOf,
    sum_map_filter_mem _ (List.nodup_dedup _) h_range, sum_sliceLength, h.figures.partCount,
    h.figures.partSize, h.figures.sizeBytes]
  exact Nat.min_eq_right h_enough

/-- The senders never report more bytes than the file has. -/
theorem bytes_le (h : t.Sound server) (h_width : 0 < server.partBytes) :
    t.bytes ≤ t.session.sizeBytes := by
  have h_all := h.bytesOf_all h_width
  have h_some : t.session.bytesOf t.sent ≤
      t.session.bytesOf (t.session.missing t.session.partCount) := by
    have h_le := h.next_le
    have h_begins : List.Sublist (List.range' 1 (t.next - 1))
        (List.range' 1 t.session.partCount) :=
      List.range'_sublist_right.mpr (by omega)
    rw [h.sent]
    exact ((h_begins.filter _).map _).sum_le_sum fun _ _ => Nat.zero_le _
  have h_bytes := h.bytes
  omega

/-- Once both senders have finished, everything is sent and counted. -/
theorem all_sent (h : t.Sound server) (h_width : 0 < server.partBytes)
    (h_finished : ∀ i, t.senders i = .finished) :
    t.sent = t.session.missing t.session.partCount ∧ t.bytes = t.session.sizeBytes := by
  have h_next := h.finished true (h_finished true)
  have h_sent := h.sent
  rw [h_next, Nat.add_sub_cancel] at h_sent
  refine ⟨h_sent, ?_⟩
  have h_bytes := h.bytes
  rw [h_sent, h.bytesOf_all h_width, Transfer.pending, h_finished, h_finished] at h_bytes
  exact h_bytes

end Transfer.Sound

/-! ### The session on the server -/

namespace UploadServer

/-- The prescribed sizes, which no request changes. -/
structure SameFigures (server server' : UploadServer β) : Prop where
  partBytes : server'.partBytes = server.partBytes
  sizeBytes : server'.sizeBytes = server.sizeBytes

variable {server server' : UploadServer β} {n : ℕ} {content : List β}

/-- Equal sizes give equally many parts. -/
theorem SameFigures.partCount (h : SameFigures server server') :
    server'.partCount = server.partCount := by
  rw [UploadServer.partCount, UploadServer.partCount, h.partBytes, h.sizeBytes]

/-- The figures of a session stay right while the server's sizes do. -/
theorem SameFigures.figures (h : SameFigures server server') {session : ImportSession}
    (h_session : Figures server session) : Figures server' session where
  partSize := h_session.partSize.trans h.partBytes.symm
  partCount := h_session.partCount.trans h.partCount.symm
  sizeBytes := h_session.sizeBytes.trans h.sizeBytes.symm
  completed n h_n := h.partCount ▸ h_session.completed n h_n

/-- A sound transfer stays sound while the server's sizes do. -/
theorem SameFigures.sound (h : SameFigures server server') {t : Transfer β}
    (h_sound : t.Sound server) : t.Sound server' :=
  { h_sound with figures := h.figures h_sound.figures }

/-- A part is refused, or is the first of its number. -/
theorem receive_cases (server : UploadServer β) (n : ℕ) (content : List β) :
    server.receive n content = server ∨
      n ∈ List.range' 1 server.partCount ∧
      server.receive n content = { server with parts := server.parts ++ [(n, content)] } := by
  unfold receive
  split_ifs with h_object h_range h_length h_known
  · exact Or.inl rfl
  · exact Or.inl rfl
  · exact Or.inl rfl
  · exact Or.inl rfl
  · refine Or.inr ⟨?_, rfl⟩
    rw [List.mem_range'_1]
    omega

/-- The parts are named in ascending order, so the store concatenates them. -/
theorem completeMultipart_namedParts (store : MultipartStore β) (server : UploadServer β) :
    store.completeMultipart server.namedParts =
      (List.range' 1 server.partCount).flatMap fun n => (server.part n).getD [] := by
  have h_numbers : server.namedParts.map (·.1) = List.range' 1 server.partCount := by
    rw [namedParts, List.map_map]
    exact List.map_id _
  rw [store.completeMultipart_eq _ (h_numbers ▸ List.pairwise_lt_range' 1 Nat.one_pos), namedParts,
    List.flatMap_map]

/-- A completion puts the object together from all parts, or changes nothing. -/
theorem complete_cases (store : MultipartStore β) (server : UploadServer β) :
    server.complete store = server ∨
      (∀ n ∈ List.range' 1 server.partCount, (server.part n).isSome = true) ∧
      server.complete store =
        { server with
          object := some ((List.range' 1 server.partCount).flatMap fun n =>
            (server.part n).getD []) } := by
  unfold complete
  dsimp only
  split_ifs with h
  · exact Or.inl rfl
  · rw [not_or, not_not] at h
    exact Or.inr ⟨h.2, by rw [completeMultipart_namedParts]⟩

theorem sameFigures_receive (server : UploadServer β) (n : ℕ) (content : List β) :
    SameFigures server (server.receive n content) := by
  rcases server.receive_cases n content with h | ⟨_, h⟩ <;> rw [h] <;> exact ⟨rfl, rfl⟩

theorem sameFigures_complete (store : MultipartStore β) (server : UploadServer β) :
    SameFigures server (server.complete store) := by
  rcases server.complete_cases store with h | ⟨_, h⟩ <;> rw [h] <;> exact ⟨rfl, rfl⟩

/-- A part the server has is in its list. -/
theorem mem_parts_of_part (h : server.part n = some content) : (n, content) ∈ server.parts := by
  obtain ⟨⟨m, c⟩, h_find, rfl⟩ := Option.map_eq_some_iff.mp h
  have h_number : m = n := by simpa using List.find?_some h_find
  subst h_number
  exact List.mem_of_find?_eq_some h_find

end UploadServer

/-! ### The invariant of a run -/

/-- What holds of the server and of every client. -/
structure UploadSound (s : UploadState ι β) : Prop where
  partBytes : 0 < s.server.partBytes
  numbers : ∀ p ∈ s.server.parts, p.1 ∈ List.range' 1 s.server.partCount
  fetched : ∀ c, Figures s.server (s.fetched c)
  transfers : ∀ c t, s.transfers c = some t → t.Sound s.server

/-- What holds of the transfer that changes and of the others. -/
theorem forall_update [DecidableEq ι] {γ : Type} {P : γ → Prop} {f : ι → Option γ} {c : ι}
    {new : Option γ}
    (h_new : ∀ x, new = some x → P x) (h_old : ∀ c x, f c = some x → P x) :
    ∀ c' x, Function.update f c new c' = some x → P x := by
  intro c' x h
  by_cases h_same : c' = c
  · subst h_same
    rw [Function.update_self] at h
    exact h_new x h
  · rw [Function.update_of_ne h_same] at h
    exact h_old c' x h

/-- The server reports its own figures. -/
theorem UploadServer.figures_response {server : UploadServer β}
    (h : ∀ p ∈ server.parts, p.1 ∈ List.range' 1 server.partCount) :
    Figures server server.response where
  partSize := rfl
  partCount := rfl
  sizeBytes := rfl
  completed n h_n := by
    obtain ⟨p, h_p, rfl⟩ := List.mem_map.mp ((List.mem_insertionSort _).mp h_n)
    exact h p h_p

/-- Before the first transfer there is nothing to show. -/
theorem UploadInitial.sound {s : UploadState ι β} (h : UploadInitial s) : UploadSound s where
  partBytes := h.partBytes
  numbers p h_p := by
    rw [h.parts] at h_p
    cases h_p
  fetched c := by
    rw [h.fetched c]
    refine UploadServer.figures_response fun p h_p => ?_
    rw [h.parts] at h_p
    cases h_p
  transfers c t h_t := by
    rw [h.transfers c] at h_t
    cases h_t

/-- Each step keeps every transfer sound: one case per request, late answers included. -/
theorem UploadSound.step [DecidableEq ι] {store : MultipartStore β}
    {selectable : LocalFile β → Prop} {s s' : UploadState ι β} (h : UploadSound s)
    (h_step : UploadStep store selectable s s') : UploadSound s' := by
  -- a server that keeps its figures, and one transfer that changes
  have h_server : ∀ {server : UploadServer β} {transfers : ι → Option (Transfer β)} {requests},
      UploadServer.SameFigures s.server server →
      (∀ p ∈ server.parts, p.1 ∈ List.range' 1 server.partCount) →
      (∀ c t, transfers c = some t → t.Sound s.server) →
      UploadSound { server, fetched := s.fetched, transfers, requests } := by
    intro server transfers requests h_figures h_numbers h_transfers
    exact
      { partBytes := h_figures.partBytes.symm ▸ h.partBytes
        numbers := h_numbers
        fetched := fun c => h_figures.figures (h.fetched c)
        transfers := fun c t h_t => h_figures.sound (h_transfers c t h_t) }
  have h_same : UploadServer.SameFigures s.server s.server := ⟨rfl, rfl⟩
  cases h_step with
  | fetch c =>
    -- the fetched figures are the server's own
    refine { h with fetched := fun c' => ?_ }
    show Figures s.server (Function.update s.fetched c s.server.response c')
    by_cases h_c : c' = c
    · subst h_c
      rw [Function.update_self]
      exact UploadServer.figures_response h.numbers
    · rw [Function.update_of_ne h_c]
      exact h.fetched c'
  | @start c file t h_idle h_file h_begin =>
    -- a transfer starts with the figures it has fetched
    refine h_server h_same h.numbers (forall_update ?_ h.transfers)
    rintro _ ⟨⟩
    exact .start (h.fetched c) h_begin
  | @loop c i t h_transfer h_sender =>
    refine h_server h_same h.numbers (forall_update ?_ h.transfers)
    rintro _ ⟨⟩
    exact (h.transfers c t h_transfer).loop h_sender
  | @arrive r h_request =>
    -- a request adds its part at most, under a number in range
    refine h_server (s.server.sameFigures_receive _ _) ?_ h.transfers
    rcases s.server.receive_cases r.1 r.2 with h_eq | ⟨h_range, h_eq⟩
    · rw [h_eq]
      exact h.numbers
    · rw [h_eq]
      intro p h_p
      rcases List.mem_append.mp h_p with h_p | h_p
      · exact h.numbers p h_p
      · obtain rfl := List.mem_singleton.mp h_p
        exact h_range
  | @answered c i t n h_transfer h_sender _ =>
    refine h_server h_same h.numbers (forall_update ?_ h.transfers)
    rintro _ ⟨⟩
    exact (h.transfers c t h_transfer).answered h_sender
  | @fails c i t n h_transfer h_sender =>
    refine h_server h_same h.numbers (forall_update ?_ h.transfers)
    rintro _ ⟨⟩
    exact (h.transfers c t h_transfer).failed h_sender
  | giveUp c =>
    -- the transfer is closed
    refine h_server h_same h.numbers (forall_update ?_ h.transfers)
    rintro _ ⟨⟩
  | finish _ _ _ =>
    -- the completion assembles the object and keeps the figures
    refine h_server (s.server.sameFigures_complete store) ?_ (forall_update ?_ h.transfers)
    · rcases s.server.complete_cases store with h_eq | ⟨_, h_eq⟩ <;> rw [h_eq] <;> exact h.numbers
    · rintro _ ⟨⟩

section

variable [DecidableEq ι] {store : MultipartStore β} {selectable : LocalFile β → Prop}
  {s : UploadState ι β}

theorem uploadSound (h : Reachable UploadInitial (UploadStep store selectable) s) : UploadSound s :=
  h.invariant (fun _ h₀ => h₀.sound) fun _ _ h_sound h_step => h_sound.step h_step

end

/-! ### What the server puts together -/

/-- All that was selected, sent and recorded comes from one content. -/
structure UploadHolds (content : List β) (s : UploadState ι β) : Prop where
  files : ∀ c t, s.transfers c = some t → t.file.content = content
  requests : ∀ r ∈ s.requests, content.length = s.server.sizeBytes ∧
    r.2 = slice s.server.partBytes content r.1
  parts : ∀ p ∈ s.server.parts, content.length = s.server.sizeBytes ∧
    p.2 = slice s.server.partBytes content p.1
  object : ∀ o, s.server.object = some o → o = content

/-- An empty server holds no wrong part. -/
theorem UploadInitial.holds {s : UploadState ι β} (h : UploadInitial s) (content : List β) :
    UploadHolds content s where
  files c t h_t := by
    rw [h.transfers c] at h_t
    cases h_t
  requests r h_r := by
    rw [h.requests] at h_r
    cases h_r
  parts p h_p := by
    rw [h.parts] at h_p
    cases h_p
  object o h_o := by
    rw [h.object] at h_o
    cases h_o

/-- The slices in the order of their numbers are the content. -/
theorem UploadServer.flatMap_parts {server : UploadServer β} {content : List β}
    (h_width : 0 < server.partBytes)
    (h_parts : ∀ p ∈ server.parts, content.length = server.sizeBytes ∧
      p.2 = slice server.partBytes content p.1)
    (h_all : ∀ n ∈ List.range' 1 server.partCount, (server.part n).isSome = true) :
    ((List.range' 1 server.partCount).flatMap fun n => (server.part n).getD []) = content := by
  have h_part : ∀ n ∈ List.range' 1 server.partCount, content.length = server.sizeBytes ∧
      (server.part n).getD [] = slice server.partBytes content n := by
    intro n h_n
    obtain ⟨c, h_c⟩ := Option.isSome_iff_exists.mp (h_all n h_n)
    rw [h_c]
    exact h_parts (n, c) (mem_parts_of_part h_c)
  have h_first : 1 ∈ List.range' 1 server.partCount := by
    rw [List.mem_range'_1]
    exact ⟨Nat.le_refl 1, Nat.lt_add_of_pos_right (Nat.le_max_left 1 _)⟩
  have h_enough : content.length ≤ server.partCount * server.partBytes := by
    rw [(h_part 1 h_first).1]
    exact le_ceil_mul h_width server.sizeBytes
  calc ((List.range' 1 server.partCount).flatMap fun n => (server.part n).getD [])
      = (List.range' 1 server.partCount).flatMap (slice server.partBytes content) :=
        List.flatMap_congr fun n h_n => (h_part n h_n).2
    _ = content := flatMap_slice_of_le h_enough

section

variable [DecidableEq ι] {store : MultipartStore β} {content : List β} {s s' : UploadState ι β}

/-- Each step keeps the parts slices of the one file: a part that is there is never
replaced. -/
theorem UploadHolds.step (h : UploadHolds content s) (h_sound : UploadSound s)
    (h_step : UploadStep store (fun file => file.content = content) s s') :
    UploadHolds content s' := by
  cases h_step with
  | fetch c => exact ⟨h.files, h.requests, h.parts, h.object⟩
  | @start c file t h_idle h_file h_begin =>
    refine { h with files := forall_update ?_ h.files }
    -- the file was chosen when the transfer began
    rintro _ ⟨⟩
    unfold beginTransfer at h_begin
    split_ifs at h_begin
    cases h_begin
    exact h_file
  | @loop c i t h_transfer h_sender =>
    -- the loop sends a slice of that file
    have h_t := h_sound.transfers c t h_transfer
    have h_file := h.files c t h_transfer
    refine { h with files := forall_update ?_ h.files, requests := ?_ }
    · rintro _ ⟨⟩
      show (t.loop i).file.content = content
      unfold Transfer.loop
      dsimp only
      split_ifs <;> exact h_file
    · intro r h_r
      rcases List.mem_append.mp h_r with h_r | h_r
      · exact h.requests r h_r
      · -- the request that the loop has just sent
        unfold Transfer.request? at h_r
        split_ifs at h_r
        · obtain rfl := List.mem_singleton.mp h_r
          rw [← h_file, ← h_t.figures.partSize]
          exact ⟨h_t.file.trans h_t.figures.sizeBytes, rfl⟩
        · cases h_r
  | @arrive r h_request =>
    -- a part that is there already keeps its content
    rcases s.server.receive_cases r.1 r.2 with h_eq | ⟨_, h_eq⟩
    · rw [h_eq]
      exact h
    · rw [h_eq]
      refine { h with parts := fun p h_p => ?_ }
      rcases List.mem_append.mp h_p with h_p | h_p
      · exact h.parts p h_p
      · obtain rfl := List.mem_singleton.mp h_p
        exact h.requests r h_request
  | @answered c i t n h_transfer h_sender _ =>
    refine { h with files := forall_update ?_ h.files }
    rintro _ ⟨⟩
    exact h.files c t h_transfer
  | @fails c i t n h_transfer h_sender =>
    refine { h with files := forall_update ?_ h.files }
    rintro _ ⟨⟩
    exact h.files c t h_transfer
  | giveUp c =>
    refine { h with files := forall_update ?_ h.files }
    rintro _ ⟨⟩
  | @finish c _ _ _ _ =>
    -- all parts are there, so together they are the file
    have h_files : ∀ c' t, Function.update s.transfers c none c' = some t →
        t.file.content = content := forall_update (by rintro _ ⟨⟩) h.files
    rcases s.server.complete_cases store with h_eq | ⟨h_all, h_eq⟩
    · rw [h_eq]
      exact { h with files := h_files }
    · rw [h_eq]
      refine { h with files := h_files, object := ?_ }
      rintro _ ⟨⟩
      exact UploadServer.flatMap_parts h_sound.partBytes h.parts h_all

/-- **What the server puts together.** When one content is selected in all transfers of a session,
the object is this content, whichever transfers were given up and in whatever order, and however
often, their requests have arrived. -/
theorem object_eq_file
    (h : Reachable UploadInitial (UploadStep store fun file => file.content = content) s)
    {object : List β} (h_object : s.server.object = some object) : object = content := by
  have h_both : UploadSound s ∧ UploadHolds content s :=
    Reachable.invariant (I := fun s => UploadSound s ∧ UploadHolds content s)
      (fun _ h₀ => ⟨h₀.sound, h₀.holds content⟩)
      (fun _ _ h_inv h_step => ⟨h_inv.1.step h_step, h_inv.2.step h_inv.1 h_step⟩) h
  exact h_both.2.object object h_object

end

/-! ### A transfer of two parts -/

/-- A store that concatenates what it is given. -/
def joiningStore : MultipartStore ℕ where
  completeMultipart parts := parts.flatMap (·.2)
  completeMultipart_eq _ _ := rfl

/-- A session for three bytes, in parts of two. -/
def threeBytes : UploadState Unit ℕ where
  server := { partBytes := 2, sizeBytes := 3, filename := "runs.csv" }
  fetched _ :=
    { partSize := 2, partCount := 2, sizeBytes := 3, originalFilename := "runs.csv"
      completedParts := [] }

theorem initial_threeBytes : UploadInitial threeBytes :=
  ⟨by decide, by decide, rfl, rfl, fun _ => rfl, fun _ => rfl, rfl⟩

/-- The run in which both senders are answered, the second one first. -/
theorem reachable_finished :
    ∃ (s : UploadState Unit ℕ) (t : Transfer ℕ),
      Reachable UploadInitial (UploadStep joiningStore fun file => file.content = [7, 8, 9]) s ∧
      s.transfers () = some t ∧ (∀ i, t.senders i = .finished) ∧ t.sent = [1, 2] ∧
      s.server.response.completedParts.length = t.session.partCount ∧
      (s.server.complete joiningStore).object = some [7, 8, 9] := by
  have h₀ : Reachable UploadInitial (UploadStep joiningStore fun file => file.content = [7, 8, 9])
      threeBytes := Reachable.of_initial initial_threeBytes
  have h_begin : beginTransfer (threeBytes.fetched ()) ⟨"runs.csv", [7, 8, 9]⟩ = some _ := rfl
  have h₁ := h₀.next (.start rfl rfl h_begin)
  have h₂ := h₁.next (.loop (c := ()) (i := false) rfl rfl)
  have h₃ := h₂.next (.loop (c := ()) (i := true) rfl rfl)
  have h₄ := h₃.next (.arrive (r := (2, [9])) (by decide))
  have h₅ := h₄.next (.answered (c := ()) (i := true) (n := 2) rfl rfl (by decide))
  have h₆ := h₅.next (.arrive (r := (1, [7, 8])) (by decide))
  have h₇ := h₆.next (.answered (c := ()) (i := false) (n := 1) rfl rfl (by decide))
  have h₈ := h₇.next (.loop (c := ()) (i := true) rfl rfl)
  have h₉ := h₈.next (.loop (c := ()) (i := false) rfl rfl)
  exact ⟨_, _, h₉, rfl, by decide, by decide, by decide, by decide⟩

theorem object_eq_threeBytes :
    ∃ (s : UploadState Unit ℕ) (object : List ℕ),
      Reachable UploadInitial (UploadStep joiningStore fun file => file.content = [7, 8, 9]) s ∧
      s.server.object = some object ∧ object = [7, 8, 9] := by
  obtain ⟨s, t, h_reachable, h_transfer, h_finished, _, h_refreshed, h_object⟩ :=
    reachable_finished
  have h_end := h_reachable.next (.finish h_transfer h_finished h_refreshed)
  exact ⟨_, _, h_end, h_object, object_eq_file h_end h_object⟩

end DqScoring
