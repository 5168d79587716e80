import DqScoring.Common.Uuid
import DqScoring.Core.Entities
import DqScoring.Framework.Table
import DqScoring.Framework.Transition
import Mathlib.Logic.Function.Basic

/-!
# Refresh-token families

`adapters/db/refresh_token_store.py` and the routes that call it. Login, rotation and
logout are transactions that run one SQL statement at a time under READ COMMITTED; a phase
(`TokenPhase`) is the place between two statements.

A statement reads the committed table with the writes of its own transaction. `SELECT … FOR
UPDATE` waits for the lock of its row and reads the row then. An UPDATE of several rows
finds them when it starts, locks them one after the other, and takes each one that still
satisfies its condition once it is locked: a row that is committed after the start is not
seen. Writes are applied when the transaction commits, and locks are kept until then.

A token is identified by its hash; the identifiers that the source draws at random are
arguments of the requests.
-/

namespace DqScoring

open Framework

/-- A row of `refresh_tokens`. -/
structure RefreshToken where
  tokenHash : String
  familyId : Uuid
  userId : Uuid
  tenantId : Uuid
  issuedAt : Time
  expiresAt : Time
  usedAt : Option Time := none
  revokedAt : Option Time := none
  deriving DecidableEq

namespace RefreshToken

/-- Unused and unrevoked. -/
def isLive (row : RefreshToken) : Bool := row.usedAt.isNone && row.revokedAt.isNone

/-- The row once it is used. -/
def use (now : Time) (row : RefreshToken) : RefreshToken := { row with usedAt := some now }

/-- The row once it is revoked. -/
def revoke (now : Time) (row : RefreshToken) : RefreshToken := { row with revokedAt := some now }

@[simp] theorem use_tokenHash (now : Time) (row : RefreshToken) :
    (row.use now).tokenHash = row.tokenHash := rfl

@[simp] theorem revoke_tokenHash (now : Time) (row : RefreshToken) :
    (row.revoke now).tokenHash = row.tokenHash := rfl

end RefreshToken

/-- The table `refresh_tokens`. -/
abbrev TokenTable := Table RefreshToken.tokenHash

/-- Seconds in a day. -/
def secondsPerDay : ℤ := 86400

/-- The row that `issue_refresh_token` inserts. -/
def issueRefreshToken (tokenHash : String) (userId tenantId : Uuid) (expiresInDays : ℕ)
    (familyId : Uuid) (now : Time) : RefreshToken where
  tokenHash := tokenHash
  familyId := familyId
  userId := userId
  tenantId := tenantId
  issuedAt := now
  expiresAt := now + expiresInDays * secondsPerDay

/-! ### Statements that write -/

/-- A write of a transaction. -/
inductive TokenWrite where
  | insert (token : RefreshToken)
  | use (tokenHash : String) (now : Time)
  /-- The UPDATE of `_revoke_family` on the rows it found at its start. -/
  | revoke (familyId : Uuid) (targets : List String) (now : Time)

/-- The rows that a revoking UPDATE takes. -/
def revokedBy (familyId : Uuid) (targets : List String) (row : RefreshToken) : Bool :=
  decide (row.tokenHash ∈ targets) && decide (row.familyId = familyId) && row.revokedAt.isNone

/-- The table after a write, if no constraint is broken. -/
def TokenWrite.apply : TokenWrite → TokenTable → Option TokenTable
  | insert token, table => if token.issuedAt < token.expiresAt then table.insert token else none
  | use tokenHash now, table =>
    some (table.update tokenHash (RefreshToken.use now) (RefreshToken.use_tokenHash now))
  | revoke familyId targets now, table =>
    some (table.updateWhere (revokedBy familyId targets) (RefreshToken.revoke now)
      (RefreshToken.revoke_tokenHash now))

/-- The table after some writes, the first one first. -/
def applyWrites (writes : List TokenWrite) (table : TokenTable) : Option TokenTable :=
  writes.foldlM (fun table w => w.apply table) table

@[simp] theorem applyWrites_nil (table : TokenTable) : applyWrites [] table = some table := rfl

@[simp] theorem applyWrites_cons (w : TokenWrite) (writes : List TokenWrite) (table : TokenTable) :
    applyWrites (w :: writes) table = (w.apply table).bind (applyWrites writes) := rfl

/-- Writes are applied one after the other. -/
theorem applyWrites_append (writes writes' : List TokenWrite) (table : TokenTable) :
    applyWrites (writes ++ writes') table
      = (applyWrites writes table).bind (applyWrites writes') := by
  unfold applyWrites
  rw [List.foldlM_append]
  rfl

/-! ### Transactions -/

/-- How a transaction ends. -/
inductive TokenOutcome where
  | issued (token : RefreshToken)
  | rotated (row successor : RefreshToken)
  /-- A family is revoked; the detail is that of the rejected rotation. -/
  | revoked (familyId : Uuid) (detail : Option String)
  | rejected (detail : String)
  /-- Sign-out with an unknown token. -/
  | ignored
  deriving DecidableEq

/-- The place of a transaction between two of its statements. -/
inductive TokenPhase where
  /-- `issue_refresh_token`: insert a token, which succeeds the row of a rotation. -/
  | issue (token : RefreshToken) (rotated : Option RefreshToken)
  /-- `rotate_refresh_token`: select the presented token FOR UPDATE. -/
  | present (tokenHash newHash : String) (expiresInDays : ℕ)
  /-- Mark the row used. -/
  | consume (row : RefreshToken) (newHash : String) (expiresInDays : ℕ)
  /-- Read the current account and membership. -/
  | identify (row : RefreshToken) (newHash : String) (expiresInDays : ℕ)
  /-- `revoke_refresh_token`: select the family of the presented token. -/
  | lookUp (tokenHash : String)
  /-- `_revoke_family`: start the UPDATE. -/
  | revoke (familyId : Uuid) (detail : Option String)
  /-- The UPDATE has found its rows and locks those that remain. -/
  | await (familyId : Uuid) (detail : Option String) (targets remaining : List String)
  /-- Commit. -/
  | finish (outcome : TokenOutcome)

/-- An open transaction: where it is, the rows it has locked and what it has written. -/
structure TokenTxn where
  phase : TokenPhase
  held : List String := []
  writes : List TokenWrite := []

/-- `rotate_refresh_token` after its SELECT has returned a row. -/
def presentedRow (row : RefreshToken) (newHash : String) (expiresInDays : ℕ) (now : Time) :
    TokenPhase :=
  if row.revokedAt.isSome then .finish (.rejected "Refresh token has been revoked.")
  else if row.usedAt.isSome then
    .revoke row.familyId (some "Suspicious refresh token reuse detected. Session invalidated.")
  else if row.expiresAt < now then .finish (.rejected "Refresh token has expired.")
  else .consume row newHash expiresInDays

/-- The hashes of the rows that a revoking UPDATE finds. -/
def familyTargets (familyId : Uuid) (view : TokenTable) : List String :=
  (view.rows.filter fun row => decide (row.familyId = familyId) && row.revokedAt.isNone).map
    RefreshToken.tokenHash

/-- The next statement of a transaction, with the clock and, where the statement asks for it,
whether account and membership are active. `free` is whether a row lock can be granted. -/
def TokenTxn.statement (t : TokenTxn) (table : TokenTable) (free : String → Bool) (now : Time)
    (active : Bool) : Option TokenTxn :=
  match t.phase with
  | .issue token rotated =>
    -- the new row is written, and the transaction can end
    let outcome : TokenOutcome :=
      match rotated with
      | none => .issued token
      | some row => .rotated row token
    some { t with phase := .finish outcome, writes := t.writes ++ [.insert token] }
  | .present tokenHash newHash expiresInDays =>
    -- the row is selected FOR UPDATE, which waits for its owner
    match table.find? tokenHash with
    | none => some { t with phase := .finish (.rejected "Invalid refresh token.") }
    | some row =>
      if free tokenHash then
        some { t with
          phase := presentedRow row newHash expiresInDays now, held := tokenHash :: t.held }
      else none
  | .consume row newHash expiresInDays =>
    -- the presented token is used up before the user is read
    some { t with
      phase := .identify row newHash expiresInDays, writes := t.writes ++ [.use row.tokenHash now] }
  | .identify row newHash expiresInDays =>
    -- the user and the membership are read after the lock
    if active then
      some { t with
        phase := .issue (issueRefreshToken newHash row.userId row.tenantId expiresInDays
          row.familyId now) (some row) }
    else
      some { t with
        phase :=
          .revoke row.familyId (some "Account or workspace membership is no longer active.") }
  | .lookUp tokenHash =>
    -- logout reads without a lock
    match table.find? tokenHash with
    | none => some { t with phase := .finish .ignored }
    | some row => some { t with phase := .revoke row.familyId none }
  | .revoke familyId detail =>
    -- the UPDATE of a family fixes its targets when it starts
    (applyWrites t.writes table).map fun view =>
      { t with
        phase := .await familyId detail (familyTargets familyId view)
          (familyTargets familyId view) }
  | .await familyId detail targets (tokenHash :: remaining) =>
    -- and locks them one by one, waiting for each
    if free tokenHash then
      some { t with
        phase := .await familyId detail targets remaining, held := tokenHash :: t.held }
    else none
  | .await familyId detail targets [] =>
    some { t with
      phase := .finish (.revoked familyId detail)
      writes := t.writes ++ [.revoke familyId targets now] }
  -- nothing is left to do but to commit
  | .finish _ => none

/-! ### The system -/

/-- A request. -/
inductive TokenRequest where
  | login (tokenHash : String) (familyId userId tenantId : Uuid) (expiresInDays : ℕ) (now : Time)
  | refresh (tokenHash newHash : String) (expiresInDays : ℕ)
  | logout (tokenHash : String)
  deriving DecidableEq

/-- The transaction of a request, before its first statement. -/
def TokenRequest.start : TokenRequest → TokenTxn
  | login tokenHash familyId userId tenantId expiresInDays now =>
    ⟨.issue (issueRefreshToken tokenHash userId tenantId expiresInDays familyId now) none, [], []⟩
  | refresh tokenHash newHash expiresInDays => ⟨.present tokenHash newHash expiresInDays, [], []⟩
  | logout tokenHash => ⟨.lookUp tokenHash, [], []⟩

/-- The family that a request creates. -/
def TokenRequest.newFamily : TokenRequest → Option Uuid
  | login _ familyId _ _ _ _ => some familyId
  | _ => none

/-- What happened to a transaction. -/
inductive TokenEvent (I : Type) where
  | begun (i : I) (request : TokenRequest)
  | committed (i : I) (outcome : TokenOutcome)
  deriving DecidableEq

/-- The committed table, the open transactions, the owners of the row locks, the families drawn so
far (`uuid4()` never repeats one) and the log, newest first. -/
structure TokenState (I : Type) where
  table : TokenTable
  opened : I → Option TokenTxn
  owner : String → Option I
  families : List Uuid
  log : List (TokenEvent I)

/-- A step of the system. -/
inductive TokenAction (I : Type) where
  | begin (i : I) (request : TokenRequest)
  | statement (i : I) (now : Time) (active : Bool)
  | commit (i : I)
  | rollback (i : I)

namespace TokenState

variable {I : Type} [DecidableEq I]

/-- The system before any request. -/
def initial : TokenState I where
  table := .empty
  opened _ := none
  owner _ := none
  families := []
  log := []

/-- The lock of a row can be granted to a transaction. -/
def free (s : TokenState I) (i : I) (tokenHash : String) : Bool :=
  decide (s.owner tokenHash = none ∨ s.owner tokenHash = some i)

/-- The owners once a transaction has ended. -/
def release (s : TokenState I) (i : I) (tokenHash : String) : Option I :=
  if s.owner tokenHash = some i then none else s.owner tokenHash

/-- One step, if it is possible. -/
def step (s : TokenState I) : TokenAction I → Option (TokenState I)
  | .begin i request =>
    -- the identifiers of families are random, so a new one is new
    if s.opened i = none ∧
        ∀ familyId, request.newFamily = some familyId → familyId ∉ s.families then
      some { s with
        opened := Function.update s.opened i (some request.start)
        families := request.newFamily.toList ++ s.families
        log := .begun i request :: s.log }
    else none
  | .statement i now active => do
    let t ← s.opened i
    let t' ← t.statement s.table (s.free i) now active
    some { s with
      opened := Function.update s.opened i (some t')
      -- what is locked stays locked until the end
      owner := fun tokenHash => if tokenHash ∈ t'.held then some i else s.owner tokenHash }
  | .commit i => do
    let t ← s.opened i
    match t.phase with
    | .finish outcome => do
      -- the writes become visible together
      let table ← applyWrites t.writes s.table
      some { s with
        table := table
        opened := Function.update s.opened i none
        owner := s.release i
        log := .committed i outcome :: s.log }
    | _ => none
  | .rollback i => do
    let _ ← s.opened i
    some { s with opened := Function.update s.opened i none, owner := s.release i }

/-- The state after some steps, if they are possible. -/
def run (s : TokenState I) : List (TokenAction I) → Option (TokenState I)
  | [] => some s
  | a :: rest => (s.step a).bind fun s' => s'.run rest

end TokenState

/-- One step of the system. -/
def TokenStep {I : Type} [DecidableEq I] (s s' : TokenState I) : Prop := ∃ a, s.step a = some s'

/-- A list of actions that succeeds is a run. -/
theorem TokenState.run_of_run {I : Type} [DecidableEq I] {R : TokenState I → TokenState I → Prop}
    {s s' : TokenState I} {actions : List (TokenAction I)}
    (h_step : ∀ a ∈ actions, ∀ s s', s.step a = some s' → R s s') (h : s.run actions = some s') :
    Relation.ReflTransGen R s s' := by
  induction actions generalizing s with
  | nil =>
    obtain rfl := Option.some.inj h
    exact .refl
  | cons a rest ih =>
    obtain ⟨s₁, h_first, h_rest⟩ := Option.bind_eq_some_iff.mp h
    exact (ih (fun a' h_mem => h_step a' (List.mem_cons_of_mem _ h_mem)) h_rest).head
      (h_step a List.mem_cons_self s s₁ h_first)

end DqScoring
