import DqScoring.Framework.Transition
import Mathlib.Data.Nat.Notation
import Mathlib.Logic.Function.Basic

/-!
# The API client of the frontend

The tokens of the browser live in a module variable. `session.set` and `session.clear`
write it, and so does `refreshOnce`, a request that is shared by all the calls that were
answered 401 and that completes at some later time. JavaScript runs one continuation at a
time, so a run of the client is a list of actions, each of which runs up to its next
`await`.

`refreshOnce` writes without asking whether the session that it was started for is still
there. `sessionKept_of_timely` says when that does no harm: when no refresh completes after
its session is gone. A refresh that does signs a user in again who has signed out, and
replaces the tokens of somebody who has signed in since.
-/

namespace DqScoring

open Framework

/-! ### Session and calls -/

structure TokenResponse where
  accessToken : String
  refreshToken : String
  deriving DecidableEq, Repr

structure Tokens where
  access : String
  refresh : String
  email : String
  deriving DecidableEq, Repr

inductive ApiErrorKind where
  | http | network | timeout
  deriving DecidableEq, Repr

/-- What `send` throws: an `ApiError`, or anything else that a fetch or the reading of a
body throws. -/
inductive Thrown where
  | apiError (kind : ApiErrorKind) (status : Option ℕ)
  | other
  deriving DecidableEq, Repr

/-- The promise `refreshInFlight`: its request is on the way, or its body has returned and
the `finally` has yet to run. -/
inductive RefreshPromise where
  | sending (refreshToken : String)
  | settled (ok : Bool)
  deriving DecidableEq, Repr

/-- A call of `api`. -/
inductive ApiCall where
  | sent (auth : Bool) (bearer : Option String)
  /-- It awaits the refresh, with the error that it was answered. -/
  | waiting (err : Thrown)
  | refreshed (ok : Bool) (err : Thrown)
  | sentAgain (bearer : Option String)
  | returned
  | threw (err : Thrown)
  deriving DecidableEq, Repr

/-- The module variables of the client, and the calls by number. -/
structure ClientState where
  tokens : Option Tokens := none
  generation : ℕ := 0
  refreshInFlight : Option RefreshPromise := none
  calls : ℕ → Option ApiCall := fun _ => none

namespace ClientState

variable (s : ClientState)

def isAuthenticated : Bool := s.tokens.isSome

def accessToken : Option String := s.tokens.map Tokens.access

/-- `session.set(res, email)`. -/
def set (res : TokenResponse) (email : String) : ClientState :=
  { s with
    tokens := some ⟨res.accessToken, res.refreshToken, email⟩
    generation := if s.tokens.isNone then s.generation + 1 else s.generation }

/-- `session.clear()`. -/
def clear : ClientState := { s with tokens := none, generation := s.generation + 1 }

/-- `refreshOnce()`: joins the refresh in flight, or starts one with the token in place. -/
def refreshOnce : ClientState :=
  match s.refreshInFlight with
  | some _ => s
  | none =>
    match s.tokens.map Tokens.refresh with
    -- an empty token is falsy, as no token is
    | none | some "" => { s with refreshInFlight := some (.settled false) }
    | some refresh => { s with refreshInFlight := some (.sending refresh) }

def withCall (id : ℕ) (call : ApiCall) : ClientState :=
  { s with calls := Function.update s.calls id (some call) }

/-- The answer of the refresh request arrives. -/
def refreshAnswered : Except Thrown TokenResponse → ClientState
  | .ok res =>
    { s.set res ((s.tokens.map Tokens.email).getD "") with
      refreshInFlight := some (.settled true) }
  | .error _ => { s.clear with refreshInFlight := some (.settled false) }

/-- The `finally` of the refresh: the calls that await it go on with its result. -/
def refreshFinally (ok : Bool) : ClientState :=
  { s with
    refreshInFlight := none
    calls := fun id => (s.calls id).map fun
      | .waiting err => .refreshed ok err
      | call => call }

end ClientState

/-- Is the error an answer 401? -/
def Thrown.isUnauthorized : Thrown → Bool
  | .apiError _ status => status == some 401
  | .other => false

/-! ### Runs -/

inductive ClientAction where
  /-- The end of `login`: `session.set(res, email)`. -/
  | login (res : TokenResponse) (email : String)
  /-- The end of `logout`: `session.clear()`. -/
  | logout
  | call (id : ℕ) (auth : Bool)
  | answered (id : ℕ) (result : Except Thrown Unit)
  | resumed (id : ℕ)
  | refreshAnswered (result : Except Thrown TokenResponse)
  | refreshFinally

/-- A call of `api` is answered: a 401 on a signed-in client is refreshed, once. -/
def ClientState.answered (s : ClientState) (id : ℕ) (call : ApiCall) :
    Except Thrown Unit → Option ClientState
  | .ok _ =>
    -- an answer settles the promise of the call
    match call with
    | .sent _ _ | .sentAgain _ => some (s.withCall id .returned)
    | _ => none
  | .error err =>
    match call with
    | .sent auth _ =>
      -- only the first request of a signed-in call is refreshed
      if err.isUnauthorized && auth && s.isAuthenticated then
        some (s.refreshOnce.withCall id (.waiting err))
      else
        some (s.withCall id (.threw err))
    -- a second 401 is thrown
    | .sentAgain _ => some (s.withCall id (.threw err))
    | _ => none

def ClientState.step (s : ClientState) : ClientAction → Option ClientState
  | .login res email => some (s.set res email)
  | .logout => some s.clear
  | .call id auth =>
    match s.calls id with
    -- the token is the one at the time of the request
    | none => some (s.withCall id (.sent auth (if auth then s.accessToken else none)))
    | some _ => none
  | .answered id result => (s.calls id).bind fun call => s.answered id call result
  | .resumed id =>
    -- the call waits for the refresh it has started or joined
    match s.calls id with
    | some (.refreshed true _) => some (s.withCall id (.sentAgain s.accessToken))
    | some (.refreshed false err) => some (s.withCall id (.threw err))
    | _ => none
  | .refreshAnswered result =>
    match s.refreshInFlight with
    | some (.sending _) => some (s.refreshAnswered result)
    | _ => none
  | .refreshFinally =>
    match s.refreshInFlight with
    | some (.settled ok) => some (s.refreshFinally ok)
    | _ => none

/-! ### The history of a run -/

/-- When the session last changed hands, counted in actions; zero before anything happened. -/
structure SessionHistory where
  now : ℕ := 0
  login : ℕ := 0
  /-- The tokens that the last login stored. -/
  established : Option Tokens := none
  logout : ℕ := 0
  /-- The last `session.clear`, of a sign-out or of a refresh that failed. -/
  clear : ℕ := 0
  refreshStart : ℕ := 0

/-- The history after an action that leads from `s` to `s'`. -/
def SessionHistory.next (h : SessionHistory) (s s' : ClientState) : ClientAction → SessionHistory
  | .login _ _ => { h with now := h.now + 1, login := h.now + 1, established := s'.tokens }
  | .logout => { h with now := h.now + 1, logout := h.now + 1, clear := h.now + 1 }
  | .refreshAnswered (.error _) => { h with now := h.now + 1, clear := h.now + 1 }
  | .answered _ _ =>
    if s.refreshInFlight.isNone && s'.refreshInFlight.isSome then
      { h with now := h.now + 1, refreshStart := h.now + 1 }
    else
      { h with now := h.now + 1 }
  | _ => { h with now := h.now + 1 }

/-- A client with its history. -/
structure ClientRun where
  client : ClientState := {}
  history : SessionHistory := {}

namespace ClientRun

def step (r : ClientRun) (a : ClientAction) : Option ClientRun :=
  (r.client.step a).map fun s' => ⟨s', r.history.next r.client s' a⟩

def run (r : ClientRun) (actions : List ClientAction) : Option ClientRun :=
  actions.foldlM step r

end ClientRun

def ClientStep (r r' : ClientRun) : Prop := ∃ a, r.step a = some r'

/-- The client is signed in only by a login after the last clear, and holds the tokens of the
last login until a sign-out or a refresh that was started after it. -/
structure SessionKept (r : ClientRun) : Prop where
  signedOut : r.history.login ≤ r.history.clear → r.client.tokens = none
  established : r.history.logout < r.history.login → r.history.refreshStart < r.history.login →
    r.client.tokens = r.history.established

/-- Where the action completes a refresh, the session is still the one that it was started
for; a refresh that fails may also find its client signed out. -/
def Timely (r : ClientRun) : ClientAction → Prop
  | .refreshAnswered (.ok _) =>
    r.history.login < r.history.refreshStart ∧ r.history.clear < r.history.refreshStart
  | .refreshAnswered (.error _) =>
    r.history.login < r.history.refreshStart ∨ r.history.login ≤ r.history.logout
  | _ => True

instance (r : ClientRun) : (a : ClientAction) → Decidable (Timely r a)
  | .refreshAnswered (.ok _) => inferInstanceAs (Decidable (_ ∧ _))
  | .refreshAnswered (.error _) => inferInstanceAs (Decidable (_ ∨ _))
  | .login .. | .logout | .call .. | .answered .. | .resumed _ | .refreshFinally => .isTrue trivial

def TimelyStep (r r' : ClientRun) : Prop := ∃ a, Timely r a ∧ r.step a = some r'

/-! ### What an action does -/

/-- What an action can do to the session, as seen from the tokens and the history. -/
inductive SessionMoves (r r' : ClientRun) : ClientAction → Prop
  | login (res : TokenResponse) (email : String)
      (tokens : r'.client.tokens = some ⟨res.accessToken, res.refreshToken, email⟩)
      (history : r'.history = { r.history with
        now := r.history.now + 1, login := r.history.now + 1, established := r'.client.tokens }) :
      SessionMoves r r' (.login res email)
  | logout (tokens : r'.client.tokens = none)
      (history : r'.history = { r.history with
        now := r.history.now + 1, logout := r.history.now + 1, clear := r.history.now + 1 }) :
      SessionMoves r r' .logout
  | refreshed (res : TokenResponse) (tokens : r'.client.tokens.isSome)
      (history : r'.history = { r.history with now := r.history.now + 1 }) :
      SessionMoves r r' (.refreshAnswered (.ok res))
  | refreshFailed (err : Thrown) (tokens : r'.client.tokens = none)
      (history : r'.history = { r.history with
        now := r.history.now + 1, clear := r.history.now + 1 }) :
      SessionMoves r r' (.refreshAnswered (.error err))
  /-- A call that is answered 401 starts a refresh. -/
  | started (id : ℕ) (result : Except Thrown Unit) (tokens : r'.client.tokens = r.client.tokens)
      (signedIn : r.client.tokens.isSome)
      (history : r'.history = { r.history with
        now := r.history.now + 1, refreshStart := r.history.now + 1 }) :
      SessionMoves r r' (.answered id result)
  | other (a : ClientAction) (tokens : r'.client.tokens = r.client.tokens)
      (history : r'.history = { r.history with now := r.history.now + 1 }) :
      SessionMoves r r' a

@[simp] theorem ClientState.withCall_tokens (s : ClientState) (id : ℕ) (call : ApiCall) :
    (s.withCall id call).tokens = s.tokens :=
  rfl

@[simp] theorem ClientState.withCall_refreshInFlight (s : ClientState) (id : ℕ) (call : ApiCall) :
    (s.withCall id call).refreshInFlight = s.refreshInFlight :=
  rfl

/-- Joining or starting a refresh changes no token. -/
@[simp] theorem ClientState.refreshOnce_tokens (s : ClientState) :
    s.refreshOnce.tokens = s.tokens := by
  unfold refreshOnce
  split
  · rfl
  · split <;> rfl

variable {r r' : ClientRun}

/-- An answer leaves the session alone, and starts a refresh only while it is signed in. -/
theorem ClientState.answered_spec {s s' : ClientState} {id : ℕ} {call : ApiCall}
    {result : Except Thrown Unit} (h : s.answered id call result = some s') :
    s'.tokens = s.tokens ∧
      (s'.refreshInFlight = s.refreshInFlight ∨ s.tokens.isSome) := by
  unfold answered at h
  split at h
  · split at h <;> cases h
    all_goals exact ⟨rfl, .inl rfl⟩
  · split at h
    · split at h
      next h_expired =>
        obtain rfl := Option.some.inj h
        simp only [Bool.and_eq_true] at h_expired
        exact ⟨s.refreshOnce_tokens, .inr h_expired.2⟩
      next =>
        obtain rfl := Option.some.inj h
        exact ⟨rfl, .inl rfl⟩
    · obtain rfl := Option.some.inj h
      exact ⟨rfl, .inl rfl⟩
    · cases h

/-- What one action of the client can do, said once for the invariant. -/
theorem moves_of_clientStep {a : ClientAction} (h : r.step a = some r') : SessionMoves r r' a := by
  obtain ⟨s', h_step, rfl⟩ := Option.map_eq_some_iff.mp h
  cases a with
  | login res email =>
    -- a login stores the tokens it was answered
    obtain rfl := Option.some.inj h_step
    exact .login res email rfl rfl
  | logout =>
    -- a logout clears them at once
    obtain rfl := Option.some.inj h_step
    exact .logout rfl rfl
  | call id auth =>
    -- a call that is sent touches no token
    refine .other _ ?_ rfl
    unfold ClientState.step at h_step
    dsimp only at h_step
    split at h_step
    · obtain rfl := Option.some.inj h_step
      rfl
    · cases h_step
  | answered id result =>
    -- an answer may start a refresh, which happens for a 401 while signed in
    obtain ⟨call, -, h_answered⟩ := Option.bind_eq_some_iff.mp h_step
    obtain ⟨h_tokens, h_refresh⟩ := ClientState.answered_spec h_answered
    by_cases h_starts : (r.client.refreshInFlight.isNone && s'.refreshInFlight.isSome) = true
    · have h_signed : r.client.tokens.isSome := by
        refine h_refresh.resolve_left fun h_same => ?_
        rw [h_same, Bool.and_eq_true, Option.isNone_iff_eq_none] at h_starts
        simp [h_starts.1] at h_starts
      exact .started id result h_tokens h_signed (by simp [SessionHistory.next, h_starts])
    · exact .other _ h_tokens (by simp only [SessionHistory.next]; rw [if_neg h_starts])
  | resumed id =>
    -- a call that was waiting goes on or fails
    refine .other _ ?_ rfl
    unfold ClientState.step at h_step
    dsimp only at h_step
    split at h_step <;> cases h_step
    all_goals rfl
  | refreshAnswered result =>
    -- the answer of the refresh stores its tokens, or signs the client out
    unfold ClientState.step at h_step
    dsimp only at h_step
    split at h_step
    · obtain rfl := Option.some.inj h_step
      cases result with
      | ok res => exact .refreshed res rfl rfl
      | error err => exact .refreshFailed err rfl rfl
    · cases h_step
  | refreshFinally =>
    -- the promise of the refresh is forgotten, the tokens are not
    refine .other _ ?_ rfl
    unfold ClientState.step at h_step
    dsimp only at h_step
    split at h_step
    · obtain rfl := Option.some.inj h_step
      rfl
    · cases h_step

/-! ### The session is kept -/

/-- The invariant of the runs whose refreshes are timely. -/
structure ClientRun.Inv (r : ClientRun) : Prop where
  kept : SessionKept r
  logout_le : r.history.logout ≤ r.history.clear
  login_le : r.history.login ≤ r.history.now
  clear_le : r.history.clear ≤ r.history.now
  start_le : r.history.refreshStart ≤ r.history.now
  start_ne : r.history.refreshStart = r.history.login → r.history.login = 0
  /-- A refresh that neither a login nor a clear has followed was started signed in. -/
  started : r.history.login < r.history.refreshStart → r.history.clear < r.history.refreshStart →
    r.history.clear < r.history.login

/-- A client without calls keeps the invariant. -/
theorem ClientRun.inv_initial : ClientRun.Inv {} where
  kept := ⟨fun _ => rfl, fun h => absurd h (Nat.lt_irrefl 0)⟩
  logout_le := Nat.le_refl 0
  login_le := Nat.le_refl 0
  clear_le := Nat.le_refl 0
  start_le := Nat.le_refl 0
  start_ne _ := rfl
  started h := absurd h (Nat.lt_irrefl 0)

/-- Each timely action keeps the invariant: one case per move. -/
theorem ClientRun.Inv.step {a : ClientAction} (h : r.Inv) (h_timely : Timely r a)
    (h_moves : SessionMoves r r' a) : r'.Inv := by
  obtain ⟨⟨h_signedOut, h_established⟩, h_logout, h_login, h_clear, h_start, h_ne, h_started⟩ :=
    h
  cases h_moves with
  | login res email tokens history =>
    -- after a login the client is signed in, whatever came before
    refine ⟨⟨?_, ?_⟩, ?_, ?_, ?_, ?_, ?_, ?_⟩ <;> rewrite [history] <;> dsimp only
    · intro h_le
      omega
    · exact fun _ _ => rfl
    · omega
    · omega
    · omega
    · omega
    · omega
    · omega
  | logout tokens history =>
    -- after a logout it is not, and later refreshes are late
    refine ⟨⟨fun _ => tokens, ?_⟩, ?_, ?_, ?_, ?_, ?_, ?_⟩ <;> rewrite [history] <;> dsimp only
    · omega
    · omega
    · omega
    · omega
    · omega
    · exact h_ne
    · omega
  | refreshed res tokens history =>
    -- nothing has happened since the start, and the client was signed in then
    obtain ⟨h_login_lt, h_clear_lt⟩ := h_timely
    have h_in := h_started h_login_lt h_clear_lt
    refine ⟨⟨?_, ?_⟩, ?_, ?_, ?_, ?_, ?_, ?_⟩ <;> rewrite [history] <;> dsimp only
    · omega
    · omega
    · exact h_logout
    · omega
    · omega
    · omega
    · exact h_ne
    · exact h_started
  | refreshFailed err tokens history =>
    -- the failing refresh signs out, so its start has to be the last thing that happened
    have h_late : r.history.login < r.history.refreshStart ∨
      r.history.login ≤ r.history.logout := h_timely
    refine ⟨⟨fun _ => tokens, ?_⟩, ?_, ?_, ?_, ?_, ?_, ?_⟩ <;> rewrite [history] <;> dsimp only
    · omega
    · omega
    · omega
    · omega
    · omega
    · exact h_ne
    · omega
  | started id result tokens signedIn history =>
    -- a refresh is only started by a client that is signed in
    have h_in : r.history.clear < r.history.login := by
      by_contra h_not
      rw [h_signedOut (Nat.not_lt.mp h_not)] at signedIn
      cases signedIn
    refine ⟨⟨?_, ?_⟩, ?_, ?_, ?_, ?_, ?_, ?_⟩ <;> rewrite [history] <;> dsimp only
    · omega
    · omega
    · exact h_logout
    · omega
    · omega
    · omega
    · omega
    · omega
  | other a tokens history =>
    -- nothing that the history records has happened
    refine ⟨⟨?_, ?_⟩, ?_, ?_, ?_, ?_, ?_, ?_⟩ <;> rewrite [history] <;> dsimp only
    · exact fun h_le => tokens.trans (h_signedOut h_le)
    · exact fun h_in h_since => tokens.trans (h_established h_in h_since)
    · exact h_logout
    · omega
    · omega
    · omega
    · exact h_ne
    · exact h_started

/-- The invariant holds along every timely run. -/
theorem ClientRun.inv_of_reachable (h : Reachable (· = {}) TimelyStep r) : r.Inv := by
  refine h.invariant ?_ ?_
  · rintro _ rfl
    exact ClientRun.inv_initial
  · rintro r₁ r₂ h_inv ⟨a, h_timely, h_step⟩
    exact h_inv.step h_timely (moves_of_clientStep h_step)

/-- A refresh that replaces the tokens keeps the session only if it is timely. -/
theorem sessionKept_iff_timely {result : Except Thrown TokenResponse}
    (h : Reachable (· = {}) TimelyStep r) (h_step : r.step (.refreshAnswered result) = some r')
    (h_new : r'.client.tokens ≠ r.client.tokens) :
    SessionKept r' ↔ Timely r (.refreshAnswered result) := by
  have h_inv := ClientRun.inv_of_reachable h
  refine ⟨fun h_kept => ?_, fun h_timely =>
    (h_inv.step h_timely (moves_of_clientStep h_step)).kept⟩
  obtain ⟨h_signedOut, h_established⟩ := h_kept
  have h_logout := h_inv.logout_le
  have h_ne := h_inv.start_ne
  have h_old := h_inv.kept.established
  cases moves_of_clientStep h_step with
  | refreshed res tokens history =>
    rw [history] at h_signedOut h_established
    dsimp only at h_signedOut h_established
    have h_in : r.history.clear < r.history.login := by
      by_contra h_not
      rw [h_signedOut (Nat.not_lt.mp h_not)] at tokens
      cases tokens
    have h_since : r.history.login < r.history.refreshStart := by
      by_contra h_not
      -- the session was established after the start, so its tokens are the last login's
      have h_before : r.history.refreshStart < r.history.login := by omega
      have h_out : r.history.logout < r.history.login := by omega
      exact h_new ((h_established h_out h_before).trans (h_old h_out h_before).symm)
    exact ⟨h_since, by omega⟩
  | refreshFailed err tokens history =>
    rw [history] at h_established
    dsimp only at h_established
    show r.history.login < r.history.refreshStart ∨ r.history.login ≤ r.history.logout
    by_contra h_not
    have h_before : r.history.refreshStart < r.history.login := by omega
    have h_out : r.history.logout < r.history.login := by omega
    exact h_new ((h_established h_out h_before).trans (h_old h_out h_before).symm)
  | other _ tokens history => exact absurd tokens h_new

/-- **Session and refresh.** In every run in which each refresh completes while its session is
still there, the session is kept in every state. -/
theorem sessionKept_of_timely (h : Reachable (· = {}) TimelyStep r) : SessionKept r :=
  (ClientRun.inv_of_reachable h).kept

/-! ### Refreshes that complete too late -/

/-- The sign-in of a user, and a call of hers that is answered 401. -/
def refreshing : List ClientAction :=
  [.login ⟨"a1", "r1"⟩ "ann@example.com", .call 0 true,
    .answered 0 (.error (.apiError .http (some 401)))]

/-- A timely run: the refresh completes, the call is sent again and she signs out. -/
def timelyRun : List ClientAction :=
  refreshing ++ [.refreshAnswered (.ok ⟨"a2", "r2"⟩), .refreshFinally, .resumed 0,
    .answered 0 (.ok ()), .logout]

/-- She signs out, and the refresh completes. -/
def refreshAfterLogout : List ClientAction :=
  refreshing ++ [.logout, .refreshAnswered (.ok ⟨"a2", "r2"⟩)]

/-- She signs out, somebody else signs in, and the refresh completes. -/
def refreshAfterLogin : List ClientAction :=
  refreshing ++ [.logout, .login ⟨"b1", "s1"⟩ "bob@example.com",
    .refreshAnswered (.ok ⟨"a2", "r2"⟩)]

/-- The same, where the refresh is refused. -/
def refusedAfterLogin : List ClientAction :=
  refreshing ++ [.logout, .login ⟨"b1", "s1"⟩ "bob@example.com",
    .refreshAnswered (.error (.apiError .http (some 401)))]

/-- A run of timely steps. -/
def ClientRun.timely (r : ClientRun) (actions : List ClientAction) : Option ClientRun :=
  actions.foldlM (fun r a => if Timely r a then r.step a else none) r

/-- Actions that are timely one by one are a timely run. -/
theorem reachable_of_timely {actions : List ClientAction}
    (h : ClientRun.timely {} actions = some r) :
    Reachable (· = {}) TimelyStep r := by
  refine ⟨{}, rfl, run_of_foldlM (fun r a r' h_step => ?_) h⟩
  split at h_step
  next h_timely => exact ⟨a, h_timely, h_step⟩
  next => cases h_step

/-- Actions one by one are a run. -/
theorem reachable_of_actions {actions : List ClientAction} (h : ClientRun.run {} actions = some r) :
    Reachable (· = {}) ClientStep r :=
  ⟨{}, rfl, run_of_foldlM (fun _ a _ h_step => ⟨a, h_step⟩) h⟩

theorem sessionKept_of_timely_timelyRun :
    ∃ r, Reachable (· = {}) TimelyStep r ∧ r.history.refreshStart = 3 ∧ r.history.logout = 8 ∧
      SessionKept r := by
  have h_run : (ClientRun.timely {} timelyRun).map
      (fun r => (r.history.refreshStart, r.history.logout)) = some (3, 8) := by
    decide
  obtain ⟨r, h_timely, h_history⟩ := Option.map_eq_some_iff.mp h_run
  obtain ⟨h_start, h_logout⟩ := Prod.mk.inj h_history
  exact ⟨r, reachable_of_timely h_timely, h_start, h_logout,
    sessionKept_of_timely (reachable_of_timely h_timely)⟩

/-- A refresh signs a user in again after she has signed out, and the tokens of the next user are
replaced, or cleared, by a refresh that was started before she signed in. -/
theorem session_not_kept :
    ¬ (∀ r, Reachable (· = {}) ClientStep r → r.history.login ≤ r.history.clear →
        r.client.tokens = none) ∧
      ¬ (∀ r, Reachable (· = {}) ClientStep r → r.history.logout < r.history.login →
        r.history.refreshStart < r.history.login → r.client.tokens.isSome) ∧
      ¬ (∀ r, Reachable (· = {}) ClientStep r → r.history.logout < r.history.login →
        r.history.refreshStart < r.history.login → r.client.tokens.isSome →
        r.client.tokens = r.history.established) := by
  refine ⟨fun h => ?_, fun h => ?_, fun h => ?_⟩
  · have h_run : (ClientRun.run {} refreshAfterLogout).map
        (fun r => decide (r.history.login ≤ r.history.clear ∧ r.client.tokens.isSome)) =
          some true := by
      decide
    obtain ⟨r, h_actions, h_eq⟩ := Option.map_eq_some_iff.mp h_run
    obtain ⟨h_out, h_tokens⟩ := of_decide_eq_true h_eq
    rw [h r (reachable_of_actions h_actions) h_out] at h_tokens
    cases h_tokens
  · have h_run : (ClientRun.run {} refusedAfterLogin).map
        (fun r => decide (r.history.logout < r.history.login ∧
          r.history.refreshStart < r.history.login ∧ r.client.tokens = none)) = some true := by
      decide
    obtain ⟨r, h_actions, h_eq⟩ := Option.map_eq_some_iff.mp h_run
    obtain ⟨h_in, h_since, h_tokens⟩ := of_decide_eq_true h_eq
    have h_some := h r (reachable_of_actions h_actions) h_in h_since
    rw [h_tokens] at h_some
    cases h_some
  · have h_run : (ClientRun.run {} refreshAfterLogin).map
        (fun r => decide (r.history.logout < r.history.login ∧
          r.history.refreshStart < r.history.login ∧ r.client.tokens.isSome ∧
            r.client.tokens ≠ r.history.established)) = some true := by
      decide
    obtain ⟨r, h_actions, h_eq⟩ := Option.map_eq_some_iff.mp h_run
    obtain ⟨h_in, h_since, h_some, h_tokens⟩ := of_decide_eq_true h_eq
    exact h_tokens (h r (reachable_of_actions h_actions) h_in h_since h_some)

end DqScoring
