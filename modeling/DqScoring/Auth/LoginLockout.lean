import DqScoring.Auth.RefreshTokens
import DqScoring.Presentation.Requests

/-!
# Login and lockout

`POST /api/v1/auth/login` (`presentation/api/routes/auth_routes.py`) with the statements of
`adapters/db/login_lockout.py` on the columns `failed_login_attempts` and `locked_until` of
`users`. `SELECT … FOR UPDATE` keeps the row locked until the request's transaction ends, so
that attempts on one account follow one another; an attempt is a function of the row that it
reads. The transaction commits when a response is returned, and is rolled back when the
request raises.
-/

namespace DqScoring

open Framework

/-- A row of `users`, without its descriptive columns. -/
structure UserRow where
  userId : Uuid
  passwordHash : String
  isActive : Bool := true
  failedLoginAttempts : ℤ := 0
  lockedUntil : Option Time := none
  deriving DecidableEq

/-- A row of `tenant_memberships`. -/
structure TenantMembership where
  tenantId : Uuid
  userId : Uuid
  role : UserRole
  /-- Its status is ACTIVE. -/
  isActive : Bool
  joinedAt : Time
  deriving DecidableEq

/-- The settings of `ApiSettings` that a login reads, with their lower bounds. -/
structure LoginSettings where
  loginMaxFailedAttempts : ℤ
  loginLockoutMinutes : ℤ
  refreshTokenExpireDays : ℕ
  one_le_max : 1 ≤ loginMaxFailedAttempts
  one_le_minutes : 1 ≤ loginLockoutMinutes

/-- A request, with the clocks that it reads and what it draws at random. -/
structure LoginAttempt where
  password : String
  tenantId : Option Uuid := none
  /-- `now()` in its statements: when the transaction began. -/
  began : Time
  /-- `datetime.now(UTC)` at the check of the lock, in `_locked_response`, and when a token is
  issued. -/
  checked : Time
  answered : Time
  issuedAt : Time
  tokenHash : String := ""
  familyId : Uuid := Uuid.repeated 0

/-- What an attempt reads besides the account: the memberships and the refresh tokens. -/
structure LoginView where
  memberships : List TenantMembership
  tokens : TokenTable

/-! ### The columns of the lockout -/

/-- The largest INT. -/
def maxInt4 : ℤ := 2147483647

/-- Seconds in a minute. -/
def secondsPerMinute : ℤ := 60

/-- The UPDATE of `record_failed_login`; it fails if a number is out of range for an INT. -/
def UserRow.recordFailure (user : UserRow) (settings : LoginSettings) (now : Time) :
    Option UserRow :=
  -- the columns are 32-bit, and the UPDATE fails beyond them
  if maxInt4 < user.failedLoginAttempts + 1 ∨ maxInt4 < settings.loginLockoutMinutes then none
  else
    some { user with
      -- one UPDATE computes both columns from the row as it was
      lockedUntil :=
        if settings.loginMaxFailedAttempts ≤ user.failedLoginAttempts + 1 then
          some (now + settings.loginLockoutMinutes * secondsPerMinute)
        else user.lockedUntil
      failedLoginAttempts :=
        if settings.loginMaxFailedAttempts ≤ user.failedLoginAttempts + 1 then 0
        else user.failedLoginAttempts + 1 }

/-- `record_failed_login`: the row, and the new `locked_until` that the UPDATE returns. -/
def recordFailedLogin (settings : LoginSettings) (now : Time) (user : UserRow) :
    Option (UserRow × Option Time) :=
  (user.recordFailure settings now).map fun row =>
    (row, if row.failedLoginAttempts = 0 then row.lockedUntil else none)

/-- `reset_failed_logins`. -/
def resetFailedLogins (user : UserRow) : UserRow :=
  { user with failedLoginAttempts := 0, lockedUntil := none }

/-! ### The request -/

/-- How a request ends. -/
inductive LoginOutcome where
  /-- No account has the email. -/
  | unknownEmail
  /-- The account is locked. -/
  | lockedOut (lockedUntil : Time)
  /-- The password is wrong, and the failure is counted. -/
  | wrongPassword (newLock : Option Time)
  /-- An exception is raised. -/
  | raised (error : HttpError)
  /-- A statement fails. -/
  | failed
  /-- An access token and a refresh token are issued. -/
  | issued (user : AuthenticatedUser) (token : RefreshToken)
  deriving DecidableEq

/-- The `extensions` of a response for a locked account, with the header `Retry-After`. -/
structure LockDetails where
  reason : String := "TOO_MANY_FAILED_ATTEMPTS"
  maxFailedAttempts : ℤ
  lockedUntil : Time
  retryAfterSeconds : ℤ
  deriving DecidableEq

/-- A response. -/
inductive LoginResponse where
  | token (user : AuthenticatedUser) (refreshToken : RefreshToken)
  | problem (statusCode : ℕ) (title detail : String) (lock : Option LockDetails)
  deriving DecidableEq

/-- `_invalid_credentials`. -/
def invalidCredentials : LoginResponse :=
  .problem 401 "Unauthorized" "Invalid email or password." none

/-- `_locked_response`. -/
def lockedResponse (lockedUntil : Time) (maxAttempts : ℤ) (now : Time) : LoginResponse :=
  .problem 423 "Account locked" "Too many failed sign-in attempts. Try again later."
    (some {
      maxFailedAttempts := maxAttempts
      lockedUntil := lockedUntil
      retryAfterSeconds := max 1 (lockedUntil - now) })

/-- What a request answers; one that raises has no response of its own. -/
def LoginOutcome.response (settings : LoginSettings) (attempt : LoginAttempt) :
    LoginOutcome → Except HttpError LoginResponse
  | unknownEmail => .ok invalidCredentials
  | lockedOut lockedUntil =>
    .ok (lockedResponse lockedUntil settings.loginMaxFailedAttempts attempt.answered)
  | wrongPassword (some newLock) =>
    -- the attempt that locks the account says so
    .ok (lockedResponse newLock settings.loginMaxFailedAttempts attempt.answered)
  | wrongPassword none => .ok invalidCredentials
  | raised error => .error error
  | failed => .error ⟨500, "Internal Server Error"⟩
  | issued user token => .ok (.token user token)

/-- `ORDER BY joined_at ASC LIMIT 1`. -/
def oldestMembership : List TenantMembership → Option TenantMembership
  | [] => none
  | m :: rest =>
    match oldestMembership rest with
    | none => some m
    | some older => if older.joinedAt < m.joinedAt then some older else some m

/-- The membership that a request signs in to: that of its tenant, or else the oldest active one. -/
def loginMembership (view : LoginView) (userId : Uuid) :
    Option Uuid → Except HttpError TenantMembership
  | some tenantId =>
    match view.memberships.find? fun m =>
      -- a workspace was asked for
        decide (m.userId = userId) && decide (m.tenantId = tenantId) && m.isActive with
    | none => .error ⟨403, "User does not have active membership in requested tenant."⟩
    | some m => .ok m
  | none =>
    match oldestMembership (view.memberships.filter fun m =>
      -- otherwise the oldest membership is taken
        decide (m.userId = userId) && m.isActive) with
    | none => .error ⟨403, "User does not have active membership in any tenant."⟩
    | some m => .ok m

section Login

/- Argon2's check of a password against a hash, and the hash that stands in for unknown emails. -/
variable (verify : String → String → Bool) (equalizationHash : String)

/-- `verify_password`. -/
def verifyPassword (passwordHash : Option String) (password : String) : Bool :=
  verify (passwordHash.getD equalizationHash) password && passwordHash.isSome

/-- The end of `login`, once the password is verified: the token is issued in the transaction that
has reset the row. -/
def signIn (settings : LoginSettings) (view : LoginView) (attempt : LoginAttempt)
    (user : UserRow) : LoginOutcome :=
  -- the password was right, but the account is off
  if user.isActive = false then .raised ⟨403, "User account is deactivated."⟩
  else
    match loginMembership view user.userId attempt.tenantId with
    | .error e => .raised e
    | .ok membership =>
      -- the token is inserted in the transaction of the reset
      let token := issueRefreshToken attempt.tokenHash user.userId membership.tenantId
        settings.refreshTokenExpireDays attempt.familyId attempt.issuedAt
      if ((TokenWrite.insert token).apply view.tokens).isSome then
        .issued ⟨user.userId, membership.tenantId, membership.role⟩ token
      else .failed

/-- `login` with the row that its SELECT finds: how it ends, and the row once it has. -/
def login (settings : LoginSettings) (view : LoginView) (attempt : LoginAttempt) (user : UserRow) :
    LoginOutcome × UserRow :=
  -- the lock is tested before the password is looked at
  if user.lockedUntil.any (attempt.checked < ·) then
    (.lockedOut (user.lockedUntil.getD 0), user)
  else if verifyPassword verify equalizationHash (some user.passwordHash) attempt.password then
    match signIn settings view attempt (resetFailedLogins user) with
    -- only a token commits, so only then is the count reset
    | .issued u token => (.issued u token, resetFailedLogins user)
    | outcome => (outcome, user)
  else
    match recordFailedLogin settings attempt.began user with
    | none => (.failed, user)
    | some (row, newLock) => (.wrongPassword newLock, row)

/-! ### What an attempt does -/

/-- The ends of an attempt, with the row that each of them leaves. -/
inductive LoginEffect (settings : LoginSettings) (attempt : LoginAttempt) (user : UserRow) :
    LoginOutcome → UserRow → Prop
  | lockedOut {t : Time} (h : user.lockedUntil = some t) (h_t : attempt.checked < t) :
    LoginEffect settings attempt user (.lockedOut t) user
  | raised (e : HttpError) : LoginEffect settings attempt user (.raised e) user
  | failed : LoginEffect settings attempt user .failed user
  | issued (u : AuthenticatedUser) (token : RefreshToken)
      (h : ∀ t, user.lockedUntil = some t → t ≤ attempt.checked) :
    LoginEffect settings attempt user (.issued u token) (resetFailedLogins user)
  | counted (h : user.failedLoginAttempts + 1 < settings.loginMaxFailedAttempts) :
    LoginEffect settings attempt user (.wrongPassword none)
      { user with failedLoginAttempts := user.failedLoginAttempts + 1 }
  | locks (h : settings.loginMaxFailedAttempts ≤ user.failedLoginAttempts + 1) :
    LoginEffect settings attempt user
      (.wrongPassword (some (attempt.began + settings.loginLockoutMinutes * secondsPerMinute)))
      { user with
        lockedUntil := some (attempt.began + settings.loginLockoutMinutes * secondsPerMinute)
        failedLoginAttempts := 0 }

/-- A counted failure raises the counter, or locks at the limit. -/
theorem recordFailedLogin_cases {settings : LoginSettings} {now : Time} {user row : UserRow}
    {newLock : Option Time} (h_user : 0 ≤ user.failedLoginAttempts)
    (h : recordFailedLogin settings now user = some (row, newLock)) :
    (user.failedLoginAttempts + 1 < settings.loginMaxFailedAttempts ∧ newLock = none ∧
      row = { user with failedLoginAttempts := user.failedLoginAttempts + 1 }) ∨
    (settings.loginMaxFailedAttempts ≤ user.failedLoginAttempts + 1 ∧
      newLock = some (now + settings.loginLockoutMinutes * secondsPerMinute) ∧
      row = { user with
        lockedUntil := some (now + settings.loginLockoutMinutes * secondsPerMinute)
        failedLoginAttempts := 0 }) := by
  unfold recordFailedLogin UserRow.recordFailure at h
  split at h
  · cases h
  by_cases h_max : settings.loginMaxFailedAttempts ≤ user.failedLoginAttempts + 1
  · simp only [if_pos h_max, Option.map_some, if_true] at h
    obtain ⟨rfl, rfl⟩ := Prod.mk.inj (Option.some.inj h)
    exact Or.inr ⟨h_max, rfl, rfl⟩
  · have h_ne : user.failedLoginAttempts + 1 ≠ 0 := by omega
    simp only [if_neg h_max, Option.map_some, if_neg h_ne] at h
    obtain ⟨rfl, rfl⟩ := Prod.mk.inj (Option.some.inj h)
    exact Or.inl ⟨by omega, rfl, rfl⟩

/-- What `sign_in` answers is never a counted failure. -/
theorem signIn_not_counted (settings : LoginSettings) (view : LoginView) (attempt : LoginAttempt)
    (user : UserRow) : (∃ e, signIn settings view attempt user = .raised e) ∨
      signIn settings view attempt user = .failed ∨
      ∃ u token, signIn settings view attempt user = .issued u token := by
  unfold signIn
  split
  · exact Or.inl ⟨_, rfl⟩
  split
  · exact Or.inl ⟨_, rfl⟩
  dsimp only
  split
  · exact Or.inr (Or.inr ⟨_, _, rfl⟩)
  · exact Or.inr (Or.inl rfl)

/-- The effect of an attempt on an account whose counter is not negative. -/
theorem login_effect (settings : LoginSettings) (view : LoginView) (attempt : LoginAttempt)
    {user : UserRow} (h_user : 0 ≤ user.failedLoginAttempts) :
    LoginEffect settings attempt user
      (login verify equalizationHash settings view attempt user).1
      (login verify equalizationHash settings view attempt user).2 := by
  unfold login
  split
  · -- the lock is in force
    rename_i h_locked
    cases h_lock : user.lockedUntil with
    | none =>
      rw [h_lock] at h_locked
      cases h_locked
    | some t =>
      rw [h_lock, Option.any_some, decide_eq_true_eq] at h_locked
      exact .lockedOut h_lock h_locked
  rename_i h_locked
  split
  · -- the password is right
    obtain ⟨e, h⟩ | h | ⟨u, token, h⟩ :=
      signIn_not_counted settings view attempt (resetFailedLogins user)
    · rw [h]
      exact .raised e
    · rw [h]
      exact .failed
    · rw [h]
      refine .issued u token fun t h_t => ?_
      rw [h_t, Option.any_some, decide_eq_true_eq] at h_locked
      exact Int.not_lt.mp h_locked
  · -- the password is wrong
    cases h : recordFailedLogin settings attempt.began user with
    | none => exact .failed
    | some r =>
      obtain ⟨row, newLock⟩ := r
      obtain ⟨h_max, rfl, rfl⟩ | ⟨h_max, rfl, rfl⟩ := recordFailedLogin_cases h_user h
      · exact .counted h_max
      · exact .locks h_max

end Login

/-! ### Attempts on one account -/

namespace LoginOutcome

/-- The attempt signs in. -/
def Succeeds (outcome : LoginOutcome) : Prop := ∃ user token, outcome = issued user token

/-- The attempt locks the account. -/
def Locks (outcome : LoginOutcome) : Prop := ∃ t, outcome = wrongPassword (some t)

/-- The attempt counts a wrong password. -/
def isCounted : LoginOutcome → Bool
  | wrongPassword _ => true
  | _ => false

/-- The attempt signs in or locks the account. -/
def IsEvent (outcome : LoginOutcome) : Prop := outcome.Succeeds ∨ outcome.Locks

end LoginOutcome

/-- An attempt, what it read, how it ended, and the row before and after it. -/
structure LoginRecord where
  view : LoginView
  attempt : LoginAttempt
  before : UserRow
  outcome : LoginOutcome
  after : UserRow

/-- No lock is in force when the attempt checks it. A lock that has run out is still in its
column. -/
def LoginRecord.IsOpen (r : LoginRecord) : Prop :=
  ∀ t, r.before.lockedUntil = some t → t ≤ r.attempt.checked

/-- The settings are in range for the INT columns and casts of the UPDATE. -/
def LoginSettings.FitInt4 (settings : LoginSettings) : Prop :=
  settings.loginMaxFailedAttempts ≤ maxInt4 ∧ settings.loginLockoutMinutes ≤ maxInt4

section Runs

variable (verify : String → String → Bool) (equalizationHash : String) (settings : LoginSettings)

/-- The attempts on an account, one after the other. -/
def loginTrace : UserRow → List (LoginView × LoginAttempt) → List LoginRecord
  | _, [] => []
  | user, (view, attempt) :: rest =>
    let result := login verify equalizationHash settings view attempt user
    ⟨view, attempt, user, result.1, result.2⟩ :: loginTrace result.2 rest

/-- The row after some attempts. -/
def rowAfter (user : UserRow) (trace : List LoginRecord) : UserRow :=
  trace.foldl (fun _ r => r.after) user

/-- The counter is in the range of the settings. -/
def UserRow.InRange (settings : LoginSettings) (user : UserRow) : Prop :=
  0 ≤ user.failedLoginAttempts ∧ user.failedLoginAttempts ≤ settings.loginMaxFailedAttempts - 1

theorem inRange_zero {user : UserRow} (h : user.failedLoginAttempts = 0) :
    user.InRange settings := by
  have h_max := settings.one_le_max
  exact ⟨by omega, by omega⟩

variable {verify equalizationHash settings}

/-- Every attempt keeps the counter in range. -/
theorem LoginEffect.inRange {attempt : LoginAttempt} {user row : UserRow} {outcome : LoginOutcome}
    (h : LoginEffect settings attempt user outcome row) (h_user : user.InRange settings) :
    row.InRange settings := by
  cases h with
  | lockedOut _ _ => exact h_user
  | raised _ => exact h_user
  | failed => exact h_user
  | issued _ _ _ => exact inRange_zero settings rfl
  | counted h_max => exact ⟨Int.le_add_one h_user.1, Int.le_sub_one_of_lt h_max⟩
  | locks _ => exact inRange_zero settings rfl

/-- No attempt changes whose account it is, its password or whether it is active. -/
theorem LoginEffect.identity {attempt : LoginAttempt} {user row : UserRow} {outcome : LoginOutcome}
    (h : LoginEffect settings attempt user outcome row) :
    row.userId = user.userId ∧ row.passwordHash = user.passwordHash ∧
      row.isActive = user.isActive := by
  cases h <;> exact ⟨rfl, rfl, rfl⟩

/-- Each record of a trace is the effect of an attempt on an account whose counter is in range. -/
theorem effect_of_mem_loginTrace {attempts : List (LoginView × LoginAttempt)} {user : UserRow}
    (h_user : user.InRange settings) {r : LoginRecord}
    (h : r ∈ loginTrace verify equalizationHash settings user attempts) :
    r.before.InRange settings ∧
      LoginEffect settings r.attempt r.before r.outcome r.after := by
  induction attempts generalizing user with
  | nil => cases h
  | cons x rest ih =>
    have h_effect := login_effect verify equalizationHash settings x.1 x.2 h_user.1
    rcases List.mem_cons.mp h with rfl | h
    · exact ⟨h_user, h_effect⟩
    · exact ih (h_effect.inRange h_user) h

/-- The attempts of a trace are all made on the account that it starts with. -/
theorem identity_of_mem_loginTrace {attempts : List (LoginView × LoginAttempt)} {user : UserRow}
    (h_user : user.InRange settings) {r : LoginRecord}
    (h : r ∈ loginTrace verify equalizationHash settings user attempts) :
    r.before.userId = user.userId ∧ r.before.passwordHash = user.passwordHash ∧
      r.before.isActive = user.isActive := by
  induction attempts generalizing user with
  | nil => cases h
  | cons x rest ih =>
    have h_effect := login_effect verify equalizationHash settings x.1 x.2 h_user.1
    obtain ⟨h_id, h_hash, h_active⟩ := h_effect.identity
    rcases List.mem_cons.mp h with rfl | h
    · exact ⟨rfl, rfl, rfl⟩
    · obtain ⟨h_id', h_hash', h_active'⟩ := ih (h_effect.inRange h_user) h
      exact ⟨h_id'.trans h_id, h_hash'.trans h_hash, h_active'.trans h_active⟩

/-- A response that reports a lock reports the lock of the row, and asks to wait. -/
theorem LoginEffect.lockedUntil_of_response {attempt : LoginAttempt} {user row : UserRow}
    {outcome : LoginOutcome} (h : LoginEffect settings attempt user outcome row) {statusCode : ℕ}
    {title detail : String} {lock : LockDetails}
    (h_response : outcome.response settings attempt =
      .ok (.problem statusCode title detail (some lock))) :
    row.lockedUntil = some lock.lockedUntil ∧ 1 ≤ lock.retryAfterSeconds := by
  cases h with
  | lockedOut h_lock _ =>
    cases h_response
    exact ⟨h_lock, le_max_left _ _⟩
  | locks _ =>
    cases h_response
    exact ⟨rfl, le_max_left _ _⟩
  | _ => cases h_response

/-- A trace in two parts is the trace of the attempts in two parts. -/
theorem loginTrace_eq_append {attempts : List (LoginView × LoginAttempt)} {user : UserRow}
    {before rest : List LoginRecord}
    (h : loginTrace verify equalizationHash settings user attempts = before ++ rest) :
    ∃ later, rest = loginTrace verify equalizationHash settings (rowAfter user before) later := by
  induction before generalizing user attempts with
  | nil => exact ⟨attempts, h.symm⟩
  | cons r before ih =>
    cases attempts with
    | nil => cases h
    | cons x attempts =>
      obtain ⟨rfl, h_rest⟩ := List.cons.inj h
      exact ih h_rest

/-- The row after a trace is the row after its last record. -/
theorem rowAfter_append_singleton (user : UserRow) (before : List LoginRecord) (r : LoginRecord) :
    rowAfter user (before ++ [r]) = r.after := by
  unfold rowAfter
  rw [List.foldl_append]
  rfl

/-- A successful login and a lock leave the counter at zero. -/
theorem LoginEffect.counter_eq_zero {attempt : LoginAttempt} {user row : UserRow}
    {outcome : LoginOutcome} (h : LoginEffect settings attempt user outcome row)
    (h_event : outcome.IsEvent) : row.failedLoginAttempts = 0 := by
  cases h with
  | issued _ _ _ => rfl
  | locks _ => rfl
  | _ =>
    -- the other ends are no events
    obtain ⟨_, _, h⟩ | ⟨_, h⟩ := h_event <;> cases h

/-- Any other attempt adds a wrong password that it counts. -/
theorem LoginEffect.counter_eq_add {attempt : LoginAttempt} {user row : UserRow}
    {outcome : LoginOutcome} (h : LoginEffect settings attempt user outcome row)
    (h_none : ¬ outcome.IsEvent) :
    row.failedLoginAttempts = user.failedLoginAttempts + (if outcome.isCounted then 1 else 0) := by
  cases h with
  | issued u token _ => exact absurd (Or.inl ⟨u, token, rfl⟩) h_none
  | locks _ => exact absurd (Or.inr ⟨_, rfl⟩) h_none
  | counted _ => rfl
  | _ => exact (Int.add_zero _).symm

/-- As long as nobody signs in and nothing locks, the counter counts the wrong passwords. -/
theorem counter_eq_add_countP {attempts : List (LoginView × LoginAttempt)} {user : UserRow}
    (h_user : user.InRange settings) {between rest : List LoginRecord}
    (h : loginTrace verify equalizationHash settings user attempts = between ++ rest)
    (h_between : ∀ r ∈ between, ¬ r.outcome.IsEvent) :
    (rowAfter user between).failedLoginAttempts =
      user.failedLoginAttempts + between.countP (·.outcome.isCounted) := by
  induction between generalizing user attempts with
  | nil => exact (Int.add_zero _).symm
  | cons r between ih =>
    cases attempts with
    | nil => cases h
    | cons x attempts =>
      obtain ⟨rfl, h_rest⟩ := List.cons.inj h
      have h_effect := login_effect verify equalizationHash settings x.1 x.2 h_user.1
      have h_first := h_effect.counter_eq_add (h_between _ List.mem_cons_self)
      have h_later := ih (h_effect.inRange h_user) h_rest
        fun r h_r => h_between r (List.mem_cons_of_mem _ h_r)
      refine h_later.trans ?_
      rw [List.countP_cons, h_first]
      push_cast
      omega

/-- An event leaves the counter at zero, and so does the start. -/
theorem counter_eq_zero_of_event {attempts : List (LoginView × LoginAttempt)} {user : UserRow}
    (h_user : user.failedLoginAttempts = 0) {before rest : List LoginRecord}
    (h : loginTrace verify equalizationHash settings user attempts = before ++ rest)
    (h_before : ∀ r ∈ before.getLast?, r.outcome.IsEvent) :
    (rowAfter user before).failedLoginAttempts = 0 := by
  rcases List.eq_nil_or_concat' before with rfl | ⟨before, r, rfl⟩
  · exact h_user
  · have h_mem : r ∈ loginTrace verify equalizationHash settings user attempts := by
      rw [h]
      simp
    rw [rowAfter_append_singleton]
    refine (effect_of_mem_loginTrace (inRange_zero settings h_user) h_mem).2.counter_eq_zero ?_
    exact h_before r (by simp)

/-- Since the last event there have been at most as many wrong passwords as the settings allow, and
the last of that many locks the account. -/
theorem countP_le_max {attempts : List (LoginView × LoginAttempt)} {user : UserRow}
    (h_user : user.failedLoginAttempts = 0) {before between rest : List LoginRecord}
    {r : LoginRecord}
    (h : loginTrace verify equalizationHash settings user attempts =
      before ++ (between ++ r :: rest))
    (h_before : ∀ e ∈ before.getLast?, e.outcome.IsEvent)
    (h_between : ∀ e ∈ between, ¬ e.outcome.IsEvent) :
    ((between ++ [r]).countP (·.outcome.isCounted) : ℤ) ≤ settings.loginMaxFailedAttempts ∧
      (r.outcome.isCounted → (r.outcome.Locks ↔
        ((between ++ [r]).countP (·.outcome.isCounted) : ℤ) =
          settings.loginMaxFailedAttempts)) := by
  have h_zero := counter_eq_zero_of_event h_user h h_before
  obtain ⟨later, h_later⟩ := loginTrace_eq_append h
  -- the row that the last attempt reads has counted what is between
  have h_count := counter_eq_add_countP (inRange_zero settings h_zero) h_later.symm h_between
  obtain ⟨last, h_last⟩ := loginTrace_eq_append h_later.symm
  have h_row : r.before = rowAfter (rowAfter user before) between := by
    cases last with
    | nil => cases h_last
    | cons x last => exact congrArg LoginRecord.before (List.cons.inj h_last).1
  have h_mem : r ∈ loginTrace verify equalizationHash settings user attempts := by
    rw [h]
    simp
  obtain ⟨h_range, h_effect⟩ := effect_of_mem_loginTrace (inRange_zero settings h_user) h_mem
  rw [← h_row, h_zero, Int.zero_add] at h_count
  have h_max := h_range.2
  rw [List.countP_append, List.countP_singleton]
  push_cast
  rw [← h_count]
  generalize r.outcome = outcome at *
  generalize r.after = row at *
  cases h_effect with
  | counted h_lt =>
    refine ⟨by simp [LoginOutcome.isCounted]; omega, fun _ => ⟨?_, fun h_eq => ?_⟩⟩
    · rintro ⟨_, h⟩
      cases h
    · simp [LoginOutcome.isCounted] at h_eq
      omega
  | locks h_le =>
    refine ⟨by simp [LoginOutcome.isCounted]; omega, fun _ => ⟨fun _ => ?_, fun _ => ⟨_, rfl⟩⟩⟩
    simp [LoginOutcome.isCounted]
    omega
  | _ => exact ⟨by simp [LoginOutcome.isCounted]; omega, fun h => by cases h⟩

/-- An attempt at a locked account is refused. -/
theorem login_of_locked {attempt : LoginAttempt} {user : UserRow} {t : Time}
    (h_lock : user.lockedUntil = some t) (h_t : attempt.checked < t) (view : LoginView) :
    login verify equalizationHash settings view attempt user = (.lockedOut t, user) := by
  unfold login
  rw [h_lock, Option.any_some, decide_eq_true h_t, if_pos rfl]
  rfl

/-- On an account that is not locked the password decides: a right one goes on to sign in, a wrong
one is counted, unless a number is out of range for the UPDATE. -/
theorem login_of_open {attempt : LoginAttempt} {user : UserRow}
    (h_open : ∀ t, user.lockedUntil = some t → t ≤ attempt.checked) (view : LoginView) :
    (verifyPassword verify equalizationHash (some user.passwordHash) attempt.password = true →
      (login verify equalizationHash settings view attempt user).1 =
        signIn settings view attempt (resetFailedLogins user)) ∧
    (verifyPassword verify equalizationHash (some user.passwordHash) attempt.password = false →
      (login verify equalizationHash settings view attempt user).1.isCounted =
        (user.recordFailure settings attempt.began).isSome) := by
  have h_lock : ¬ user.lockedUntil.any (attempt.checked < ·) = true := by
    cases h : user.lockedUntil with
    | none => exact Bool.false_ne_true
    | some t =>
      rw [Option.any_some, decide_eq_true_eq]
      exact Int.not_lt.mpr (h_open t h)
  unfold login
  rw [if_neg h_lock]
  refine ⟨fun h_right => ?_, fun h_wrong => ?_⟩
  · rw [if_pos h_right]
    -- only a login that is issued keeps the row reset; the outcome is that of `signIn` always
    split
    · rename_i h_issued
      exact h_issued.symm
    · rfl
  · rw [if_neg (Bool.not_eq_true _ ▸ h_wrong)]
    unfold recordFailedLogin
    cases user.recordFailure settings attempt.began with
    | none => rfl
    | some row => rfl

/-- The UPDATE has no number out of range when the settings are in range for an INT. -/
theorem isSome_recordFailure {user : UserRow} (h_user : user.InRange settings)
    (h_settings : settings.FitInt4) (now : Time) : (user.recordFailure settings now).isSome := by
  have h_max := h_user.2
  obtain ⟨h_attempts, h_minutes⟩ := h_settings
  unfold UserRow.recordFailure
  rw [if_neg (by omega)]
  rfl

/-- Each record of a trace is one login. -/
theorem mem_loginTrace {attempts : List (LoginView × LoginAttempt)} {user : UserRow}
    {r : LoginRecord} (h : r ∈ loginTrace verify equalizationHash settings user attempts) :
    (r.outcome, r.after) = login verify equalizationHash settings r.view r.attempt r.before := by
  induction attempts generalizing user with
  | nil => cases h
  | cons x rest ih =>
    rcases List.mem_cons.mp h with rfl | h
    · rfl
    · exact ih h

/-- What is counted is a wrong password on an account that is open. -/
theorem open_of_isCounted {attempts : List (LoginView × LoginAttempt)} {user : UserRow}
    (h_user : user.InRange settings) {r : LoginRecord}
    (h : r ∈ loginTrace verify equalizationHash settings user attempts)
    (h_counted : r.outcome.isCounted) :
    r.IsOpen ∧ verifyPassword verify equalizationHash (some user.passwordHash)
      r.attempt.password = false := by
  have h_login : r.outcome =
      (login verify equalizationHash settings r.view r.attempt r.before).1 :=
    congrArg Prod.fst (mem_loginTrace h)
  rw [← (identity_of_mem_loginTrace h_user h).2.1]
  rw [h_login] at h_counted
  have h_open : r.IsOpen := by
    intro t h_lock
    by_contra h_t
    rw [login_of_locked h_lock (Int.not_le.mp h_t)] at h_counted
    cases h_counted
  refine ⟨h_open, Bool.eq_false_iff.mpr fun h_right => ?_⟩
  -- signing in counts nothing
  rw [(login_of_open h_open r.view).1 h_right] at h_counted
  obtain ⟨_, h_end⟩ | h_end | ⟨_, _, h_end⟩ :=
    signIn_not_counted settings r.view r.attempt (resetFailedLogins r.before)
  all_goals
    rw [h_end] at h_counted
    cases h_counted

/-- A wrong password on an account that is open is counted, if the settings are in range. -/
theorem isCounted_of_open {attempts : List (LoginView × LoginAttempt)} {user : UserRow}
    (h_user : user.InRange settings) (h_settings : settings.FitInt4) {r : LoginRecord}
    (h : r ∈ loginTrace verify equalizationHash settings user attempts) (h_open : r.IsOpen)
    (h_wrong : verifyPassword verify equalizationHash (some user.passwordHash)
      r.attempt.password = false) :
    r.outcome.isCounted := by
  have h_login : r.outcome =
      (login verify equalizationHash settings r.view r.attempt r.before).1 :=
    congrArg Prod.fst (mem_loginTrace h)
  have h_range := (effect_of_mem_loginTrace h_user h).1
  rw [← (identity_of_mem_loginTrace h_user h).2.1] at h_wrong
  rw [h_login, (login_of_open h_open r.view).2 h_wrong]
  exact isSome_recordFailure h_range h_settings r.attempt.began

/-- An active account with a membership signs in, if the new token is a new one. -/
theorem signIn_succeeds {view : LoginView} {attempt : LoginAttempt} {user : UserRow}
    {m : TenantMembership} (h_active : user.isActive = true)
    (h_membership : loginMembership view user.userId attempt.tenantId = .ok m)
    (h_token : ((TokenWrite.insert (issueRefreshToken attempt.tokenHash user.userId m.tenantId
      settings.refreshTokenExpireDays attempt.familyId attempt.issuedAt)).apply
        view.tokens).isSome) :
    (signIn settings view attempt user).Succeeds := by
  unfold signIn
  rw [if_neg (by rw [h_active]; decide), h_membership]
  dsimp only
  rw [if_pos h_token]
  exact ⟨_, _, rfl⟩

/-- **Login lockout.** In every sequence of attempts on a new account the counter stays below the
maximum. While the lock is in the future an attempt is refused and changes nothing; only wrong
passwords at any other time are counted, and each of them is if the settings are in range for the
columns. From one successful login or lock to the next at most the maximum of wrong passwords is
counted, and exactly the one that reaches it locks the account. A right password on an open
account signs in, and a successful login clears the counter and the lock. -/
theorem loginLockout (verify : String → String → Bool) (equalizationHash : String)
    (settings : LoginSettings) (attempts : List (LoginView × LoginAttempt)) (userId : Uuid)
    (passwordHash : String) (isActive : Bool) :
    let trace := loginTrace verify equalizationHash settings
      { userId := userId, passwordHash := passwordHash, isActive := isActive } attempts
    (∀ r ∈ trace, r.after.InRange settings) ∧
    (∀ r ∈ trace, ∀ t, r.before.lockedUntil = some t → r.attempt.checked < t →
      r.outcome = .lockedOut t ∧ r.after = r.before) ∧
    (∀ before between r rest, trace = before ++ (between ++ r :: rest) →
      (∀ e ∈ before.getLast?, e.outcome.IsEvent) → (∀ e ∈ between, ¬ e.outcome.IsEvent) →
      ((between ++ [r]).countP (·.outcome.isCounted) : ℤ) ≤ settings.loginMaxFailedAttempts ∧
      (r.outcome.isCounted → (r.outcome.Locks ↔
        ((between ++ [r]).countP (·.outcome.isCounted) : ℤ) =
          settings.loginMaxFailedAttempts))) ∧
    (∀ r ∈ trace, r.outcome.isCounted → r.IsOpen ∧
      verifyPassword verify equalizationHash (some passwordHash) r.attempt.password = false) ∧
    (settings.FitInt4 → ∀ r ∈ trace, r.IsOpen →
      verifyPassword verify equalizationHash (some passwordHash) r.attempt.password = false →
      r.outcome.isCounted) ∧
    (∀ r ∈ trace, ∀ t, r.outcome = .wrongPassword (some t) →
      t = r.attempt.began + settings.loginLockoutMinutes * secondsPerMinute ∧
      r.after.lockedUntil = some t) ∧
    (∀ r ∈ trace, r.IsOpen →
      verifyPassword verify equalizationHash (some passwordHash) r.attempt.password = true →
      isActive = true → ∀ m, loginMembership r.view userId r.attempt.tenantId = .ok m →
      ((TokenWrite.insert (issueRefreshToken r.attempt.tokenHash userId m.tenantId
        settings.refreshTokenExpireDays r.attempt.familyId r.attempt.issuedAt)).apply
          r.view.tokens).isSome → r.outcome.Succeeds) ∧
    (∀ r ∈ trace, r.outcome.Succeeds →
      r.after.failedLoginAttempts = 0 ∧ r.after.lockedUntil = none) := by
  intro trace
  have h_new : (⟨userId, passwordHash, isActive, 0, none⟩ : UserRow).failedLoginAttempts = 0 := rfl
  have h_range := inRange_zero settings h_new
  have h_effect := fun r (h : r ∈ trace) => effect_of_mem_loginTrace h_range h
  refine ⟨fun r h => (h_effect r h).2.inRange (h_effect r h).1, fun r h t h_lock h_t => ?_,
    fun before between r rest h h_before h_between => countP_le_max h_new h h_before h_between,
    fun r h => open_of_isCounted h_range h,
    fun h_settings r h => isCounted_of_open h_range h_settings h, fun r h t h_t => ?_,
    fun r h h_open h_right h_active m h_membership h_token => ?_, fun r h h_success => ?_⟩
  · -- the outcome of a record is what `login` answers in its state
    have h_login := mem_loginTrace h
    rw [login_of_locked h_lock h_t] at h_login
    exact Prod.mk.inj h_login
  · -- an event is written by the failure that locks, which clears the counter
    have h_effect := (h_effect r h).2
    generalize r.after = row at h_effect
    rw [h_t] at h_effect
    cases h_effect with
    | locks _ => exact ⟨rfl, rfl⟩
  · -- a right password of an active account without a lock is signed in
    obtain ⟨h_id, h_hash, h_is_active⟩ := identity_of_mem_loginTrace h_range h
    have h_login : r.outcome =
        (login verify equalizationHash settings r.view r.attempt r.before).1 :=
      congrArg Prod.fst (mem_loginTrace h)
    rw [h_login, (login_of_open h_open r.view).1 (h_hash ▸ h_right)]
    refine signIn_succeeds (h_is_active.trans h_active) (m := m) ?_ ?_
    · exact h_id.symm ▸ h_membership
    · exact h_id.symm ▸ h_token
  · -- a success clears the counter and the lock
    have h_effect := (h_effect r h).2
    obtain ⟨user, token, h_issued⟩ := h_success
    generalize r.after = row at h_effect
    rw [h_issued] at h_effect
    cases h_effect with
    | issued _ _ _ => exact ⟨rfl, rfl⟩

end Runs

/-! ### Two wrong passwords -/

/-- Two failures lock an account for a minute. -/
def twoAttempts : LoginSettings where
  loginMaxFailedAttempts := 2
  loginLockoutMinutes := 1
  refreshTokenExpireDays := 7
  one_le_max := by decide
  one_le_minutes := by decide

/-- The account is a member of one tenant. -/
def memberView : LoginView where
  memberships := [⟨Uuid.repeated 2, Uuid.repeated 1, .dataOwner, true, 0⟩]
  tokens := .empty

/-- An attempt at one time. -/
def attemptAt (now : Time) (password : String) : LoginView × LoginAttempt :=
  (memberView, {
    password := password
    began := now
    checked := now
    answered := now
    issuedAt := now
    tokenHash := password })

/-- Two wrong passwords, the right one within the minute, and once more after it. -/
def lockedForAMinute : List (LoginView × LoginAttempt) :=
  [attemptAt 0 "one", attemptAt 5 "two", attemptAt 20 "secret", attemptAt 65 "secret"]

/-- What those attempts did. -/
def lockedTrace : List LoginRecord :=
  loginTrace (fun hash password => hash == password) "" twoAttempts
    { userId := Uuid.repeated 1, passwordHash := "secret" } lockedForAMinute

/-- The second wrong password locks the account, which refuses the right one until the minute is
over. -/
theorem loginLockout_lockedForAMinute :
    ∃ first second third fourth : LoginRecord, lockedTrace = [first, second, third, fourth] ∧
      first.outcome.isCounted ∧ ¬ first.outcome.IsEvent ∧ second.outcome.Locks ∧
      third.outcome = .lockedOut 65 ∧ third.after = third.before ∧
      fourth.outcome.Succeeds ∧ fourth.after.failedLoginAttempts = 0 := by
  obtain ⟨-, h_refused, h_counts, -, h_counted, -, h_signs_in, h_cleared⟩ :=
    loginLockout (fun hash password => hash == password) "" twoAttempts lockedForAMinute
      (Uuid.repeated 1) "secret" true
  have h_fit : twoAttempts.FitInt4 := ⟨by decide, by decide⟩
  obtain ⟨first, second, third, fourth, h_trace, h_one, h_two, h_three, h_four⟩ :
      ∃ first second third fourth : LoginRecord, lockedTrace = [first, second, third, fourth] ∧
        (first.outcome = .wrongPassword none) ∧
        (second.IsOpen ∧ second.attempt.password = "two") ∧
        (third.before.lockedUntil = some 65 ∧ third.attempt = (attemptAt 20 "secret").2) ∧
        (fourth.before.lockedUntil = some 65 ∧
          (fourth.view, fourth.attempt) = attemptAt 65 "secret") :=
    ⟨_, _, _, _, rfl, by decide, ⟨by rintro t ⟨⟩, rfl⟩, ⟨by decide, rfl⟩, ⟨by decide, rfl⟩⟩
  rw [lockedTrace] at h_trace
  rw [h_trace] at h_refused h_counts h_counted h_signs_in h_cleared
  have h_event : ¬ first.outcome.IsEvent := by
    rw [h_one]
    rintro (⟨_, _, h⟩ | ⟨_, h⟩) <;> cases h
  have h_second : second.outcome.isCounted :=
    h_counted h_fit second (by simp) h_two.1 (by rw [h_two.2]; decide)
  have h_locks : second.outcome.Locks := by
    -- it is the second one counted since the account is new
    refine ((h_counts [] [first] second [third, fourth] rfl (by simp)
      (List.forall_mem_singleton.mpr h_event)).2 h_second).mpr ?_
    simp only [List.cons_append, List.nil_append, List.countP_cons, List.countP_nil, h_one,
      h_second]
    rfl
  obtain ⟨h_out, h_after⟩ :=
    h_refused third (by simp) 65 h_three.1 (by rw [h_three.2]; decide)
  obtain ⟨h_view, h_attempt⟩ := Prod.mk.inj h_four.2
  have h_success : fourth.outcome.Succeeds := by
    refine h_signs_in fourth (by simp) ?_ ?_ rfl
      ⟨Uuid.repeated 2, Uuid.repeated 1, .dataOwner, true, 0⟩ ?_ ?_
    · rintro t h_t
      rw [h_four.1] at h_t
      rw [h_attempt, ← Option.some.inj h_t]
    · rw [h_attempt]
      rfl
    · rw [h_view, h_attempt]
      rfl
    · rw [h_view, h_attempt]
      rfl
  have h_first : first.outcome.isCounted := by
    rw [h_one]
    rfl
  exact ⟨first, second, third, fourth, h_trace, h_first, h_event, h_locks, h_out, h_after,
    h_success, (h_cleared fourth (by simp) h_success).1⟩

end DqScoring
