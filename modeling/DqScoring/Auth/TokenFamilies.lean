import DqScoring.Auth.RefreshTokens

/-!
# What a token family keeps under interleaving

In every run a family has at most one live token. A revocation ends its family only if no
rotation commits a successor that the revoking UPDATE does not see: its rows were found
before, and the row it waits for is the one that the rotation has just used.
`missesSuccessor` is that step, `CleanStep` any other one, and along clean steps the
revoked families stay dead (`revoked_families_dead`). Both follow from one invariant,
which says for each phase of a transaction what it has locked and written
(`TokenTxn.Ok`), and from what a commit does to the table (`Committed`).
-/

namespace DqScoring

open Framework

/-! ### What the phases know -/

/-- Some row of the table is of the family. -/
def HasFamily (table : TokenTable) (familyId : Uuid) : Prop :=
  ∃ tokenHash row, table.find? tokenHash = some row ∧ row.familyId = familyId

/-- The transaction has locked a row that is live. -/
structure TokenTxn.LocksLive (t : TokenTxn) (table : TokenTable) (row : RefreshToken) : Prop where
  mem_held : row.tokenHash ∈ t.held
  find : table.find? row.tokenHash = some row
  live : row.isLive = true

/-- The writes are none, or the use of a locked row. -/
def UsesAtMost (held : List String) (writes : List TokenWrite) : Prop :=
  writes = [] ∨ ∃ tokenHash now, tokenHash ∈ held ∧ writes = [.use tokenHash now]

/-- What a transaction has locked and written, phase by phase. -/
def TokenTxn.Ok (table : TokenTable) (t : TokenTxn) : Prop :=
  match t.phase with
  | .issue token none => t.writes = [] ∧ ¬ HasFamily table token.familyId
  -- a successor belongs to the family of the row that is locked
  | .issue token (some row) => t.LocksLive table row ∧ token.familyId = row.familyId ∧
      ∃ now, t.writes = [.use row.tokenHash now]
  | .present _ _ _ => t.writes = []
  | .consume row _ _ => t.LocksLive table row ∧ t.writes = []
  | .identify row _ _ => t.LocksLive table row ∧ ∃ now, t.writes = [.use row.tokenHash now]
  | .lookUp _ => t.writes = []
  | .revoke familyId _ => HasFamily table familyId ∧ UsesAtMost t.held t.writes
  -- the targets are those of the snapshot, not of the commit
  | .await familyId _ targets remaining => HasFamily table familyId ∧ UsesAtMost t.held t.writes ∧
      ∀ tokenHash ∈ targets, tokenHash ∈ remaining ∨ tokenHash ∈ t.held
  | .finish (.issued token) => t.writes = [.insert token] ∧ ¬ HasFamily table token.familyId
  | .finish (.rotated row successor) => t.LocksLive table row ∧
      successor.familyId = row.familyId ∧
      ∃ now, t.writes = [.use row.tokenHash now, .insert successor]
  | .finish (.revoked familyId _) => HasFamily table familyId ∧
      ∃ writes targets now, UsesAtMost t.held writes ∧
        -- so a row that was inserted later is not among them
        t.writes = writes ++ [.revoke familyId targets now] ∧
          ∀ tokenHash ∈ targets, tokenHash ∈ t.held
  | .finish _ => t.writes = []

/-- The family that the transaction creates. -/
def TokenTxn.newFamily (t : TokenTxn) : Option Uuid :=
  match t.phase with
  | .issue token none => some token.familyId
  | .finish (.issued token) => some token.familyId
  | _ => none

/-- The family whose rows the transaction's revoking UPDATE has found, and these rows. -/
def TokenTxn.hasRead (t : TokenTxn) : Option (Uuid × List String) :=
  match t.phase with
  | .await familyId _ targets _ => some (familyId, targets)
  | .finish (.revoked familyId _) =>
    match t.writes.getLast? with
    | some (.revoke _ targets _) => some (familyId, targets)
    | _ => none
  | _ => none

/-! ### What a commit does to the table -/

/-- Every row stays, in its family; a row that changes is dead, and was locked. -/
def Kills (held : List String) (table table' : TokenTable) : Prop :=
  ∀ tokenHash, (table.find? tokenHash = none → table'.find? tokenHash = none) ∧
    ∀ row, table.find? tokenHash = some row → ∃ row', table'.find? tokenHash = some row' ∧
      row'.familyId = row.familyId ∧ (row' = row ∨ row'.isLive = false) ∧
      (tokenHash ∉ held → row' = row)

theorem Kills.refl (held : List String) (table : TokenTable) : Kills held table table :=
  fun _ => ⟨id, fun row h => ⟨row, h, rfl, .inl rfl, fun _ => rfl⟩⟩

/-- Rows that one change killed stay dead over the next. -/
theorem Kills.trans {held : List String} {table₁ table₂ table₃ : TokenTable}
    (h : Kills held table₁ table₂) (h' : Kills held table₂ table₃) : Kills held table₁ table₃ := by
  intro tokenHash
  refine ⟨fun h_none => (h' tokenHash).1 ((h tokenHash).1 h_none), fun row h_find => ?_⟩
  obtain ⟨row₂, h_find₂, h_family₂, h_same₂, h_free₂⟩ := (h tokenHash).2 row h_find
  obtain ⟨row₃, h_find₃, h_family₃, h_same₃, h_free₃⟩ := (h' tokenHash).2 row₂ h_find₂
  refine ⟨row₃, h_find₃, h_family₃.trans h_family₂, ?_, ?_⟩
  · rcases h_same₃ with rfl | h_dead
    · exact h_same₂
    · exact .inr h_dead
  · intro h_unlocked
    rw [h_free₃ h_unlocked, h_free₂ h_unlocked]

/-- An UPDATE of locked rows that leaves no row live kills rows only. -/
theorem kills_updateWhere {held : List String} {table : TokenTable} {p : RefreshToken → Bool}
    {f : RefreshToken → RefreshToken} {hf : ∀ r, (f r).tokenHash = r.tokenHash}
    (h_held : ∀ r, p r = true → r.tokenHash ∈ held) (h_family : ∀ r, (f r).familyId = r.familyId)
    (h_dead : ∀ r, (f r).isLive = false) : Kills held table (table.updateWhere p f hf) := by
  intro tokenHash
  rw [Table.find?_updateWhere]
  refine ⟨fun h_none => by rw [h_none]; rfl, fun row h_find => ?_⟩
  have h_key : row.tokenHash = tokenHash := (Table.find?_eq_some_iff.mp h_find).2
  rw [h_find, Option.map_some]
  by_cases h_taken : p row = true
  · rw [if_pos h_taken]
    exact ⟨_, rfl, h_family row, .inr (h_dead row),
      fun h_unlocked => absurd (h_key ▸ h_held row h_taken) h_unlocked⟩
  · rw [if_neg h_taken]
    exact ⟨row, rfl, rfl, .inl rfl, fun _ => rfl⟩

/-- A used token is dead. -/
theorem RefreshToken.use_isLive (now : Time) (row : RefreshToken) :
    (row.use now).isLive = false := rfl

/-- A revoked token is dead. -/
theorem RefreshToken.revoke_isLive (now : Time) (row : RefreshToken) :
    (row.revoke now).isLive = false := Bool.and_false _

/-- The use of a locked row. -/
theorem kills_use {held : List String} {tokenHash : String} (h_held : tokenHash ∈ held)
    (now : Time) (table : TokenTable) :
    Kills held table
      (table.update tokenHash (RefreshToken.use now) (RefreshToken.use_tokenHash now)) := by
  refine kills_updateWhere (fun r h_taken => ?_) (fun _ => rfl) (RefreshToken.use_isLive now)
  rw [of_decide_eq_true h_taken]
  exact h_held

/-- Writes that use only held tokens kill, and never revive. -/
theorem kills_usesAtMost {held : List String} {writes : List TokenWrite} {table table' : TokenTable}
    (h : UsesAtMost held writes) (h_apply : applyWrites writes table = some table') :
    Kills held table table' := by
  rcases h with rfl | ⟨tokenHash, now, h_held, rfl⟩
  · obtain rfl := Option.some.inj h_apply
    exact Kills.refl held table
  · obtain rfl := Option.some.inj h_apply
    exact kills_use h_held now table

/-- The token that a transaction inserts. -/
def TokenOutcome.creates : TokenOutcome → Option RefreshToken
  | issued token => some token
  | rotated _ successor => some successor
  | _ => none

/-- What the commit of a transaction does to the table. -/
structure Committed (t : TokenTxn) (outcome : TokenOutcome) (table table' : TokenTable) : Prop where
  keeps : ∀ tokenHash row, table.find? tokenHash = some row →
    ∃ row', table'.find? tokenHash = some row' ∧ row'.familyId = row.familyId ∧
      (row' = row ∨ row'.isLive = false) ∧ (tokenHash ∉ t.held → row' = row)
  creates : ∀ tokenHash row', table'.find? tokenHash = some row' →
    table.find? tokenHash = none → outcome.creates = some row'
  issued : ∀ token, outcome = .issued token → ¬ HasFamily table token.familyId
  rotated : ∀ row successor, outcome = .rotated row successor →
    t.LocksLive table row ∧ successor.familyId = row.familyId ∧
      ∀ row', table'.find? row.tokenHash = some row' → row'.isLive = false
  revoked : ∀ familyId detail, outcome = .revoked familyId detail → HasFamily table familyId ∧
    ∃ targets, t.hasRead = some (familyId, targets) ∧ ∀ tokenHash ∈ targets, ∀ row',
      table'.find? tokenHash = some row' → row'.familyId = familyId → row'.isLive = false

/-- A transaction that inserts nothing. -/
private theorem keeps_of_kills (t : TokenTxn) (outcome : TokenOutcome) {table table' : TokenTable}
    (h : Kills t.held table table') :
    (∀ tokenHash row, table.find? tokenHash = some row →
      ∃ row', table'.find? tokenHash = some row' ∧ row'.familyId = row.familyId ∧
        (row' = row ∨ row'.isLive = false) ∧ (tokenHash ∉ t.held → row' = row)) ∧
    ∀ tokenHash row', table'.find? tokenHash = some row' →
      table.find? tokenHash = none → outcome.creates = some row' := by
  refine ⟨fun tokenHash => (h tokenHash).2, fun tokenHash row' h_find h_none => ?_⟩
  rw [(h tokenHash).1 h_none] at h_find
  cases h_find

/-- A transaction that inserts a token after its other writes. -/
private theorem keeps_of_insert (t : TokenTxn) (outcome : TokenOutcome) {token : RefreshToken}
    {table mid table' : TokenTable} (h : Kills t.held table mid)
    (h_insert : mid.insert token = some table') (h_creates : outcome.creates = some token) :
    (∀ tokenHash row, table.find? tokenHash = some row →
      ∃ row', table'.find? tokenHash = some row' ∧ row'.familyId = row.familyId ∧
        (row' = row ∨ row'.isLive = false) ∧ (tokenHash ∉ t.held → row' = row)) ∧
    ∀ tokenHash row', table'.find? tokenHash = some row' →
      table.find? tokenHash = none → outcome.creates = some row' := by
  refine ⟨fun tokenHash row h_find => ?_, fun tokenHash row' h_find h_none => ?_⟩
  · obtain ⟨row', h_find', h_rest⟩ := (h tokenHash).2 row h_find
    refine ⟨row', ?_, h_rest⟩
    rw [Table.find?_of_insert h_insert, if_neg, h_find']
    -- the key of the token was free
    rintro rfl
    rw [Table.find?_none_of_insert h_insert] at h_find'
    cases h_find'
  · rw [Table.find?_of_insert h_insert] at h_find
    by_cases h_key : tokenHash = token.tokenHash
    · rw [if_pos h_key] at h_find
      rw [h_creates, ← h_find]
    · rw [if_neg h_key, (h tokenHash).1 h_none] at h_find
      cases h_find

/-- `INSERT` of a token: the check on its expiry held. -/
private theorem insert_of_apply {token : RefreshToken} {table table' : TokenTable}
    (h : (TokenWrite.insert token).apply table = some table') :
    table.insert token = some table' := by
  change (if token.issuedAt < token.expiresAt then table.insert token else none) = some table' at h
  split at h
  · exact h
  · cases h

/-- What a transaction in its last phase commits, case by case on its outcome. -/
theorem committed_of_ok {t : TokenTxn} {outcome : TokenOutcome} {table table' : TokenTable}
    (h_ok : t.Ok table) (h_phase : t.phase = .finish outcome)
    (h_apply : applyWrites t.writes table = some table') : Committed t outcome table table' := by
  unfold TokenTxn.Ok at h_ok
  rw [h_phase] at h_ok
  cases outcome with
  | issued token =>
    -- a login has inserted one token of a new family
    obtain ⟨h_writes, h_new⟩ := h_ok
    rw [h_writes, applyWrites_cons] at h_apply
    obtain ⟨table₁, h_first, h_last⟩ := Option.bind_eq_some_iff.mp h_apply
    obtain rfl := Option.some.inj h_last
    have h_insert := insert_of_apply h_first
    obtain ⟨h_keeps, h_creates⟩ :=
      keeps_of_insert t (.issued token) (Kills.refl _ _) h_insert rfl
    refine ⟨h_keeps, h_creates, ?_, ?_, ?_⟩
    · rintro _ ⟨⟩
      exact h_new
    · rintro _ _ ⟨⟩
    · rintro _ _ ⟨⟩
  | rotated row successor =>
    -- the old token is used first and the successor inserted after it
    obtain ⟨h_locks, h_family, now, h_writes⟩ := h_ok
    rw [h_writes, applyWrites_cons] at h_apply
    obtain ⟨mid, h_first, h_rest⟩ := Option.bind_eq_some_iff.mp h_apply
    obtain rfl := Option.some.inj h_first
    rw [applyWrites_cons] at h_rest
    obtain ⟨table₁, h_second, h_last⟩ := Option.bind_eq_some_iff.mp h_rest
    obtain rfl := Option.some.inj h_last
    have h_insert := insert_of_apply h_second
    obtain ⟨h_keeps, h_creates⟩ := keeps_of_insert t (.rotated row successor)
      (kills_use h_locks.mem_held now table) h_insert rfl
    refine ⟨h_keeps, h_creates, ?_, ?_, ?_⟩
    · rintro _ ⟨⟩
    · rintro _ _ ⟨⟩
      refine ⟨h_locks, h_family, fun row' h_find => ?_⟩
      rw [Table.find?_of_insert h_insert] at h_find
      have h_used : (table.update row.tokenHash (RefreshToken.use now)
          (RefreshToken.use_tokenHash now)).find? row.tokenHash = some (row.use now) := by
        rw [Table.find?_update, if_pos rfl, h_locks.find, Option.map_some]
      -- the insert refuses a hash that is taken, so the used row is still found
      by_cases h_key : row.tokenHash = successor.tokenHash
      · have h_taken := Table.find?_none_of_insert h_insert
        rw [← h_key, h_used] at h_taken
        cases h_taken
      · rw [if_neg h_key, h_used] at h_find
        obtain rfl := Option.some.inj h_find
        exact RefreshToken.use_isLive now row
    · rintro _ _ ⟨⟩
  | revoked familyId detail =>
    -- the last write revokes what the UPDATE found, all of it held by the transaction
    obtain ⟨h_has, writes, targets, now, h_uses, h_writes, h_held⟩ := h_ok
    rw [h_writes, applyWrites_append] at h_apply
    obtain ⟨mid, h_mid, h_rest⟩ := Option.bind_eq_some_iff.mp h_apply
    rw [applyWrites_cons] at h_rest
    obtain ⟨table₁, h_second, h_last⟩ := Option.bind_eq_some_iff.mp h_rest
    obtain rfl := Option.some.inj h_last
    obtain rfl := Option.some.inj h_second
    have h_kills : Kills t.held mid (mid.updateWhere (revokedBy familyId targets)
        (RefreshToken.revoke now) (RefreshToken.revoke_tokenHash now)) := by
      refine kills_updateWhere (fun r h_taken => h_held _ ?_) (fun _ => rfl)
        (RefreshToken.revoke_isLive now)
      rw [revokedBy, Bool.and_eq_true, Bool.and_eq_true, decide_eq_true_eq] at h_taken
      exact h_taken.1.1
    obtain ⟨h_keeps, h_creates⟩ := keeps_of_kills t (.revoked familyId detail)
      ((kills_usesAtMost h_uses h_mid).trans h_kills)
    refine ⟨h_keeps, h_creates, ?_, ?_, ?_⟩
    · rintro _ ⟨⟩
    · rintro _ _ ⟨⟩
    · rintro _ _ ⟨⟩
      refine ⟨h_has, targets, ?_, fun tokenHash h_target row' h_find h_family => ?_⟩
      · simp only [TokenTxn.hasRead, h_phase, h_writes, List.getLast?_append,
          List.getLast?_singleton, Option.some_or]
      · rw [Table.find?_updateWhere] at h_find
        obtain ⟨row, h_row, rfl⟩ := Option.map_eq_some_iff.mp h_find
        have h_key : row.tokenHash = tokenHash := (Table.find?_eq_some_iff.mp h_row).2
        by_cases h_taken : revokedBy familyId targets row = true
        · rw [if_pos h_taken]
          exact RefreshToken.revoke_isLive now row
        · -- a row of the targets that is not taken was revoked before
          rw [if_neg h_taken] at h_family ⊢
          rw [revokedBy, h_key, decide_eq_true h_target, decide_eq_true h_family, Bool.true_and,
            Bool.true_and] at h_taken
          rw [RefreshToken.isLive, Bool.eq_false_iff.mpr h_taken, Bool.and_false]
  | rejected detail =>
    -- a rejection has written nothing, so the table stands
    rw [show t.writes = [] from h_ok] at h_apply
    obtain rfl := Option.some.inj h_apply
    obtain ⟨h_keeps, h_creates⟩ := keeps_of_kills t (.rejected detail)
      (Kills.refl t.held table)
    refine ⟨h_keeps, h_creates, ?_, ?_, ?_⟩
    · rintro _ ⟨⟩
    · rintro _ _ ⟨⟩
    · rintro _ _ ⟨⟩
  | ignored =>
    -- so has a request that is ignored
    rw [show t.writes = [] from h_ok] at h_apply
    obtain rfl := Option.some.inj h_apply
    obtain ⟨h_keeps, h_creates⟩ := keeps_of_kills t .ignored
      (Kills.refl t.held table)
    refine ⟨h_keeps, h_creates, ?_, ?_, ?_⟩
    · rintro _ ⟨⟩
    · rintro _ _ ⟨⟩
    · rintro _ _ ⟨⟩

/-! ### What a statement does to its transaction -/

/-- What the next statement of a transaction leaves. -/
structure TokenTxn.Continues (table : TokenTable) (free : String → Bool) (t t' : TokenTxn) :
    Prop where
  ok : t'.Ok table
  acquired : ∀ tokenHash ∈ t'.held, tokenHash ∈ t.held ∨ free tokenHash = true
  held : ∀ tokenHash ∈ t.held, tokenHash ∈ t'.held
  newFamily : ∀ familyId, t'.newFamily = some familyId → t.newFamily = some familyId
  hasRead : ∀ familyId targets, t'.hasRead = some (familyId, targets) →
    t.hasRead = some (familyId, targets) ∨
      ∃ view, UsesAtMost t.held t.writes ∧ applyWrites t.writes table = some view ∧
        targets = familyTargets familyId view

/-- A statement that creates no family and finds no rows to revoke. -/
theorem continues_of_quiet {table : TokenTable} {free : String → Bool} {t t' : TokenTxn}
    (h_ok : t'.Ok table) (h_acquired : ∀ tokenHash ∈ t'.held, tokenHash ∈ t.held ∨ free tokenHash)
    (h_held : ∀ tokenHash ∈ t.held, tokenHash ∈ t'.held) (h_new : t'.newFamily = none)
    (h_read : t'.hasRead = none) : t.Continues table free t' := by
  refine ⟨h_ok, h_acquired, h_held, fun familyId h_some => ?_, fun familyId targets h_some => ?_⟩
  · rw [h_new] at h_some
    cases h_some
  · rw [h_read] at h_some
    cases h_some

/-- More held tokens allow more uses. -/
theorem UsesAtMost.mono {held held' : List String} {writes : List TokenWrite}
    (h : UsesAtMost held writes) (h_sub : ∀ tokenHash ∈ held, tokenHash ∈ held') :
    UsesAtMost held' writes := by
  rcases h with h_none | ⟨tokenHash, now, h_held, h_use⟩
  · exact .inl h_none
  · exact .inr ⟨tokenHash, now, h_sub _ h_held, h_use⟩

/-- Each statement of a token program continues its transaction: one case per phase. -/
theorem continues_of_statement {table : TokenTable} {free : String → Bool} {now : Time}
    {active : Bool} {t t' : TokenTxn} (h_ok : t.Ok table)
    (h : t.statement table free now active = some t') : t.Continues table free t' := by
  obtain ⟨phase, held, writes⟩ := t
  -- most statements lock nothing and find no rows to revoke
  have h_same : ∀ tokenHash ∈ held, tokenHash ∈ held ∨ free tokenHash = true := fun _ => .inl
  cases phase with
  | issue token rotated =>
    -- the transaction inserts its token: a login a new one, a refresh the successor
    obtain rfl := Option.some.inj h
    cases rotated with
    | none =>
      obtain ⟨h_writes, h_new⟩ := h_ok
      obtain rfl : writes = [] := h_writes
      refine ⟨⟨rfl, h_new⟩, h_same, fun _ => id, fun _ => id, ?_⟩
      rintro _ _ ⟨⟩
    | some row =>
      obtain ⟨h_locks, h_family, now', h_writes⟩ := h_ok
      obtain rfl : writes = [.use row.tokenHash now'] := h_writes
      exact continues_of_quiet ⟨⟨h_locks.mem_held, h_locks.find, h_locks.live⟩, h_family, now', rfl⟩
        h_same (fun _ => id) rfl rfl
  | present tokenHash newHash expiresInDays =>
    -- `SELECT ... FOR UPDATE` of the presented token
    obtain rfl : writes = [] := h_ok
    simp only [TokenTxn.statement] at h
    cases h_find : table.find? tokenHash with
    | none =>
      rw [h_find] at h
      obtain rfl := Option.some.inj h
      exact continues_of_quiet rfl h_same (fun _ => id) rfl rfl
    | some row =>
      rw [h_find] at h
      simp only [Option.ite_none_right_eq_some] at h
      obtain ⟨h_free, h_eq⟩ := h
      obtain rfl := Option.some.inj h_eq
      have h_key : row.tokenHash = tokenHash := (Table.find?_eq_some_iff.mp h_find).2
      have h_acquired : ∀ h' ∈ tokenHash :: held, h' ∈ held ∨ free h' = true := by
        intro h' h_mem
        rcases List.mem_cons.mp h_mem with rfl | h_mem
        · exact .inr h_free
        · exact .inl h_mem
      have h_held : ∀ h' ∈ held, h' ∈ tokenHash :: held := fun _ => List.mem_cons_of_mem _
      simp only [presentedRow]
      -- the branches of the source after its SELECT
      by_cases h_revoked : row.revokedAt.isSome
      · rw [if_pos h_revoked]
        exact continues_of_quiet rfl h_acquired h_held rfl rfl
      rw [if_neg h_revoked]
      by_cases h_used : row.usedAt.isSome
      · rw [if_pos h_used]
        exact continues_of_quiet ⟨⟨tokenHash, row, h_find, rfl⟩, .inl rfl⟩ h_acquired h_held rfl rfl
      rw [if_neg h_used]
      by_cases h_expired : row.expiresAt < now
      · rw [if_pos h_expired]
        exact continues_of_quiet rfl h_acquired h_held rfl rfl
      · -- the row is neither used nor revoked, so it is live and its lock is held
        rw [if_neg h_expired]
        have h_live : row.isLive = true := by
          rw [Bool.not_eq_true, Option.isSome_eq_false_iff] at h_revoked h_used
          rw [RefreshToken.isLive, h_revoked, h_used, Bool.and_self]
        refine continues_of_quiet ⟨⟨?_, ?_, h_live⟩, rfl⟩ h_acquired h_held rfl rfl
        · rw [h_key]
          exact List.mem_cons_self
        · rw [h_key]
          exact h_find
  | consume row newHash expiresInDays =>
    -- the presented token is marked as used
    obtain ⟨h_locks, h_writes⟩ := h_ok
    obtain rfl : writes = [] := h_writes
    obtain rfl := Option.some.inj h
    exact continues_of_quiet ⟨⟨h_locks.mem_held, h_locks.find, h_locks.live⟩, now, rfl⟩ h_same
      (fun _ => id) rfl rfl
  | identify row newHash expiresInDays =>
    -- the owner of the token is looked up
    obtain ⟨h_locks, now', h_writes⟩ := h_ok
    obtain rfl : writes = [.use row.tokenHash now'] := h_writes
    have h_locks' : row.tokenHash ∈ held := h_locks.mem_held
    cases active with
    | true =>
      obtain rfl := Option.some.inj h
      exact continues_of_quiet ⟨⟨h_locks', h_locks.find, h_locks.live⟩, rfl, now', rfl⟩ h_same
        (fun _ => id) rfl rfl
    | false =>
      -- an owner who is not active has the family revoked
      obtain rfl := Option.some.inj h
      exact continues_of_quiet ⟨⟨_, row, h_locks.find, rfl⟩, .inr ⟨_, now', h_locks', rfl⟩⟩ h_same
        (fun _ => id) rfl rfl
  | lookUp tokenHash =>
    -- the logout reads its token without a lock
    obtain rfl : writes = [] := h_ok
    simp only [TokenTxn.statement] at h
    cases h_find : table.find? tokenHash with
    | none =>
      rw [h_find] at h
      obtain rfl := Option.some.inj h
      exact continues_of_quiet rfl h_same (fun _ => id) rfl rfl
    | some row =>
      rw [h_find] at h
      obtain rfl := Option.some.inj h
      exact continues_of_quiet ⟨⟨tokenHash, row, h_find, rfl⟩, .inl rfl⟩ h_same
        (fun _ => id) rfl rfl
  | revoke familyId detail =>
    -- the UPDATE takes its snapshot here: what it finds now is what it will revoke
    obtain ⟨h_has, h_uses⟩ := h_ok
    obtain ⟨view, h_view, rfl⟩ := Option.map_eq_some_iff.mp h
    refine ⟨⟨h_has, h_uses, fun _ => .inl⟩, h_same, fun _ => id, ?_, ?_⟩
    · rintro _ ⟨⟩
    rintro _ _ ⟨⟩
    exact .inr ⟨view, h_uses, h_view, rfl⟩
  | await familyId detail targets remaining =>
    -- one found row after the other is locked
    obtain ⟨h_has, h_uses, h_targets⟩ := h_ok
    cases remaining with
    | nil =>
      -- no row is left to lock, so the transaction holds all it has found
      obtain rfl := Option.some.inj h
      have h_held : ∀ tokenHash ∈ targets, tokenHash ∈ held := by
        intro tokenHash h_target
        exact (h_targets tokenHash h_target).resolve_left List.not_mem_nil
      refine ⟨⟨h_has, writes, targets, now, h_uses, rfl, h_held⟩, h_same, fun _ => id, ?_,
        fun familyId' targets' h_read => .inl ?_⟩
      · rintro _ ⟨⟩
      simp only [TokenTxn.hasRead, List.getLast?_append, List.getLast?_singleton,
        Option.some_or] at h_read
      exact h_read
    | cons tokenHash remaining =>
      simp only [TokenTxn.statement, Option.ite_none_right_eq_some] at h
      obtain ⟨h_free, h_eq⟩ := h
      obtain rfl := Option.some.inj h_eq
      have h_held : ∀ h' ∈ held, h' ∈ tokenHash :: held := fun _ => List.mem_cons_of_mem _
      refine ⟨⟨h_has, h_uses.mono h_held, fun h' h_target => ?_⟩, ?_, h_held, ?_,
        fun _ _ h_read => .inl h_read⟩
      · rcases h_targets h' h_target with h_left | h_got
        · rcases List.mem_cons.mp h_left with rfl | h_left
          · exact .inr List.mem_cons_self
          · exact .inl h_left
        · exact .inr (List.mem_cons_of_mem _ h_got)
      · intro h' h_mem
        rcases List.mem_cons.mp h_mem with rfl | h_mem
        · exact .inr h_free
        · exact .inl h_mem
      · rintro _ ⟨⟩
  | finish outcome => cases h

/-! ### What a commit does to the other transactions -/

section AfterCommit

variable {t u : TokenTxn} {outcome : TokenOutcome} {table table' : TokenTable}

/-- A family that is in the table stays there. -/
theorem Committed.hasFamily (h : Committed u outcome table table') {familyId : Uuid}
    (h_has : HasFamily table familyId) : HasFamily table' familyId := by
  obtain ⟨tokenHash, row, h_find, h_family⟩ := h_has
  obtain ⟨row', h_find', h_family', -⟩ := h.keeps tokenHash row h_find
  exact ⟨tokenHash, row', h_find', h_family'.trans h_family⟩

/-- A row after a commit was there before, or is the token created. -/
theorem Committed.old_or_created (h : Committed u outcome table table') {tokenHash : String}
    {row' : RefreshToken} (h_find : table'.find? tokenHash = some row') :
    (∃ row, table.find? tokenHash = some row ∧ row'.familyId = row.familyId ∧
      (row' = row ∨ row'.isLive = false)) ∨ outcome.creates = some row' := by
  cases h_old : table.find? tokenHash with
  | none => exact .inr (h.creates tokenHash row' h_find h_old)
  | some row =>
    obtain ⟨row₁, h_find₁, h_family, h_same, -⟩ := h.keeps tokenHash row h_old
    rw [h_find] at h_find₁
    obtain rfl := Option.some.inj h_find₁
    exact .inl ⟨row, rfl, h_family, h_same⟩

/-- A token created belongs to a family that was there, or is the first of its family. -/
theorem Committed.created_family (h : Committed u outcome table table') {token : RefreshToken}
    (h_created : outcome.creates = some token) :
    outcome = .issued token ∨
      ∃ row, outcome = .rotated row token ∧ u.LocksLive table row ∧
        token.familyId = row.familyId := by
  cases outcome with
  | issued token' =>
    obtain rfl := Option.some.inj h_created
    exact .inl rfl
  | rotated row successor =>
    obtain rfl := Option.some.inj h_created
    obtain ⟨h_locks, h_family, -⟩ := h.rotated row successor rfl
    exact .inr ⟨row, rfl, h_locks, h_family⟩
  | revoked familyId detail => cases h_created
  | rejected detail => cases h_created
  | ignored => cases h_created

/-- A family after a commit was there before, or is the one that a login created. -/
theorem Committed.hasFamily_or_issued (h : Committed u outcome table table') {familyId : Uuid}
    (h_has : HasFamily table' familyId) :
    HasFamily table familyId ∨ ∃ token, outcome = .issued token ∧ token.familyId = familyId := by
  obtain ⟨tokenHash, row', h_find, rfl⟩ := h_has
  rcases h.old_or_created h_find with ⟨row, h_old, h_family, -⟩ | h_created
  · exact .inl ⟨tokenHash, row, h_old, h_family.symm⟩
  · rcases h.created_family h_created with h_issued | ⟨row, -, h_locks, h_family⟩
    · exact .inr ⟨row', h_issued, rfl⟩
    · exact .inl ⟨row.tokenHash, row, h_locks.find, h_family.symm⟩

/-- What others commit does not change a row that a transaction has locked. -/
theorem Committed.locksLive (h : Committed u outcome table table') {row : RefreshToken}
    (h_disjoint : ∀ tokenHash ∈ t.held, tokenHash ∉ u.held) (h_locks : t.LocksLive table row) :
    t.LocksLive table' row := by
  obtain ⟨row', h_find', -, -, h_free⟩ := h.keeps row.tokenHash row h_locks.find
  obtain rfl := h_free (h_disjoint _ h_locks.mem_held)
  exact ⟨h_locks.mem_held, h_find', h_locks.live⟩

/-- The phases stay true while others commit. -/
theorem Committed.ok (h : Committed u outcome table table')
    (h_disjoint : ∀ tokenHash ∈ t.held, tokenHash ∉ u.held)
    (h_new : ∀ familyId, t.newFamily = some familyId →
      ∀ token, outcome = .issued token → token.familyId ≠ familyId)
    (h_ok : t.Ok table) : t.Ok table' := by
  -- a family that a transaction will create does not appear before
  have h_absent : ∀ familyId, t.newFamily = some familyId → ¬ HasFamily table familyId →
      ¬ HasFamily table' familyId := by
    intro familyId h_some h_not h_has
    rcases h.hasFamily_or_issued h_has with h_old | ⟨token, h_issued, h_family⟩
    · exact h_not h_old
    · exact h_new familyId h_some token h_issued h_family
  obtain ⟨phase, held, writes⟩ := t
  cases phase with
  | issue token rotated =>
    cases rotated with
    | none => exact ⟨h_ok.1, h_absent _ rfl h_ok.2⟩
    | some row => exact ⟨h.locksLive h_disjoint h_ok.1, h_ok.2⟩
  | present => exact h_ok
  | consume row => exact ⟨h.locksLive h_disjoint h_ok.1, h_ok.2⟩
  | identify row => exact ⟨h.locksLive h_disjoint h_ok.1, h_ok.2⟩
  | lookUp => exact h_ok
  | revoke => exact ⟨h.hasFamily h_ok.1, h_ok.2⟩
  | await => exact ⟨h.hasFamily h_ok.1, h_ok.2⟩
  | finish outcome' =>
    cases outcome' with
    | issued token => exact ⟨h_ok.1, h_absent _ rfl h_ok.2⟩
    | rotated row => exact ⟨h.locksLive h_disjoint h_ok.1, h_ok.2⟩
    | revoked => exact ⟨h.hasFamily h_ok.1, h_ok.2⟩
    | rejected => exact h_ok
    | ignored => exact h_ok

/-- Two live rows of one family are one row. -/
def OneLive (table : TokenTable) : Prop :=
  ∀ tokenHash tokenHash' row row', table.find? tokenHash = some row →
    table.find? tokenHash' = some row' → row.isLive = true → row'.isLive = true →
    row.familyId = row'.familyId → row = row'

/-- A live row after a commit was live before, or is the token created. -/
theorem Committed.live_or_created (h : Committed u outcome table table') {tokenHash : String}
    {row' : RefreshToken} (h_find : table'.find? tokenHash = some row')
    (h_live : row'.isLive = true) :
    table.find? tokenHash = some row' ∨ outcome.creates = some row' := by
  rcases h.old_or_created h_find with ⟨row, h_old, -, rfl | h_dead⟩ | h_created
  · exact .inl h_old
  · rw [h_live] at h_dead
    cases h_dead
  · exact .inr h_created

/-- An old row that is live after a commit is not of the family of the token created. -/
theorem Committed.old_live_family (h : Committed u outcome table table') (h_one : OneLive table)
    {tokenHash : String} {row token : RefreshToken} (h_find : table'.find? tokenHash = some row)
    (h_old : table.find? tokenHash = some row) (h_live : row.isLive = true)
    (h_created : outcome.creates = some token) : row.familyId ≠ token.familyId := by
  intro h_family
  rcases h.created_family h_created with h_issued | ⟨row₁, h_rotated, h_locks, h_family₁⟩
  · exact h.issued token h_issued ⟨tokenHash, row, h_old, h_family⟩
  · -- the live row of the family was the one that is used now
    obtain rfl := h_one _ _ _ _ h_old h_locks.find h_live h_locks.live (h_family.trans h_family₁)
    have h_key : row.tokenHash = tokenHash := (Table.find?_eq_some_iff.mp h_find).2
    have h_dead := (h.rotated row token h_rotated).2.2 row (h_key ▸ h_find)
    rw [h_live] at h_dead
    cases h_dead

/-- A commit leaves at most one live token per family: the old one is dead before its
successor lives. -/
theorem Committed.oneLive (h : Committed u outcome table table') (h_one : OneLive table) :
    OneLive table' := by
  intro tokenHash tokenHash' row row' h_find h_find' h_live h_live' h_family
  rcases h.live_or_created h_find h_live with h_old | h_created
  · rcases h.live_or_created h_find' h_live' with h_old' | h_created'
    · exact h_one _ _ _ _ h_old h_old' h_live h_live' h_family
    · exact absurd h_family (h.old_live_family h_one h_find h_old h_live h_created')
  · rcases h.live_or_created h_find' h_live' with h_old' | h_created'
    · exact absurd h_family.symm (h.old_live_family h_one h_find' h_old' h_live' h_created)
    · rw [h_created] at h_created'
      exact Option.some.inj h_created'

end AfterCommit

/-! ### Steps of the system -/

section Steps

variable {I : Type} [DecidableEq I] {s s' : TokenState I}

/-- What one step does, action by action. -/
inductive TokenState.Moves (s : TokenState I) : TokenAction I → TokenState I → Prop
  | began (i request) : s.opened i = none →
      (∀ familyId, request.newFamily = some familyId → familyId ∉ s.families) →
      Moves s (.begin i request)
        { s with
          opened := Function.update s.opened i (some request.start)
          families := request.newFamily.toList ++ s.families
          log := .begun i request :: s.log }
  | ran (i now active t t') : s.opened i = some t →
      t.statement s.table (s.free i) now active = some t' →
      Moves s (.statement i now active)
        { s with
          opened := Function.update s.opened i (some t')
          owner := fun tokenHash => if tokenHash ∈ t'.held then some i else s.owner tokenHash }
  | committed (i t outcome table) : s.opened i = some t → t.phase = .finish outcome →
      applyWrites t.writes s.table = some table →
      Moves s (.commit i)
        { s with
          table := table
          opened := Function.update s.opened i none
          owner := s.release i
          log := .committed i outcome :: s.log }
  | rolledBack (i t) : s.opened i = some t →
      Moves s (.rollback i)
        { s with opened := Function.update s.opened i none, owner := s.release i }

/-- What one action of the system can do, said once for all invariants. -/
theorem moves_of_step {a : TokenAction I} (h : s.step a = some s') : s.Moves a s' := by
  cases a with
  | begin i request =>
    simp only [TokenState.step, Option.ite_none_right_eq_some] at h
    obtain ⟨⟨h_free, h_fresh⟩, h_eq⟩ := h
    obtain rfl := Option.some.inj h_eq
    exact .began i request h_free h_fresh
  | statement i now active =>
    obtain ⟨t, h_open, h_rest⟩ := Option.bind_eq_some_iff.mp h
    obtain ⟨t', h_next, h_eq⟩ := Option.bind_eq_some_iff.mp h_rest
    obtain rfl := Option.some.inj h_eq
    exact .ran i now active t t' h_open h_next
  | commit i =>
    obtain ⟨t, h_open, h_rest⟩ := Option.bind_eq_some_iff.mp h
    cases h_phase : t.phase with
    | finish outcome =>
      simp only [h_phase] at h_rest
      obtain ⟨table, h_apply, h_eq⟩ := Option.bind_eq_some_iff.mp h_rest
      obtain rfl := Option.some.inj h_eq
      exact .committed i t outcome table h_open h_phase h_apply
    | _ => simp only [h_phase, reduceCtorEq] at h_rest
  | rollback i =>
    obtain ⟨t, h_open, h_eq⟩ := Option.bind_eq_some_iff.mp h
    obtain rfl := Option.some.inj h_eq
    exact .rolledBack i t h_open

/-- An open transaction after an update of one of them. -/
theorem opened_update {opened : I → Option TokenTxn} {i j : I} {x : Option TokenTxn}
    {t : TokenTxn} (h : Function.update opened i x j = some t) :
    (j = i ∧ x = some t) ∨ (j ≠ i ∧ opened j = some t) := by
  by_cases h_ji : j = i
  · subst h_ji
    rw [Function.update_self] at h
    exact .inl ⟨rfl, h⟩
  · rw [Function.update_of_ne h_ji] at h
    exact .inr ⟨h_ji, h⟩

/-- What holds in every reachable state. -/
structure TokenState.Inv (s : TokenState I) : Prop where
  ok : ∀ i t, s.opened i = some t → t.Ok s.table
  owned : ∀ i t, s.opened i = some t → ∀ tokenHash ∈ t.held, s.owner tokenHash = some i
  rowFamilies : ∀ familyId, HasFamily s.table familyId → familyId ∈ s.families
  newFamilies : ∀ i t familyId, s.opened i = some t → t.newFamily = some familyId →
    familyId ∈ s.families
  distinct : ∀ i j t t' familyId, i ≠ j → s.opened i = some t → s.opened j = some t' →
    t.newFamily = some familyId → t'.newFamily ≠ some familyId
  oneLive : OneLive s.table

omit [DecidableEq I] in
/-- The empty table keeps the invariant. -/
theorem TokenState.inv_initial : (TokenState.initial : TokenState I).Inv where
  ok _ _ h := by cases h
  owned _ _ h := by cases h
  rowFamilies _ h := by
    obtain ⟨_, _, h_find, -⟩ := h
    cases h_find
  newFamilies _ _ _ h := by cases h
  distinct _ _ _ _ _ _ h := by cases h
  oneLive _ _ _ _ h := by cases h

omit [DecidableEq I] in
/-- The locks of two open transactions are different rows. -/
theorem TokenState.Inv.disjoint (h : s.Inv) {i j : I} {t u : TokenTxn} (h_ne : i ≠ j)
    (hi : s.opened i = some t) (hj : s.opened j = some u) :
    ∀ tokenHash ∈ t.held, tokenHash ∉ u.held := by
  intro tokenHash h_mem h_mem'
  have h_owner := h.owned i t hi tokenHash h_mem
  rw [h.owned j u hj tokenHash h_mem'] at h_owner
  exact h_ne (Option.some.inj h_owner).symm

omit [DecidableEq I] in
/-- What the commit of an open transaction does to the table. -/
theorem TokenState.Inv.committed (h : s.Inv) {i : I} {t : TokenTxn} {outcome : TokenOutcome}
    {table : TokenTable} (h_open : s.opened i = some t) (h_phase : t.phase = .finish outcome)
    (h_apply : applyWrites t.writes s.table = some table) : Committed t outcome s.table table :=
  committed_of_ok (h.ok i t h_open) h_phase h_apply

/-- The locks of a transaction that stays open are not released. -/
theorem TokenState.owner_release {i j : I} {tokenHash : String} (h_ne : j ≠ i)
    (h : s.owner tokenHash = some j) : s.release i tokenHash = some j := by
  rw [release, if_neg, h]
  rw [h]
  exact fun h_eq => h_ne (Option.some.inj h_eq)

theorem TokenRequest.newFamily_start (request : TokenRequest) :
    request.start.newFamily = request.newFamily := by
  cases request with
  | login => rfl
  | refresh => rfl
  | logout => rfl

/-- Each action keeps the invariant of the families: one case per action. -/
theorem TokenState.Inv.step (h : s.Inv) {a : TokenAction I} (h_moves : s.Moves a s') : s'.Inv := by
  cases h_moves with
  | began i request h_free h_fresh =>
    -- a new transaction holds no lock and has read nothing
    refine ⟨?_, ?_, ?_, ?_, ?_, h.oneLive⟩
    · intro j t h_open
      rcases opened_update h_open with ⟨rfl, h_new⟩ | ⟨-, h_old⟩
      · obtain rfl := Option.some.inj h_new
        cases request with
        | login tokenHash familyId userId tenantId expiresInDays now =>
          -- the family of a login is drawn afresh, so no row has it
          exact ⟨rfl, fun h_has => h_fresh familyId rfl (h.rowFamilies familyId h_has)⟩
        | refresh => rfl
        | logout => rfl
      · exact h.ok j t h_old
    · intro j t h_open tokenHash h_mem
      rcases opened_update h_open with ⟨rfl, h_new⟩ | ⟨-, h_old⟩
      · obtain rfl := Option.some.inj h_new
        cases request <;> cases h_mem
      · exact h.owned j t h_old tokenHash h_mem
    · intro familyId h_has
      exact List.mem_append_right _ (h.rowFamilies familyId h_has)
    · intro j t familyId h_open h_family
      rcases opened_update h_open with ⟨rfl, h_new⟩ | ⟨-, h_old⟩
      · obtain rfl := Option.some.inj h_new
        rw [TokenRequest.newFamily_start] at h_family
        exact List.mem_append_left _ (Option.mem_toList.mpr h_family)
      · exact List.mem_append_right _ (h.newFamilies j t familyId h_old h_family)
    · intro j k t t' familyId h_ne h_open h_open' h_family h_family'
      rcases opened_update h_open with ⟨rfl, h_new⟩ | ⟨-, h_old⟩
      · obtain rfl := Option.some.inj h_new
        rcases opened_update h_open' with ⟨rfl, -⟩ | ⟨-, h_old'⟩
        · exact h_ne rfl
        · -- no other transaction can know the drawn family
          rw [TokenRequest.newFamily_start] at h_family
          exact h_fresh familyId h_family (h.newFamilies k t' familyId h_old' h_family')
      · rcases opened_update h_open' with ⟨rfl, h_new'⟩ | ⟨-, h_old'⟩
        · obtain rfl := Option.some.inj h_new'
          rw [TokenRequest.newFamily_start] at h_family'
          exact h_fresh familyId h_family' (h.newFamilies j t familyId h_old h_family)
        · exact h.distinct j k t t' familyId h_ne h_old h_old' h_family h_family'
  | ran i now active t t' h_open_i h_next =>
    -- a statement moves its own transaction only, in the ways of `Continues`
    have h_cont := continues_of_statement (h.ok i t h_open_i) h_next
    refine ⟨?_, ?_, h.rowFamilies, ?_, ?_, h.oneLive⟩
    · intro j u h_open
      rcases opened_update h_open with ⟨rfl, h_new⟩ | ⟨-, h_old⟩
      · obtain rfl := Option.some.inj h_new
        exact h_cont.ok
      · exact h.ok j u h_old
    · intro j u h_open tokenHash h_mem
      show (if tokenHash ∈ t'.held then some i else s.owner tokenHash) = some j
      rcases opened_update h_open with ⟨rfl, h_new⟩ | ⟨h_ne, h_old⟩
      · obtain rfl := Option.some.inj h_new
        rw [if_pos h_mem]
      · have h_owner := h.owned j u h_old tokenHash h_mem
        rw [if_neg, h_owner]
        -- a lock that another transaction owns is not granted
        intro h_mem'
        rcases h_cont.acquired tokenHash h_mem' with h_had | h_granted
        · exact h.disjoint h_ne h_old h_open_i tokenHash h_mem h_had
        · rcases of_decide_eq_true h_granted with h_none | h_mine
          · rw [h_owner] at h_none
            cases h_none
          · rw [h_owner] at h_mine
            exact h_ne (Option.some.inj h_mine)
    · intro j u familyId h_open h_family
      rcases opened_update h_open with ⟨rfl, h_new⟩ | ⟨-, h_old⟩
      · obtain rfl := Option.some.inj h_new
        exact h.newFamilies j t familyId h_open_i (h_cont.newFamily familyId h_family)
      · exact h.newFamilies j u familyId h_old h_family
    · intro j k u u' familyId h_ne h_open h_open' h_family h_family'
      rcases opened_update h_open with ⟨rfl, h_new⟩ | ⟨-, h_old⟩
      · obtain rfl := Option.some.inj h_new
        rcases opened_update h_open' with ⟨rfl, -⟩ | ⟨-, h_old'⟩
        · exact h_ne rfl
        · exact h.distinct j k t u' familyId h_ne h_open_i h_old'
            (h_cont.newFamily familyId h_family) h_family'
      · rcases opened_update h_open' with ⟨rfl, h_new'⟩ | ⟨-, h_old'⟩
        · obtain rfl := Option.some.inj h_new'
          exact h.distinct j k u t familyId h_ne h_old h_open_i h_family
            (h_cont.newFamily familyId h_family')
        · exact h.distinct j k u u' familyId h_ne h_old h_old' h_family h_family'
  | committed i t outcome table h_open_i h_phase h_apply =>
    -- a commit empties the slot of its transaction and changes the table
    have h_committed := h.committed h_open_i h_phase h_apply
    refine ⟨?_, ?_, ?_, ?_, ?_, h_committed.oneLive h.oneLive⟩
    · intro j u h_open
      rcases opened_update h_open with ⟨-, h_new⟩ | ⟨h_ne, h_old⟩
      · cases h_new
      · refine h_committed.ok (h.disjoint h_ne h_old h_open_i) ?_ (h.ok j u h_old)
        intro familyId h_family token h_issued h_eq
        -- two logins create two families
        refine h.distinct j i u t familyId h_ne h_old h_open_i h_family ?_
        rw [TokenTxn.newFamily, h_phase, h_issued]
        exact congrArg some h_eq
    · intro j u h_open tokenHash h_mem
      rcases opened_update h_open with ⟨-, h_new⟩ | ⟨h_ne, h_old⟩
      · cases h_new
      · exact TokenState.owner_release h_ne (h.owned j u h_old tokenHash h_mem)
    · intro familyId h_has
      -- the family was in the table, or this transaction has issued its first token
      rcases h_committed.hasFamily_or_issued h_has with h_old | ⟨token, h_issued, rfl⟩
      · exact h.rowFamilies familyId h_old
      · refine h.newFamilies i t token.familyId h_open_i ?_
        rw [TokenTxn.newFamily, h_phase, h_issued]
    · intro j u familyId h_open h_family
      rcases opened_update h_open with ⟨-, h_new⟩ | ⟨-, h_old⟩
      · cases h_new
      · exact h.newFamilies j u familyId h_old h_family
    · intro j k u u' familyId h_ne h_open h_open'
      rcases opened_update h_open with ⟨-, h_new⟩ | ⟨-, h_old⟩
      · cases h_new
      rcases opened_update h_open' with ⟨-, h_new'⟩ | ⟨-, h_old'⟩
      · cases h_new'
      exact h.distinct j k u u' familyId h_ne h_old h_old'
  | rolledBack i t h_open_i =>
    -- a rollback releases the locks and leaves the table
    refine ⟨?_, ?_, h.rowFamilies, ?_, ?_, h.oneLive⟩
    · intro j u h_open
      rcases opened_update h_open with ⟨-, h_new⟩ | ⟨-, h_old⟩
      · cases h_new
      · exact h.ok j u h_old
    · intro j u h_open tokenHash h_mem
      rcases opened_update h_open with ⟨-, h_new⟩ | ⟨h_ne, h_old⟩
      · cases h_new
      · exact TokenState.owner_release h_ne (h.owned j u h_old tokenHash h_mem)
    · intro j u familyId h_open h_family
      rcases opened_update h_open with ⟨-, h_new⟩ | ⟨-, h_old⟩
      · cases h_new
      · exact h.newFamilies j u familyId h_old h_family
    · intro j k u u' familyId h_ne h_open h_open'
      rcases opened_update h_open with ⟨-, h_new⟩ | ⟨-, h_old⟩
      · cases h_new
      rcases opened_update h_open' with ⟨-, h_new'⟩ | ⟨-, h_old'⟩
      · cases h_new'
      exact h.distinct j k u u' familyId h_ne h_old h_old'

/-- The invariant holds in every reachable state. -/
theorem inv_of_reachable (h : Reachable (· = TokenState.initial) TokenStep s) : s.Inv := by
  refine h.invariant ?_ ?_
  · rintro _ rfl
    exact TokenState.inv_initial
  · rintro s₁ s₂ h_inv ⟨a, h_step⟩
    exact h_inv.step (moves_of_step h_step)

/-! ### Runs in which no successor is missed -/

/-- The step commits a rotation while another transaction's revoking UPDATE of the family has found
its rows already: the UPDATE does not see the successor. -/
def TokenState.MissesSuccessor (s : TokenState I) (a : TokenAction I) : Prop :=
  ∃ j t row successor, a = .commit j ∧ s.opened j = some t ∧
    t.phase = .finish (.rotated row successor) ∧
    ∃ i u targets, i ≠ j ∧ s.opened i = some u ∧ u.hasRead = some (row.familyId, targets)

/-- A step that misses no successor. -/
def CleanStep (s s' : TokenState I) : Prop := ∃ a, s.step a = some s' ∧ ¬ s.MissesSuccessor a

/-- The live rows of a family. -/
def LiveIn (table : TokenTable) (familyId : Uuid) (targets : List String) : Prop :=
  ∀ tokenHash row, table.find? tokenHash = some row → row.isLive = true →
    row.familyId = familyId → tokenHash ∈ targets

/-- What holds in every state reached by clean steps. -/
structure TokenState.CleanInv (s : TokenState I) : Prop where
  inv : s.Inv
  /-- A revoking UPDATE has found every live row of its family. -/
  seen : ∀ i t familyId targets, s.opened i = some t → t.hasRead = some (familyId, targets) →
    LiveIn s.table familyId targets
  /-- A revoked family has no live row. -/
  dead : ∀ i familyId detail, .committed i (.revoked familyId detail) ∈ s.log →
    HasFamily s.table familyId ∧ LiveIn s.table familyId []

/-- The rows that a revoking UPDATE finds include the live ones. -/
theorem liveIn_familyTargets {held : List String} {writes : List TokenWrite}
    {table view : TokenTable} (h : UsesAtMost held writes)
    (h_apply : applyWrites writes table = some view) (familyId : Uuid) :
    LiveIn table familyId (familyTargets familyId view) := by
  intro tokenHash row h_find h_live h_family
  rw [RefreshToken.isLive, Bool.and_eq_true] at h_live
  -- the own writes of the transaction revoke nothing
  obtain ⟨row', h_find', h_family', h_revoked⟩ : ∃ row', view.find? tokenHash = some row' ∧
      row'.familyId = familyId ∧ row'.revokedAt.isNone = true := by
    rcases h with rfl | ⟨tokenHash', now, -, rfl⟩
    · obtain rfl := Option.some.inj h_apply
      exact ⟨row, h_find, h_family, h_live.2⟩
    · obtain rfl := Option.some.inj h_apply
      by_cases h_key : tokenHash = tokenHash'
      · refine ⟨row.use now, ?_, h_family, h_live.2⟩
        rw [Table.find?_update, if_pos h_key, ← h_key, h_find, Option.map_some]
      · refine ⟨row, ?_, h_family, h_live.2⟩
        rw [Table.find?_update, if_neg h_key, h_find]
  obtain ⟨h_mem, h_hash⟩ := Table.find?_eq_some_iff.mp h_find'
  refine List.mem_map.mpr ⟨row', List.mem_filter.mpr ⟨h_mem, ?_⟩, h_hash⟩
  rw [h_revoked, Bool.and_true]
  exact decide_eq_true h_family'

/-- A transaction that has found rows to revoke works on a family that is there. -/
theorem hasFamily_of_hasRead {t : TokenTxn} {table : TokenTable} (h_ok : t.Ok table)
    {familyId : Uuid} {targets : List String} (h : t.hasRead = some (familyId, targets)) :
    HasFamily table familyId := by
  obtain ⟨phase, held, writes⟩ := t
  cases phase with
  | await =>
    obtain ⟨rfl, rfl⟩ := Prod.mk.inj (Option.some.inj h)
    exact h_ok.1
  | finish outcome =>
    cases outcome with
    | revoked =>
      obtain ⟨h_has, writes', targets', now, -, h_writes, -⟩ := h_ok
      obtain rfl : writes = writes' ++ _ := h_writes
      simp only [TokenTxn.hasRead, List.getLast?_append, List.getLast?_singleton,
        Option.some_or, Option.some.injEq, Prod.mk.injEq] at h
      exact h.1 ▸ h_has
    | issued => cases h
    | rotated => cases h
    | rejected => cases h
    | ignored => cases h
  | issue => cases h
  | present => cases h
  | consume => cases h
  | identify => cases h
  | lookUp => cases h
  | revoke => cases h

/-- A commit that creates no token in a family adds no live row to it. -/
theorem Committed.liveIn {t : TokenTxn} {outcome : TokenOutcome} {table table' : TokenTable}
    (h : Committed t outcome table table') {familyId : Uuid} {targets : List String}
    (h_has : HasFamily table familyId) (h_live : LiveIn table familyId targets)
    (h_other : ∀ row successor, outcome = .rotated row successor → row.familyId ≠ familyId) :
    LiveIn table' familyId targets := by
  intro tokenHash row h_find h_row_live h_family
  -- a live row is an old one, or the token that this commit has created
  rcases h.live_or_created h_find h_row_live with h_old | h_created
  · exact h_live tokenHash row h_old h_row_live h_family
  · -- an issued token has a new family, a rotated one the family of its predecessor
    rcases h.created_family h_created with h_issued | ⟨row₁, h_rotated, -, h_family₁⟩
    · exact absurd (h_family ▸ h_has) (h.issued row h_issued)
    · exact absurd (h_family₁.symm.trans h_family) (h_other row₁ row h_rotated)

/-- As long as no revocation misses a successor, a revoked family has no live token and none
on its way. -/
theorem TokenState.CleanInv.step (h : s.CleanInv) {a : TokenAction I} (h_moves : s.Moves a s')
    (h_clean : ¬ s.MissesSuccessor a) : s'.CleanInv := by
  refine ⟨h.inv.step h_moves, ?_, ?_⟩
  · -- first the UPDATEs that have found their rows
    cases h_moves with
    | began i request h_free h_fresh =>
      -- a transaction that has just begun has found nothing
      intro j t familyId targets h_open h_read
      rcases opened_update h_open with ⟨-, h_new⟩ | ⟨-, h_old⟩
      · obtain rfl := Option.some.inj h_new
        cases request <;> cases h_read
      · exact h.seen j t familyId targets h_old h_read
    | ran i now active t t' h_open_i h_next =>
      intro j u familyId targets h_open h_read
      rcases opened_update h_open with ⟨-, h_new⟩ | ⟨-, h_old⟩
      · obtain rfl := Option.some.inj h_new
        have h_cont := continues_of_statement (h.inv.ok i t h_open_i) h_next
        -- what this statement has found is what is live now; what was found before is covered
        -- already
        rcases h_cont.hasRead familyId targets h_read with h_before | ⟨view, h_uses, h_view, rfl⟩
        · exact h.seen i t familyId targets h_open_i h_before
        · exact liveIn_familyTargets h_uses h_view familyId
      · exact h.seen j u familyId targets h_old h_read
    | committed i t outcome table h_open_i h_phase h_apply =>
      intro j u familyId targets h_open h_read
      rcases opened_update h_open with ⟨-, h_new⟩ | ⟨h_ne, h_old⟩
      · cases h_new
      · -- the committing transaction is no longer open, the others keep what they have found
        have h_has := hasFamily_of_hasRead (h.inv.ok j u h_old) h_read
        refine (h.inv.committed h_open_i h_phase h_apply).liveIn h_has
          (h.seen j u familyId targets h_old h_read) ?_
        -- a successor that this UPDATE does not see is what the step would miss
        rintro row successor rfl rfl
        exact h_clean ⟨i, t, row, successor, rfl, h_open_i, h_phase, j, u, targets, h_ne, h_old,
          h_read⟩
    | rolledBack i t h_open_i =>
      -- a rollback adds no row
      intro j u familyId targets h_open h_read
      rcases opened_update h_open with ⟨-, h_new⟩ | ⟨-, h_old⟩
      · cases h_new
      · exact h.seen j u familyId targets h_old h_read
  · -- then the revocations that are committed
    cases h_moves with
    | began i request h_free h_fresh =>
      -- beginning commits nothing
      intro j familyId detail h_mem
      rcases List.mem_cons.mp h_mem with h_event | h_mem
      · cases h_event
      · exact h.dead j familyId detail h_mem
    -- a statement commits nothing either
    | ran => exact h.dead
    | committed i t outcome table h_open_i h_phase h_apply =>
      have h_committed := h.inv.committed h_open_i h_phase h_apply
      intro j familyId detail h_mem
      rcases List.mem_cons.mp h_mem with h_event | h_mem
      · -- the family is revoked now: its live rows were all found
        obtain ⟨rfl, rfl⟩ := TokenEvent.committed.inj h_event
        obtain ⟨h_has, targets, h_read, h_dead⟩ := h_committed.revoked familyId detail rfl
        refine ⟨h_committed.hasFamily h_has, fun tokenHash row h_find h_live h_family => ?_⟩
        have h_seen := h_committed.liveIn h_has (h.seen j t familyId targets h_open_i h_read) <| by
          rintro _ _ ⟨⟩
        have h_row_dead := h_dead tokenHash (h_seen tokenHash row h_find h_live h_family) row h_find
          h_family
        rw [h_live] at h_row_dead
        cases h_row_dead
      · -- an older revocation: this commit may not bring the family back to life
        obtain ⟨h_has, h_live⟩ := h.dead j familyId detail h_mem
        refine ⟨h_committed.hasFamily h_has, h_committed.liveIn h_has h_live ?_⟩
        -- a rotation needs a live row, and the family has none
        rintro row successor rfl h_family
        obtain ⟨h_locks, -, -⟩ := h_committed.rotated row successor rfl
        exact List.not_mem_nil (h_live _ row h_locks.find h_locks.live h_family)
    -- neither does a rollback
    | rolledBack => exact h.dead

omit [DecidableEq I] in
/-- The empty table has no revoked family. -/
theorem TokenState.cleanInv_initial : (TokenState.initial : TokenState I).CleanInv where
  inv := TokenState.inv_initial
  seen _ _ _ _ h := by cases h
  dead _ _ _ h := by cases h

/-- The invariant holds in every state that clean steps reach. -/
theorem cleanInv_of_reachable (h : Reachable (· = TokenState.initial) CleanStep s) :
    s.CleanInv := by
  refine h.invariant ?_ ?_
  · rintro _ rfl
    exact TokenState.cleanInv_initial
  · rintro s₁ s₂ h_inv ⟨a, h_step, h_clean⟩
    exact h_inv.step (moves_of_step h_step) h_clean

/-- A rotation that commits has used a live row. -/
theorem rotated_live (h : s.Inv) {a : TokenAction I} (h_step : s.step a = some s') {j : I}
    {row successor : RefreshToken}
    (h_log : s'.log = .committed j (.rotated row successor) :: s.log) :
    s.table.find? row.tokenHash = some row ∧ row.isLive = true := by
  cases moves_of_step h_step with
  | began i request =>
    obtain ⟨h_event, -⟩ := List.cons.inj h_log
    cases h_event
  | ran => exact absurd h_log.symm (List.cons_ne_self _ _)
  | committed i t outcome table h_open h_phase h_apply =>
    obtain ⟨h_event, -⟩ := List.cons.inj h_log
    obtain ⟨rfl, rfl⟩ := TokenEvent.committed.inj h_event
    have h_locks := ((h.committed h_open h_phase h_apply).rotated row successor rfl).1
    exact ⟨h_locks.find, h_locks.live⟩
  | rolledBack => exact absurd h_log.symm (List.cons_ne_self _ _)

/-- **Token families.** In every run a family has at most one token that is unused and unrevoked.
In every run whose steps miss no successor, no token of a family is rotated after a revocation
of the family is committed. -/
theorem token_families :
    (∀ s : TokenState I, Reachable (· = TokenState.initial) TokenStep s → OneLive s.table) ∧
    ∀ s s' : TokenState I, Reachable (· = TokenState.initial) CleanStep s → CleanStep s s' →
      ∀ i familyId detail j row successor, .committed i (.revoked familyId detail) ∈ s.log →
        s'.log = .committed j (.rotated row successor) :: s.log → row.familyId ≠ familyId := by
  refine ⟨fun s h => (inv_of_reachable h).oneLive, ?_⟩
  rintro s s' h ⟨a, h_step, -⟩ i familyId detail j row successor h_revoked h_log h_family
  have h_inv := cleanInv_of_reachable h
  obtain ⟨h_find, h_live⟩ := rotated_live h_inv.inv h_step h_log
  exact List.not_mem_nil ((h_inv.dead i familyId detail h_revoked).2 _ row h_find h_live h_family)

end Steps

/-! ### A family that is revoked and one that is rotated -/

section Alone

variable {n : ℕ} {s s' : TokenState (Fin n)}

/-- The step is no commit, or the only open transaction commits. -/
def TokenState.IsAlone (s : TokenState (Fin n)) : TokenAction (Fin n) → Prop
  | .commit i => ∀ j, j ≠ i → (s.opened j).isNone = true
  | _ => True

instance (s : TokenState (Fin n)) : (a : TokenAction (Fin n)) → Decidable (s.IsAlone a)
  | .commit i => inferInstanceAs (Decidable (∀ j, j ≠ i → (s.opened j).isNone = true))
  | .begin .. | .statement .. | .rollback _ => .isTrue trivial

/-- Steps without a commit beside another open transaction. -/
def TokenState.runAlone (s : TokenState (Fin n)) :
    List (TokenAction (Fin n)) → Option (TokenState (Fin n))
  | [] => some s
  | a :: rest => if s.IsAlone a then (s.step a).bind fun s' => s'.runAlone rest else none

/-- Where no other transaction is open, no successor is missed. -/
theorem TokenState.IsAlone.cleanStep {a : TokenAction (Fin n)} (h : s.IsAlone a)
    (h_step : s.step a = some s') : CleanStep s s' := by
  refine ⟨a, h_step, ?_⟩
  rintro ⟨j, t, row, successor, rfl, -, -, i, u, targets, h_ne, h_open, -⟩
  have h_none := h i h_ne
  rw [h_open] at h_none
  cases h_none

/-- A list of actions that succeeds one by one is a clean run. -/
theorem TokenState.run_of_runAlone {actions : List (TokenAction (Fin n))}
    (h : s.runAlone actions = some s') : Relation.ReflTransGen CleanStep s s' := by
  induction actions generalizing s with
  | nil =>
    obtain rfl := Option.some.inj h
    exact .refl
  | cons a rest ih =>
    unfold TokenState.runAlone at h
    split_ifs at h with h_alone
    obtain ⟨s₁, h_first, h_rest⟩ := Option.bind_eq_some_iff.mp h
    exact (ih h_rest).head (h_alone.cleanStep h_first)

end Alone

/-- Two logins and the sign-out of the first, with a rotation of the second one's token that is
about to commit. -/
def signOutOfOne : List (TokenAction (Fin 4)) :=
  [.begin 0 (.login "t0" (Uuid.repeated 1) (Uuid.repeated 2) (Uuid.repeated 3) 7 0),
    .statement 0 0 true, .commit 0,
    .begin 1 (.login "u0" (Uuid.repeated 4) (Uuid.repeated 2) (Uuid.repeated 3) 7 1),
    .statement 1 1 true, .commit 1,
    .begin 2 (.logout "t0"), .statement 2 2 true, .statement 2 2 true, .statement 2 2 true,
    .statement 2 2 true, .commit 2,
    .begin 3 (.refresh "u0" "u1" 7), .statement 3 3 true, .statement 3 3 true,
    .statement 3 3 true, .statement 3 3 true]

/-- After the sign-out of one family the token of another one is rotated. -/
theorem token_families_signOutOfOne : ∃ (s s' : TokenState (Fin 4)) (row successor : RefreshToken),
    Reachable (· = TokenState.initial) CleanStep s ∧ CleanStep s s' ∧
      .committed 2 (.revoked (Uuid.repeated 1) none) ∈ s.log ∧
      s'.log = .committed 3 (.rotated row successor) :: s.log ∧
      successor.tokenHash = "u1" ∧ row.familyId ≠ Uuid.repeated 1 := by
  have h_log : ((TokenState.initial.runAlone signOutOfOne).bind fun s =>
      (s.step (.commit 3)).map fun s' =>
        decide (s.IsAlone (.commit 3) ∧
          .committed 2 (.revoked (Uuid.repeated 1) none) ∈ s.log ∧
          s'.log = .committed 3 (.rotated
            (issueRefreshToken "u0" (Uuid.repeated 2) (Uuid.repeated 3) 7 (Uuid.repeated 4) 1)
            (issueRefreshToken "u1" (Uuid.repeated 2) (Uuid.repeated 3) 7 (Uuid.repeated 4) 3))
              :: s.log)) = some true := by
    decide +kernel
  obtain ⟨s, h_before, h_rest⟩ := Option.bind_eq_some_iff.mp h_log
  obtain ⟨s', h_step, h_events⟩ := Option.map_eq_some_iff.mp h_rest
  obtain ⟨h_alone, h_revoked, h_rotated⟩ := of_decide_eq_true h_events
  have h_reachable : Reachable (· = TokenState.initial) CleanStep s :=
    ⟨_, rfl, TokenState.run_of_runAlone h_before⟩
  have h_clean : CleanStep s s' := h_alone.cleanStep h_step
  exact ⟨s, s', _, _, h_reachable, h_clean, h_revoked, h_rotated, rfl,
    token_families.2 s s' h_reachable h_clean 2 _ none 3 _ _ h_revoked h_rotated⟩

/-! ### A rotation that overlaps a sign-out -/

/-- A login, and a rotation that has used its token and not yet issued the successor when a sign-out
finds the rows of the family; the rotation commits first. -/
def overlappingSignOut : List (TokenAction ℕ) :=
  [.begin 0 (.login "t0" (Uuid.repeated 1) (Uuid.repeated 2) (Uuid.repeated 3) 7 0),
    .statement 0 0 true, .commit 0,
    .begin 1 (.refresh "t0" "t1" 7), .statement 1 1 true, .statement 1 1 true,
    .begin 2 (.logout "t0"), .statement 2 2 true, .statement 2 2 true,
    .statement 1 3 true, .statement 1 3 true, .commit 1,
    .statement 2 4 true, .statement 2 4 true, .commit 2]

/-- A later rotation of the successor. -/
def laterRefresh : List (TokenAction ℕ) :=
  [.begin 3 (.refresh "t1" "t2" 7), .statement 3 5 true, .statement 3 5 true, .statement 3 5 true,
    .statement 3 5 true, .commit 3]

/-- After a committed sign-out a later request rotates a token of the family. -/
theorem successor_survives_sign_out :
    ¬ ∀ s s' : TokenState ℕ, Reachable (· = TokenState.initial) TokenStep s →
      Relation.ReflTransGen TokenStep s s' →
      ∀ i familyId detail, .committed i (.revoked familyId detail) ∈ s.log →
      ∀ j request row successor, .begun j request ∉ s.log → .begun j request ∈ s'.log →
        .committed j (.rotated row successor) ∈ s'.log → row.familyId ≠ familyId := by
  intro h
  have h_log : ((TokenState.initial.run overlappingSignOut).bind fun s =>
      (s.run laterRefresh).map fun s' =>
        decide (.committed 2 (.revoked (Uuid.repeated 1) none) ∈ s.log ∧
          .begun 3 (.refresh "t1" "t2" 7) ∉ s.log ∧ .begun 3 (.refresh "t1" "t2" 7) ∈ s'.log ∧
          .committed 3 (.rotated
            (issueRefreshToken "t1" (Uuid.repeated 2) (Uuid.repeated 3) 7 (Uuid.repeated 1) 3)
            (issueRefreshToken "t2" (Uuid.repeated 2) (Uuid.repeated 3) 7 (Uuid.repeated 1) 5))
              ∈ s'.log)) = some true := by
    decide
  obtain ⟨s, h_before, h_rest⟩ := Option.bind_eq_some_iff.mp h_log
  obtain ⟨s', h_after, h_events⟩ := Option.map_eq_some_iff.mp h_rest
  obtain ⟨h_revoked, h_later, h_begun, h_rotated⟩ := of_decide_eq_true h_events
  have h_run : ∀ {s s' : TokenState ℕ} {actions}, s.run actions = some s' →
      Relation.ReflTransGen TokenStep s s' :=
    TokenState.run_of_run fun a _ _ _ h_step => ⟨a, h_step⟩
  exact h s s' ⟨_, rfl, h_run h_before⟩ (h_run h_after) 2 _ none h_revoked 3 _ _ _ h_later h_begun
    h_rotated rfl

end DqScoring
