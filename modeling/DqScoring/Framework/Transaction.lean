import DqScoring.Framework.Transition
import Mathlib.Logic.Function.Basic

/-!
# Transactions under READ COMMITTED with row locks

A transaction is a program of statements (`Txn`): it locks rows, queries, writes, and
ends with a result (commit) or an error (rollback). Transactions run concurrently, one
statement at a time:

* a query sees the last committed database with the writes of its own transaction,
  never the writes of one that is still open;
* a lock is granted when no other open transaction holds it, and is kept to the end;
* writes take effect when the transaction commits. A write that breaks a constraint has
  no result, and its transaction can only roll back;
* any open transaction may be rolled back at any time (a deadlock, a lost connection).

A write is kept as a function of the database and applied when its transaction commits.
For the rows the transaction has locked this is what the statement itself computed.

The state of a system (`TxnState`) has the committed database, the open transactions
and the log of what has begun, committed and been rolled back. Which requests may begin
can depend on that log: a worker reports on the job that it was given.
-/

namespace Framework

/-! ### Programs -/

/-- A transaction over the database `D` with row locks `L`, errors `ε` and result `α`. -/
inductive Txn (D L ε α : Type) where
  /-- End with a result: commit. -/
  | done (a : α)
  /-- Raise: roll back. -/
  | raise (e : ε)
  /-- Lock a row, and wait while another transaction holds it. -/
  | lock (l : L) (rest : Txn D L ε α)
  /-- Read. -/
  | query (rest : D → Txn D L ε α)
  /-- Write; absent where a constraint is broken. -/
  | write (f : D → Option D) (rest : Txn D L ε α)

namespace Txn

variable {D L ε α β : Type}

/-- One program after another. -/
def andThen : Txn D L ε α → (α → Txn D L ε β) → Txn D L ε β
  | done a, k => k a
  | raise e, _ => raise e
  | lock l rest, k => lock l (rest.andThen k)
  | query rest, k => query fun db => (rest db).andThen k
  | write f rest, k => write f (rest.andThen k)

instance : Monad (Txn D L ε) where
  pure := done
  bind := andThen

/-- `SELECT`. -/
def select (q : D → β) : Txn D L ε β := query fun db => done (q db)

/-- `SELECT … FOR UPDATE` of a row, or an advisory lock. -/
def forUpdate (l : L) : Txn D L ε Unit := lock l (done ())

/-- `INSERT`, `UPDATE` or `DELETE`. -/
def exec (f : D → Option D) : Txn D L ε Unit := write f (done ())

/-- Lock some rows, one after the other. -/
def forUpdateAll : List L → Txn D L ε Unit
  | [] => done ()
  | l :: ls => lock l (forUpdateAll ls)

/-- The program only reads. -/
def ReadsOnly : Txn D L ε α → Prop
  | done _ => True
  | raise _ => True
  | lock _ _ => False
  | query rest => ∀ db, (rest db).ReadsOnly
  | write _ _ => False

/-- Programs that only read compose. -/
theorem ReadsOnly.bind {p : Txn D L ε α} {k : α → Txn D L ε β} (hp : p.ReadsOnly)
    (hk : ∀ a, (k a).ReadsOnly) : (p >>= k).ReadsOnly := by
  show (p.andThen k).ReadsOnly
  induction p with
  | done a => exact hk a
  | raise e => trivial
  | lock l rest => exact hp.elim
  | query rest ih => exact fun db => ih db (hp db)
  | write f rest => exact hp.elim

theorem readsOnly_select (q : D → β) : (select q : Txn D L ε β).ReadsOnly := fun _ => trivial

end Txn

/-! ### Systems of transactions -/

/-- An open transaction: what is left of its program, the locks it holds and its writes. -/
structure OpenTxn (D L ε α : Type) where
  rest : Txn D L ε α
  held : List L
  writes : D → Option D

/-- What happened to a transaction. -/
inductive TxnEvent (I R ε α : Type) where
  | begun (i : I) (request : R)
  | committed (i : I) (request : R) (result : α)
  /-- Rolled back, by its own error or by the database. -/
  | rolledBack (i : I) (request : R) (error : Option ε)

/-- The committed database, the open transactions and the log, newest first. -/
structure TxnState (I R D L ε α : Type) where
  db : D
  opened : I → Option (R × OpenTxn D L ε α)
  log : List (TxnEvent I R ε α)

/-- A system of transactions: the program of each request, and when a request may begin. -/
structure TxnSystem (I R D L ε α : Type) where
  program : R → Txn D L ε α
  allowed : List (TxnEvent I R ε α) → R → Prop

namespace TxnSystem

variable {I R D L ε α : Type} [DecidableEq I]

/-- A state before any transaction. -/
def Initial (initialDb : D → Prop) (s : TxnState I R D L ε α) : Prop :=
  initialDb s.db ∧ (∀ i, s.opened i = none) ∧ s.log = []

/-- One statement of one transaction. -/
inductive Step (sys : TxnSystem I R D L ε α) : TxnState I R D L ε α → TxnState I R D L ε α → Prop
  | begin (i : I) (r : R) {db opened log} : opened i = none → sys.allowed log r →
      Step sys ⟨db, opened, log⟩
        ⟨db, Function.update opened i (some (r, ⟨sys.program r, [], some⟩)), .begun i r :: log⟩
  | lock (i : I) {db opened log r l rest held writes} :
      opened i = some (r, ⟨.lock l rest, held, writes⟩) →
      (∀ j r' t, j ≠ i → opened j = some (r', t) → l ∉ t.held) →
      Step sys ⟨db, opened, log⟩
        ⟨db, Function.update opened i (some (r, ⟨rest, l :: held, writes⟩)), log⟩
  | query (i : I) {db opened log r rest held writes view} :
      opened i = some (r, ⟨.query rest, held, writes⟩) → writes db = some view →
      Step sys ⟨db, opened, log⟩
        ⟨db, Function.update opened i (some (r, ⟨rest view, held, writes⟩)), log⟩
  | write (i : I) {db opened log r f rest held writes} :
      opened i = some (r, ⟨.write f rest, held, writes⟩) →
      Step sys ⟨db, opened, log⟩
        ⟨db, Function.update opened i (some (r, ⟨rest, held, fun db => (writes db).bind f⟩)), log⟩
  | commit (i : I) {db opened log r a held writes db'} :
      opened i = some (r, ⟨.done a, held, writes⟩) → writes db = some db' →
      Step sys ⟨db, opened, log⟩
        ⟨db', Function.update opened i none, .committed i r a :: log⟩
  | raise (i : I) {db opened log r e held writes} :
      opened i = some (r, ⟨.raise e, held, writes⟩) →
      Step sys ⟨db, opened, log⟩
        ⟨db, Function.update opened i none, .rolledBack i r (some e) :: log⟩
  | abort (i : I) {db opened log r t} : opened i = some (r, t) →
      Step sys ⟨db, opened, log⟩
        ⟨db, Function.update opened i none, .rolledBack i r none :: log⟩

/-- Only a commit changes the database. -/
theorem db_of_uncommitted {sys : TxnSystem I R D L ε α} {s s' : TxnState I R D L ε α}
    (h_step : Step sys s s') (h : ∀ i r a, s'.log ≠ .committed i r a :: s.log) : s'.db = s.db := by
  cases h_step with
  | commit i => exact absurd rfl (h i _ _)
  | _ => rfl

/-- A step logs at most one event, the newest. -/
theorem mem_log_of_step {sys : TxnSystem I R D L ε α} {s s' : TxnState I R D L ε α}
    (h_step : Step sys s s') {e : TxnEvent I R ε α} (h : e ∈ s'.log) :
    e ∈ s.log ∨ s'.log = e :: s.log := by
  cases h_step with
  | begin | commit | raise | abort =>
    rcases List.mem_cons.mp h with rfl | h_old
    · exact Or.inr rfl
    · exact Or.inl h_old
  | lock | query | write => exact Or.inl h

/-- A transaction that is rolled back leaves the database as it was. -/
theorem db_of_rolledBack {sys : TxnSystem I R D L ε α} {s s' : TxnState I R D L ε α}
    (h_step : Step sys s s') {i : I} {r : R} {error : Option ε}
    (h_log : s'.log = .rolledBack i r error :: s.log) : s'.db = s.db := by
  refine db_of_uncommitted h_step fun j r' a h_committed => ?_
  obtain ⟨h_event, -⟩ := List.cons.inj (h_log.symm.trans h_committed)
  cases h_event

end TxnSystem

/-! ### How a transaction ends -/

namespace Txn

variable {D L ε α β : Type} {R : D → D → Prop}

/-- How a program with some writes ends, in a result or an error, if the committed database changes
only as `R` says. `K` gets the writes, and the committed database that was read last. -/
def Ends (R : D → D → Prop) :
    Txn D L ε α → (Except ε α → (D → Option D) → D → Prop) → (D → Option D) → D → Prop
  | done a, K, writes, db => K (.ok a) writes db
  | raise e, K, writes, db => K (.error e) writes db
  | lock _ rest, K, writes, db => rest.Ends R K writes db
  | query rest, K, writes, db =>
    ∀ db', R db db' → ∀ view, writes db' = some view → (rest view).Ends R K writes db'
  | write f rest, K, writes, db => rest.Ends R K (fun db => (writes db).bind f) db

section Rules

variable {K : Except ε α → (D → Option D) → D → Prop} {writes : D → Option D} {db : D}

/-- A finished program ends at its answer. -/
@[simp] theorem ends_pure (a : α) :
    (pure a : Txn D L ε α).Ends R K writes db ↔ K (.ok a) writes db := Iff.rfl

/-- A raised error ends the program. -/
@[simp] theorem ends_raise (e : ε) :
    (raise e : Txn D L ε α).Ends R K writes db ↔ K (.error e) writes db := Iff.rfl

/-- Taking a lock changes no row. -/
@[simp] theorem ends_forUpdate {K : Except ε Unit → (D → Option D) → D → Prop} (l : L) :
    (forUpdate l : Txn D L ε Unit).Ends R K writes db ↔ K (.ok ()) writes db := Iff.rfl

/-- A query sees the rows that others committed meanwhile, and the transaction's own writes.
-/
@[simp] theorem ends_select (q : D → α) :
    (select q : Txn D L ε α).Ends R K writes db ↔
      ∀ db', R db db' → ∀ view, writes db' = some view → K (.ok (q view)) writes db' := Iff.rfl

/-- A write is added to the transaction and reaches nobody before the commit. -/
@[simp] theorem ends_exec {K : Except ε Unit → (D → Option D) → D → Prop} (f : D → Option D) :
    (exec f : Txn D L ε Unit).Ends R K writes db ↔
      K (.ok ()) (fun db => (writes db).bind f) db := Iff.rfl

/-- The end of a program that goes on after its first part: an error ends it at once. -/
def thenEnds (R : D → D → Prop) (k : α → Txn D L ε β)
    (K : Except ε β → (D → Option D) → D → Prop) :
    Except ε α → (D → Option D) → D → Prop
  | .ok a => fun writes db => (k a).Ends R K writes db
  | .error e => fun writes db => K (.error e) writes db

/-- What a sequence ends in is what its second part ends in after the first. -/
@[simp] theorem ends_bind {K : Except ε β → (D → Option D) → D → Prop} (p : Txn D L ε α)
    (k : α → Txn D L ε β) :
    (p >>= k).Ends R K writes db ↔ p.Ends R (thenEnds R k K) writes db := by
  show (p.andThen k).Ends R K writes db ↔ _
  induction p generalizing writes db with
  | done a => exact Iff.rfl
  | raise e => exact Iff.rfl
  | lock l rest ih => exact ih
  | query rest ih => exact forall₂_congr fun _ _ => forall₂_congr fun view _ => ih view
  | write f rest ih => exact ih

/-- A weaker description of the end holds too. -/
theorem Ends.mono {K' : Except ε α → (D → Option D) → D → Prop}
    (hK : ∀ x writes db, K x writes db → K' x writes db) {p : Txn D L ε α}
    (h : p.Ends R K writes db) : p.Ends R K' writes db := by
  induction p generalizing writes db with
  | done a => exact hK (.ok a) writes db h
  | raise e => exact hK (.error e) writes db h
  | lock l rest ih => exact ih h
  | query rest ih => exact fun db' h_R view h_view => ih view (h db' h_R view h_view)
  | write f rest ih => exact ih h

end Rules

/-- All writes of the program change the database as `R` says. -/
def Writes (R : D → D → Prop) : Txn D L ε α → Prop
  | done _ => True
  | raise _ => True
  | lock _ rest => rest.Writes R
  | query rest => ∀ view, (rest view).Writes R
  | write f rest => (∀ db db', f db = some db' → R db db') ∧ rest.Writes R

/-- Each half of a sequence keeps its promise to the other transactions. -/
theorem Writes.bind {p : Txn D L ε α} {k : α → Txn D L ε β} (hp : p.Writes R)
    (hk : ∀ a, (k a).Writes R) : (p >>= k).Writes R := by
  show (p.andThen k).Writes R
  induction p with
  | done a => exact hk a
  | raise e => trivial
  | lock l rest ih => exact ih hp
  | query rest ih => exact fun view => ih view (hp view)
  | write f rest ih => exact ⟨hp.1, ih hp.2⟩

end Txn

namespace TxnSystem

variable {I R D L ε α : Type} [DecidableEq I] {sys : TxnSystem I R D L ε α}

/-- What holds of each open transaction still holds when one of them is replaced. -/
theorem forall_update {P : R → OpenTxn D L ε α → Prop}
    {opened : I → Option (R × OpenTxn D L ε α)} {i : I} {x : Option (R × OpenTxn D L ε α)}
    (h_old : ∀ j r t, opened j = some (r, t) → P r t) (h_new : ∀ r t, x = some (r, t) → P r t)
    (j : I) (r : R) (t : OpenTxn D L ε α) (h : Function.update opened i x j = some (r, t)) :
    P r t := by
  by_cases h_j : j = i
  · subst h_j
    rw [Function.update_self] at h
    exact h_new r t h
  · rw [Function.update_of_ne h_j] at h
    exact h_old j r t h

/-- The open transactions write only as `R` says. -/
def OpenWrite (R' : D → D → Prop) (s : TxnState I R D L ε α) : Prop :=
  ∀ i r t, s.opened i = some (r, t) →
    t.rest.Writes R' ∧ ∀ db db', t.writes db = some db' → R' db db'

variable {R' : D → D → Prop} {initialDb : D → Prop}

/-- No step of another client breaks what an open transaction may still commit: the database
moves along the promised relation only. -/
theorem OpenWrite.step (h_refl : ∀ db, R' db db)
    (h_trans : ∀ db₁ db₂ db₃, R' db₁ db₂ → R' db₂ db₃ → R' db₁ db₃)
    (h_writes : ∀ r, (sys.program r).Writes R') {s s' : TxnState I R D L ε α}
    (h : OpenWrite R' s) (h_step : Step sys s s') : OpenWrite R' s' := by
  cases h_step with
  | begin i r =>
    refine forall_update h fun r' t h_t => ?_
    cases h_t
    refine ⟨h_writes r, fun db db' h_db => ?_⟩
    rw [← Option.some.inj h_db]
    exact h_refl db
  | lock i h_open =>
    refine forall_update h fun r' t h_t => ?_
    cases h_t
    have h_lock := h i _ _ h_open
    exact h_lock
  | query i h_open =>
    refine forall_update h fun r' t h_t => ?_
    cases h_t
    exact ⟨(h i _ _ h_open).1 _, (h i _ _ h_open).2⟩
  | write i h_open =>
    refine forall_update h fun r' t h_t => ?_
    cases h_t
    obtain ⟨⟨h_f, h_rest⟩, h_before⟩ := h i _ _ h_open
    refine ⟨h_rest, fun db db' h_db => ?_⟩
    obtain ⟨view, h_view, h_db'⟩ := Option.bind_eq_some_iff.mp h_db
    exact h_trans db view db' (h_before db view h_view) (h_f view db' h_db')
  | commit i => exact forall_update h fun r' t h_t => by cases h_t
  | raise i => exact forall_update h fun r' t h_t => by cases h_t
  | abort i => exact forall_update h fun r' t h_t => by cases h_t

/-- **Growth rule.** If all programs write only as `R'` says, the committed database changes only
so, whatever the interleaving. -/
theorem rel_of_writes (h_refl : ∀ db, R' db db)
    (h_trans : ∀ db₁ db₂ db₃, R' db₁ db₂ → R' db₂ db₃ → R' db₁ db₃)
    (h_writes : ∀ r, (sys.program r).Writes R') {s s' : TxnState I R D L ε α}
    (h : Reachable (Initial initialDb) (Step sys) s)
    (h_run : Relation.ReflTransGen (Step sys) s s') : R' s.db s'.db := by
  have h_open : ∀ {u}, Reachable (Initial initialDb) (Step sys) u → OpenWrite R' u := by
    intro u h_u
    refine h_u.invariant ?_ fun v v' h_now h_step => h_now.step h_refl h_trans h_writes h_step
    rintro s₀ ⟨-, h_none, -⟩ i r t h_t
    rw [h_none] at h_t
    cases h_t
  induction h_run with
  | refl => exact h_refl s.db
  | @tail s₁ s₂ h_before h_last ih =>
    refine h_trans _ _ _ ih ?_
    have h_writes := h_open (h.run h_before)
    cases h_last with
    | commit i h_done h_db => exact (h_writes i _ _ h_done).2 _ _ h_db
    | _ => exact h_refl _

/-- **End rule.** How a request ends that begins later, if the committed database changes only as
`R'` says from then on. -/
theorem ends_of_run {r : R} {K : Except ε α → (D → Option D) → D → Prop}
    {s₀ s s' : TxnState I R D L ε α} (h_program : (sys.program r).Ends R' K some s₀.db)
    (h_rel : ∀ u u', Relation.ReflTransGen (Step sys) s₀ u →
      Relation.ReflTransGen (Step sys) u u' → R' u.db u'.db) {i : I}
    (h_closed : s₀.opened i = none) (h_run : Relation.ReflTransGen (Step sys) s₀ s)
    (h_step : Step sys s s') :
    (∀ a, s'.log = .committed i r a :: s.log →
      ∃ writes db, K (.ok a) writes db ∧ R' db s.db ∧ writes s.db = some s'.db) ∧
    ∀ e, s'.log = .rolledBack i r (some e) :: s.log →
      ∃ writes db, K (.error e) writes db ∧ R' s₀.db db := by
  -- what is left of the request ends so, seen from a state that it has read
  have h_open : ∀ t, s.opened i = some (r, t) → ∃ u, Relation.ReflTransGen (Step sys) s₀ u ∧
      Relation.ReflTransGen (Step sys) u s ∧ t.rest.Ends R' K t.writes u.db := by
    clear h_step
    induction h_run with
    | refl =>
      intro t h_t
      rw [h_closed] at h_t
      cases h_t
    | @tail s₁ s₂ h_before h_last ih =>
      -- every step but those of the request itself leaves it as it is
      have h_other : ∀ {j : I} {x : Option (R × OpenTxn D L ε α)},
          s₂.opened = Function.update s₁.opened j x →
          (∀ t, j = i → x = some (r, t) → ∃ u, Relation.ReflTransGen (Step sys) s₀ u ∧
            Relation.ReflTransGen (Step sys) u s₂ ∧ t.rest.Ends R' K t.writes u.db) →
          ∀ t, s₂.opened i = some (r, t) → ∃ u, Relation.ReflTransGen (Step sys) s₀ u ∧
            Relation.ReflTransGen (Step sys) u s₂ ∧ t.rest.Ends R' K t.writes u.db := by
        intro j x h_opened h_new t h_t
        rw [h_opened] at h_t
        by_cases h_j : i = j
        · subst h_j
          rw [Function.update_self] at h_t
          exact h_new t rfl h_t
        · rw [Function.update_of_ne h_j] at h_t
          obtain ⟨u, h_u, h_after, h_ends⟩ := ih t h_t
          exact ⟨u, h_u, h_after.tail h_last, h_ends⟩
      have h_last' := h_last
      cases h_last with
      | begin j r' =>
        -- the request has just begun, with its whole program before it
        refine h_other rfl fun t _ h_t => ?_
        cases h_t
        exact ⟨s₀, .refl, h_before.tail h_last', h_program⟩
      | lock j h_open =>
        -- the lock changes nothing that the program reads
        refine h_other rfl fun t h_j h_t => ?_
        subst h_j
        cases h_t
        obtain ⟨u, h_u, h_after, h_ends⟩ := ih _ h_open
        exact ⟨u, h_u, h_after.tail h_last', h_ends⟩
      | query j h_open h_view =>
        -- the query sees this very state, from which the program has to end so
        refine h_other rfl fun t h_j h_t => ?_
        subst h_j
        cases h_t
        obtain ⟨u, h_u, h_after, h_ends⟩ := ih _ h_open
        exact ⟨_, h_before, .single h_last', h_ends _ (h_rel _ _ h_u h_after) _ h_view⟩
      | write j h_open =>
        -- the write is part of what the program carries along
        refine h_other rfl fun t h_j h_t => ?_
        subst h_j
        cases h_t
        obtain ⟨u, h_u, h_after, h_ends⟩ := ih _ h_open
        exact ⟨u, h_u, h_after.tail h_last', h_ends⟩
      -- the request is over
      | commit j => exact h_other rfl fun t _ h_t => by cases h_t
      | raise j => exact h_other rfl fun t _ h_t => by cases h_t
      | abort j => exact h_other rfl fun t _ h_t => by cases h_t
  cases h_step with
  | commit j h_done h_db =>
    -- only a commit logs an answer
    refine ⟨fun a h_log => ?_, fun e h_log => ?_⟩
    · obtain ⟨h_event, -⟩ := List.cons.inj h_log
      cases h_event
      obtain ⟨u, h_u, h_after, h_ends⟩ := h_open _ h_done
      exact ⟨_, u.db, h_ends, h_rel u _ h_u h_after, h_db⟩
    · obtain ⟨h_event, -⟩ := List.cons.inj h_log
      cases h_event
  | raise j h_done =>
    -- only an error that was raised logs one
    refine ⟨fun a h_log => ?_, fun e h_log => ?_⟩
    · obtain ⟨h_event, -⟩ := List.cons.inj h_log
      cases h_event
    · obtain ⟨h_event, -⟩ := List.cons.inj h_log
      cases h_event
      obtain ⟨u, h_u, -, h_ends⟩ := h_open _ h_done
      exact ⟨_, u.db, h_ends, h_rel s₀ u .refl h_u⟩
  | begin =>
    refine ⟨fun a h_log => ?_, fun e h_log => ?_⟩ <;>
      obtain ⟨h_event, -⟩ := List.cons.inj h_log <;> cases h_event
  | abort =>
    refine ⟨fun a h_log => ?_, fun e h_log => ?_⟩ <;>
      obtain ⟨h_event, -⟩ := List.cons.inj h_log <;> cases h_event
  | _ =>
    -- the other steps log nothing
    exact ⟨fun a h_log => absurd h_log.symm (List.cons_ne_self _ _),
      fun e h_log => absurd h_log.symm (List.cons_ne_self _ _)⟩

end TxnSystem

/-! ### Facts that a transaction can rely on -/

namespace Txn

variable {D L ε α β : Type} {P : D → Prop}

/-- What a program with some writes answers if every committed database it reads satisfies `P`. -/
def Answers (P : D → Prop) : Txn D L ε α → (α → (D → Option D) → Prop) → (D → Option D) → Prop
  | done a, K, writes => K a writes
  | raise _, _, _ => True
  | lock _ rest, K, writes => rest.Answers P K writes
  | query rest, K, writes =>
    ∀ db, P db → ∀ view, writes db = some view → (rest view).Answers P K writes
  | write f rest, K, writes => rest.Answers P K fun db => (writes db).bind f

@[simp] theorem answers_pure {K : α → (D → Option D) → Prop} {writes : D → Option D} (a : α) :
    (pure a : Txn D L ε α).Answers P K writes ↔ K a writes := Iff.rfl

@[simp] theorem answers_raise {K : α → (D → Option D) → Prop} {writes : D → Option D} (e : ε) :
    (raise e : Txn D L ε α).Answers P K writes := trivial

@[simp] theorem answers_forUpdate {K : Unit → (D → Option D) → Prop} {writes : D → Option D}
    (l : L) : (forUpdate l : Txn D L ε Unit).Answers P K writes ↔ K () writes := Iff.rfl

@[simp] theorem answers_select {K : α → (D → Option D) → Prop} {writes : D → Option D}
    (q : D → α) : (select q : Txn D L ε α).Answers P K writes ↔
      ∀ db, P db → ∀ view, writes db = some view → K (q view) writes := Iff.rfl

@[simp] theorem answers_exec {K : Unit → (D → Option D) → Prop} {writes : D → Option D}
    (f : D → Option D) : (exec f : Txn D L ε Unit).Answers P K writes ↔
      K () fun db => (writes db).bind f := Iff.rfl

/-- The answers of a sequence are those of its second part after the first. -/
@[simp] theorem answers_bind {K : β → (D → Option D) → Prop} {writes : D → Option D}
    (p : Txn D L ε α) (k : α → Txn D L ε β) :
    (p >>= k).Answers P K writes ↔
      p.Answers P (fun a writes => (k a).Answers P K writes) writes := by
  show (p.andThen k).Answers P K writes ↔ _
  induction p generalizing writes with
  | done a => exact Iff.rfl
  | raise e => exact Iff.rfl
  | lock l rest ih => exact ih
  | query rest ih => exact forall₂_congr fun _ _ => forall₂_congr fun view _ => ih view
  | write f rest ih => exact ih

/-- A weaker description of the answers holds too. -/
theorem Answers.mono {K K' : α → (D → Option D) → Prop} {writes : D → Option D}
    (hK : ∀ a writes, K a writes → K' a writes) {p : Txn D L ε α} (h : p.Answers P K writes) :
    p.Answers P K' writes := by
  induction p generalizing writes with
  | done a => exact hK a writes h
  | raise e => trivial
  | lock l rest ih => exact ih h
  | query rest ih => exact fun db hP view h_view => ih view (h db hP view h_view)
  | write f rest ih => exact ih h

/-- A program that answers so ends so, or in an error. -/
theorem Answers.ends {K : α → (D → Option D) → Prop} {p : Txn D L ε α} {writes : D → Option D}
    (h : p.Answers P K writes) (db : D) :
    p.Ends (fun _ db => P db) (fun x writes _ => ∀ a, x = .ok a → K a writes) writes db := by
  induction p generalizing writes db with
  | done a =>
    intro a' h_a
    rw [← Except.ok.inj h_a]
    exact h
  | raise e =>
    intro a h_a
    cases h_a
  | lock l rest ih => exact ih h db
  | query rest ih => exact fun db' h_P view h_view => ih view (h db' h_P view h_view) db'
  | write f rest ih => exact ih h db

end Txn

namespace TxnSystem

variable {I R D L ε α : Type} [DecidableEq I] {sys : TxnSystem I R D L ε α}

/-- **Since rule.** What a request answers that begins when a fact holds which every later commit
keeps. -/
theorem answer_of_run {P : D → Prop} {r : R} {Q : α → Prop}
    (h_program : (sys.program r).Answers P (fun a _ => Q a) some) {s₀ s s' : TxnState I R D L ε α}
    (h_fact : ∀ s, Relation.ReflTransGen (Step sys) s₀ s → P s.db) {i : I}
    (h_closed : s₀.opened i = none) (h_run : Relation.ReflTransGen (Step sys) s₀ s)
    (h_step : Step sys s s') {a : α} (h_log : s'.log = .committed i r a :: s.log) : Q a := by
  have h_ends := ends_of_run (h_program.ends s₀.db)
    (fun _ u' h_u h_after => h_fact u' (h_u.trans h_after)) h_closed h_run h_step
  obtain ⟨_, _, h_a, -, -⟩ := h_ends.1 a h_log
  exact h_a a rfl

end TxnSystem

/-! ### Reading between the transactions of others -/

namespace TxnSystem

variable {I R D L ε α β : Type} [DecidableEq I] {sys : TxnSystem I R D L ε α}

/-- A program that only reads gives an answer on a run from one state to another. -/
inductive ReadsAlong (sys : TxnSystem I R D L ε α) :
    Txn D L ε β → TxnState I R D L ε α → β → TxnState I R D L ε α → Prop
  | done (b : β) (s) : ReadsAlong sys (.done b) s b s
  | query {rest : D → Txn D L ε β} {s s₁ s₂ b} : Relation.ReflTransGen (Step sys) s s₁ →
      ReadsAlong sys (rest s₁.db) s₁ b s₂ → ReadsAlong sys (.query rest) s b s₂

end TxnSystem

/-! ### Serial runs -/

/-- What a transaction with some writes commits when no other is open, if it commits. -/
def Txn.alone {D L ε α : Type} : Txn D L ε α → (D → Option D) → D → Option (α × D)
  | done a, writes, db => (writes db).map fun db' => (a, db')
  | raise _, _, _ => none
  | lock _ rest, writes, db => rest.alone writes db
  | query rest, writes, db => (writes db).bind fun view => (rest view).alone writes db
  | write f rest, writes, db => rest.alone (fun db => (writes db).bind f) db

section Reads

variable {D L ε α β : Type}

/-- A program that only reads hands its answer on. -/
theorem Txn.ReadsOnly.alone_bind {p : Txn D L ε α} (hp : p.ReadsOnly) (k : α → Txn D L ε β)
    (db : D) : (p >>= k).alone some db = (p.alone some db).bind fun x => (k x.1).alone some db := by
  show (p.andThen k).alone some db = _
  induction p with
  | done a => rfl
  | raise e => rfl
  | lock l rest => exact hp.elim
  | query rest ih => exact ih db (hp db)
  | write f rest => exact hp.elim

/-- A program that only reads may be run in one state. -/
theorem Txn.ReadsOnly.readsAlong {I R : Type} [DecidableEq I] {sys : TxnSystem I R D L ε α}
    {p : Txn D L ε β} (hp : p.ReadsOnly) {s : TxnState I R D L ε α} {b : β} {db : D}
    (h : p.alone some s.db = some (b, db)) : sys.ReadsAlong p s b s := by
  induction p with
  | done b' =>
    obtain ⟨rfl, -⟩ := Prod.mk.inj (Option.some.inj h)
    exact .done b' s
  | raise e => cases h
  | lock l rest => exact hp.elim
  | query rest ih => exact .query .refl (ih s.db (hp s.db) h)
  | write f rest => exact hp.elim

theorem Txn.alone_select_bind (q : D → α) (k : α → Txn D L ε β) (db : D) :
    (select q >>= k).alone some db = (k (q db)).alone some db := rfl

end Reads

namespace TxnSystem

variable {I R D L ε α : Type} [DecidableEq I] {sys : TxnSystem I R D L ε α}

/-- A step that commits only what meets a condition on the database it finds. -/
def StepIf (sys : TxnSystem I R D L ε α) (P : D → R → Prop) (s s' : TxnState I R D L ε α) : Prop :=
  Step sys s s' ∧ ∀ i r a, s'.log = .committed i r a :: s.log → P s.db r

/-- A step that adds nothing to the log commits nothing. -/
theorem stepIf_of_log_eq {P : D → R → Prop} {s s' : TxnState I R D L ε α} (h : Step sys s s')
    (h_log : s'.log = s.log) : StepIf sys P s s' :=
  ⟨h, fun _ _ _ h_event => absurd (h_log.symm.trans h_event).symm (List.cons_ne_self _ _)⟩

/-- A client without an open transaction may begin one, if the log allows its request. -/
theorem stepIf_begin {P : D → R → Prop} {s : TxnState I R D L ε α} (i : I) (r : R)
    (h_closed : s.opened i = none) (h_allowed : sys.allowed s.log r) :
    StepIf sys P s ⟨s.db, Function.update s.opened i (some (r, ⟨sys.program r, [], some⟩)),
      .begun i r :: s.log⟩ := by
  refine ⟨.begin i r h_closed h_allowed, fun _ _ _ h_event => ?_⟩
  obtain ⟨h_begun, -⟩ := List.cons.inj h_event
  cases h_begun

/-- The other open transactions hold no locks. -/
def OthersIdle (i : I) (opened : I → Option (R × OpenTxn D L ε α)) : Prop :=
  ∀ j r t, j ≠ i → opened j = some (r, t) → t.held = []

/-- The client's own transaction does not matter to the idleness of the others. -/
theorem OthersIdle.update {i : I} {opened : I → Option (R × OpenTxn D L ε α)}
    (h : OthersIdle i opened) (x : Option (R × OpenTxn D L ε α)) :
    OthersIdle i (Function.update opened i x) := by
  intro j r t h_ne h_j
  rw [Function.update_of_ne h_ne] at h_j
  exact h j r t h_ne h_j

/-- An open transaction runs to where only its commit is left, while the others hold no lock. -/
theorem runIf_to_commit {P : D → R → Prop} {i : I} {r : R} {a : α} {db db' : D}
    {opened : I → Option (R × OpenTxn D L ε α)} (log : List (TxnEvent I R ε α))
    {p : Txn D L ε α} {held : List L} {writes : D → Option D}
    (h_open : opened i = some (r, ⟨p, held, writes⟩)) (h_idle : OthersIdle i opened)
    (h : p.alone writes db = some (a, db')) :
    ∃ t, Relation.ReflTransGen (StepIf sys P) ⟨db, opened, log⟩
        ⟨db, Function.update opened i (some (r, t)), log⟩ ∧
      t.rest = .done a ∧ t.writes db = some db' := by
  -- one statement, and the rest by induction on the program
  induction p generalizing held writes opened with
  | done a' =>
    obtain ⟨db₁, h_writes, h_eq⟩ := Option.map_eq_some_iff.mp h
    obtain ⟨rfl, rfl⟩ := Prod.mk.inj h_eq
    refine ⟨⟨.done a', held, writes⟩, ?_, rfl, h_writes⟩
    rw [← h_open, Function.update_eq_self]
  | raise e => cases h
  | lock l rest ih =>
    have h_free : ∀ j r' t, j ≠ i → opened j = some (r', t) → l ∉ t.held := by
      intro j r' t h_ne h_j
      rw [h_idle j r' t h_ne h_j]
      exact List.not_mem_nil
    obtain ⟨t, h_run, h_t⟩ :=
      ih (Function.update_self i (some (r, ⟨rest, l :: held, writes⟩)) opened) (h_idle.update _) h
    rw [Function.update_idem] at h_run
    exact ⟨t, h_run.head (stepIf_of_log_eq (.lock i h_open h_free) rfl), h_t⟩
  | query rest ih =>
    obtain ⟨view, h_view, h_rest⟩ := Option.bind_eq_some_iff.mp h
    obtain ⟨t, h_run, h_t⟩ :=
      ih view (Function.update_self i (some (r, ⟨rest view, held, writes⟩)) opened)
        (h_idle.update _) h_rest
    rw [Function.update_idem] at h_run
    exact ⟨t, h_run.head (stepIf_of_log_eq (.query i h_open h_view) rfl), h_t⟩
  | write f rest ih =>
    obtain ⟨t, h_run, h_t⟩ := ih (Function.update_self i
      (some (r, ⟨rest, held, fun db => (writes db).bind f⟩)) opened) (h_idle.update _) h
    rw [Function.update_idem] at h_run
    exact ⟨t, h_run.head (stepIf_of_log_eq (.write i h_open) rfl), h_t⟩

/-- An open transaction runs to its commit while the others hold no lock. -/
theorem runIf_rest {P : D → R → Prop} {i : I} {r : R} {a : α} {db db' : D}
    {opened : I → Option (R × OpenTxn D L ε α)} (log : List (TxnEvent I R ε α))
    {p : Txn D L ε α} {held : List L} {writes : D → Option D}
    (h_open : opened i = some (r, ⟨p, held, writes⟩)) (h_idle : OthersIdle i opened)
    (h_P : P db r) (h : p.alone writes db = some (a, db')) :
    Relation.ReflTransGen (StepIf sys P) ⟨db, opened, log⟩
      ⟨db', Function.update opened i none, .committed i r a :: log⟩ := by
  obtain ⟨⟨_, held', writes'⟩, h_run, rfl, h_writes⟩ := runIf_to_commit log h_open h_idle h
  have h_commit : Step sys
      ⟨db, Function.update opened i (some (r, ⟨.done a, held', writes'⟩)), log⟩ _ :=
    .commit i (Function.update_self i _ _) h_writes
  rw [Function.update_idem] at h_commit
  refine h_run.tail ⟨h_commit, fun _ _ _ h_event => ?_⟩
  obtain ⟨h_committed, -⟩ := List.cons.inj h_event
  cases h_committed
  exact h_P

/-- **Serial rule.** A request can run to its commit while the open transactions hold no lock. -/
theorem runIf_among {P : D → R → Prop} {r : R} {a : α} {db db' : D}
    {opened : I → Option (R × OpenTxn D L ε α)} {log : List (TxnEvent I R ε α)} {i : I}
    (h_idle : ∀ j r t, opened j = some (r, t) → t.held = []) (h_closed : opened i = none)
    (h_allowed : sys.allowed log r) (h_P : P db r)
    (h : (sys.program r).alone some db = some (a, db')) :
    Relation.ReflTransGen (StepIf sys P) ⟨db, opened, log⟩
      ⟨db', opened, .committed i r a :: .begun i r :: log⟩ := by
  have h_others : OthersIdle i opened := fun j r' t _ h_j => h_idle j r' t h_j
  have h_begin : StepIf sys P ⟨db, opened, log⟩ _ := stepIf_begin i r h_closed h_allowed
  have h_rest : Relation.ReflTransGen (StepIf sys P) _ _ :=
    runIf_rest (.begun i r :: log) (Function.update_self i _ _)
      (h_others.update (some (r, ⟨sys.program r, [], some⟩))) h_P h
  rw [Function.update_idem, ← h_closed, Function.update_eq_self i] at h_rest
  exact h_rest.head h_begin

/-- The steps of a run whose commits meet a condition are steps. -/
theorem run_of_runIf {P : D → R → Prop} {s s' : TxnState I R D L ε α}
    (h : Relation.ReflTransGen (StepIf sys P) s s') : Relation.ReflTransGen (Step sys) s s' :=
  h.lift id fun _ _ h_step => h_step.1

/-- The database and the log after some requests, each run alone to its commit. -/
def serial (sys : TxnSystem I R D L ε α) :
    List (I × R) → D → List (TxnEvent I R ε α) → Option (D × List (TxnEvent I R ε α))
  | [], db, log => some (db, log)
  | (i, r) :: rest, db, log =>
    ((sys.program r).alone some db).bind fun (a, db') =>
      sys.serial rest db' (.committed i r a :: .begun i r :: log)

/-- Each of the requests may begin when its turn comes. -/
def SerialAllowed (sys : TxnSystem I R D L ε α) :
    List (I × R) → D → List (TxnEvent I R ε α) → Prop
  | [], _, _ => True
  | (i, r) :: rest, db, log =>
    sys.allowed log r ∧ ∀ a db', (sys.program r).alone some db = some (a, db') →
      sys.SerialAllowed rest db' (.committed i r a :: .begun i r :: log)

instance decidableSerialAllowed [∀ log r, Decidable (sys.allowed log r)] :
    (rs : List (I × R)) → (db : D) → (log : List (TxnEvent I R ε α)) →
      Decidable (sys.SerialAllowed rs db log)
  | [], _, _ => .isTrue trivial
  | (i, r) :: rest, db, log =>
    match h : (sys.program r).alone some db with
    | none => decidable_of_iff (sys.allowed log r) <| by
      simp only [SerialAllowed, h, reduceCtorEq, false_imp_iff, implies_true, and_true]
    | some (a, db') =>
      have := decidableSerialAllowed rest db' (.committed i r a :: .begun i r :: log)
      decidable_of_iff (sys.allowed log r ∧
          sys.SerialAllowed rest db' (.committed i r a :: .begun i r :: log)) <| by
        refine and_congr_right fun _ =>
          ⟨fun h_rest a' db₁ h_alone => ?_, fun h_rest => h_rest a db' h⟩
        obtain ⟨rfl, rfl⟩ := Prod.mk.inj (Option.some.inj (h.symm.trans h_alone))
        exact h_rest

/-- Each of the requests meets a condition on the database that it finds. -/
def SerialMeets (sys : TxnSystem I R D L ε α) (P : D → R → Prop) : List (I × R) → D → Prop
  | [], _ => True
  | (_, r) :: rest, db =>
    P db r ∧ ∀ a db', (sys.program r).alone some db = some (a, db') → sys.SerialMeets P rest db'

instance decidableSerialMeets {P : D → R → Prop} [∀ db r, Decidable (P db r)] :
    (rs : List (I × R)) → (db : D) → Decidable (sys.SerialMeets P rs db)
  | [], _ => .isTrue trivial
  | (_, r) :: rest, db =>
    match h : (sys.program r).alone some db with
    | none => decidable_of_iff (P db r) <| by
      simp only [SerialMeets, h, reduceCtorEq, false_imp_iff, implies_true, and_true]
    | some (a, db') =>
      have : Decidable (sys.SerialMeets P rest db') := decidableSerialMeets rest db'
      decidable_of_iff (P db r ∧ sys.SerialMeets P rest db') <| by
        refine and_congr_right fun _ =>
          ⟨fun h_rest a' db₁ h_alone => ?_, fun h_rest => h_rest a db' h⟩
        obtain ⟨rfl, rfl⟩ := Prod.mk.inj (Option.some.inj (h.symm.trans h_alone))
        exact h_rest

omit [DecidableEq I] in
/-- The trivial condition is met by every serial run. -/
theorem serialMeets_true (rs : List (I × R)) (db : D) :
    sys.SerialMeets (fun _ _ => True) rs db := by
  induction rs generalizing db with
  | nil => trivial
  | cons x rest ih => exact ⟨trivial, fun _ db' _ => ih db'⟩

/-- Requests run one after the other while the open transactions hold no lock. -/
theorem runIf_serial_among {P : D → R → Prop} {rs : List (I × R)} {db db' : D}
    {opened : I → Option (R × OpenTxn D L ε α)} {log log' : List (TxnEvent I R ε α)}
    (h_idle : ∀ j r t, opened j = some (r, t) → t.held = [])
    (h_closed : ∀ x ∈ rs, opened x.1 = none) (h_allowed : sys.SerialAllowed rs db log)
    (h_P : sys.SerialMeets P rs db) (h : sys.serial rs db log = some (db', log')) :
    Relation.ReflTransGen (StepIf sys P) ⟨db, opened, log⟩ ⟨db', opened, log'⟩ := by
  induction rs generalizing db log with
  | nil =>
    obtain ⟨rfl, rfl⟩ := Prod.mk.inj (Option.some.inj h)
    exact .refl
  | cons x rest ih =>
    obtain ⟨i, r⟩ := x
    obtain ⟨⟨a, db₁⟩, h_alone, h_rest⟩ := Option.bind_eq_some_iff.mp h
    have h_first : Relation.ReflTransGen (StepIf sys P) _ _ :=
      runIf_among h_idle (h_closed _ List.mem_cons_self) h_allowed.1 h_P.1 h_alone
    exact h_first.trans (ih (fun y h_y => h_closed y (List.mem_cons_of_mem _ h_y))
      (h_allowed.2 a db₁ h_alone) (h_P.2 a db₁ h_alone) h_rest)

/-- Requests served one after the other are a run of the system, while other open
transactions hold no lock. -/
theorem run_serial_among {rs : List (I × R)} {db db' : D}
    {opened : I → Option (R × OpenTxn D L ε α)} {log log' : List (TxnEvent I R ε α)}
    (h_idle : ∀ j r t, opened j = some (r, t) → t.held = [])
    (h_closed : ∀ x ∈ rs, opened x.1 = none) (h_allowed : sys.SerialAllowed rs db log)
    (h : sys.serial rs db log = some (db', log')) :
    Relation.ReflTransGen (Step sys) ⟨db, opened, log⟩ ⟨db', opened, log'⟩ :=
  run_of_runIf (runIf_serial_among h_idle h_closed h_allowed (serialMeets_true rs db) h)

/-- Serial requests that meet the condition at their commits are a conditional run. -/
theorem runIf_serial {P : D → R → Prop} {rs : List (I × R)} {db db' : D}
    {log log' : List (TxnEvent I R ε α)} (h_allowed : sys.SerialAllowed rs db log)
    (h_P : sys.SerialMeets P rs db) (h : sys.serial rs db log = some (db', log')) :
    Relation.ReflTransGen (StepIf sys P) ⟨db, fun _ => none, log⟩ ⟨db', fun _ => none, log'⟩ :=
  runIf_serial_among (fun _ _ _ h_j => by cases h_j) (fun _ _ => rfl) h_allowed h_P h

/-- Requests served one after the other are a run of the system. -/
theorem run_serial {rs : List (I × R)} {db db' : D} {log log' : List (TxnEvent I R ε α)}
    (h_allowed : sys.SerialAllowed rs db log) (h : sys.serial rs db log = some (db', log')) :
    Relation.ReflTransGen (Step sys) ⟨db, fun _ => none, log⟩ ⟨db', fun _ => none, log'⟩ :=
  run_serial_among (fun _ _ _ h_j => by cases h_j) (fun _ _ => rfl) h_allowed h

/-- After requests that ran one after the other, a further one runs to its commit; its commit is the
last step. -/
theorem commit_after_serial {rs : List (I × R)} {i : I} {r : R} {a : α} {db db₁ db₂ : D}
    {log log₁ : List (TxnEvent I R ε α)} (h_allowed : sys.SerialAllowed rs db log)
    (h_serial : sys.serial rs db log = some (db₁, log₁)) (h_begin : sys.allowed log₁ r)
    (h_alone : (sys.program r).alone some db₁ = some (a, db₂)) :
    ∃ opened, Relation.ReflTransGen (Step sys) ⟨db, fun _ => none, log⟩
        ⟨db₁, opened, .begun i r :: log₁⟩ ∧
      Step sys ⟨db₁, opened, .begun i r :: log₁⟩
        ⟨db₂, fun _ => none, .committed i r a :: .begun i r :: log₁⟩ := by
  have h_before := run_serial h_allowed h_serial
  have h_first : Step sys ⟨db₁, fun _ => none, log₁⟩ _ := .begin i r rfl h_begin
  have h_idle : OthersIdle i
      (Function.update (fun _ => none) i (some (r, ⟨sys.program r, [], some⟩))) :=
    OthersIdle.update (fun _ _ _ _ h_j => by cases h_j) _
  obtain ⟨⟨_, held, writes⟩, h_run, rfl, h_writes⟩ := runIf_to_commit (P := fun _ _ => True)
    (.begun i r :: log₁) (Function.update_self i _ _) h_idle h_alone
  rw [Function.update_idem] at h_run
  refine ⟨_, (h_before.tail h_first).trans (run_of_runIf h_run), ?_⟩
  have h_commit : Step sys ⟨db₁, Function.update (fun _ => none) i
      (some (r, ⟨.done a, held, writes⟩)), .begun i r :: log₁⟩ _ :=
    .commit i (Function.update_self i _ _) h_writes
  rwa [Function.update_idem, Function.update_eq_self i] at h_commit

omit [DecidableEq I] in
/-- What a serial run has begun is one of its requests. -/
theorem begun_of_serial {rs : List (I × R)} {db db' : D} {log log' : List (TxnEvent I R ε α)}
    (h : sys.serial rs db log = some (db', log')) {i : I} {r : R} (h_begun : .begun i r ∈ log') :
    .begun i r ∈ log ∨ (i, r) ∈ rs := by
  induction rs generalizing db log with
  | nil =>
    obtain ⟨-, rfl⟩ := Prod.mk.inj (Option.some.inj h)
    exact .inl h_begun
  | cons x rest ih =>
    obtain ⟨j, r'⟩ := x
    obtain ⟨⟨a, db₁⟩, -, h_rest⟩ := Option.bind_eq_some_iff.mp h
    rcases ih h_rest with h_log | h_mem
    · rcases List.mem_cons.mp h_log with h_event | h_log
      · cases h_event
      rcases List.mem_cons.mp h_log with h_event | h_old
      · cases h_event
        exact .inr List.mem_cons_self
      · exact .inl h_old
    · exact .inr (List.mem_cons_of_mem _ h_mem)

/-- A request that has begun waits while others run, and then runs to its commit. -/
theorem run_overtaken {i : I} {r : R} {a : α} {rs : List (I × R)} {db db₁ db₂ : D}
    {log log₁ : List (TxnEvent I R ε α)} (h_begin : sys.allowed log r) (h_ne : ∀ x ∈ rs, x.1 ≠ i)
    (h_allowed : sys.SerialAllowed rs db (.begun i r :: log))
    (h_serial : sys.serial rs db (.begun i r :: log) = some (db₁, log₁))
    (h_alone : (sys.program r).alone some db₁ = some (a, db₂)) :
    Relation.ReflTransGen (Step sys) ⟨db, fun _ => none, log⟩
      ⟨db₂, fun _ => none, .committed i r a :: log₁⟩ := by
  have h_others : OthersIdle i
      (Function.update (fun _ => none) i (some (r, ⟨sys.program r, [], some⟩))) :=
    OthersIdle.update (fun _ _ _ _ h_j => by cases h_j) _
  have h_open := Function.update_self i
    (some (r, (⟨sys.program r, [], some⟩ : OpenTxn D L ε α))) (fun _ => none)
  have h_idle : ∀ j r' t, Function.update (fun _ => none) i
      (some (r, (⟨sys.program r, [], some⟩ : OpenTxn D L ε α))) j = some (r', t) → t.held = [] := by
    intro j r' t h_j
    by_cases h_i : j = i
    · rw [h_i, h_open] at h_j
      cases h_j
      rfl
    · exact h_others j r' t h_i h_j
  have h_between := run_serial_among h_idle
    (fun x h_x => Function.update_of_ne (h_ne x h_x) _ _) h_allowed h_serial
  have h_last : Relation.ReflTransGen (StepIf sys fun _ _ => True) _ _ :=
    runIf_rest log₁ h_open h_others trivial h_alone
  rw [Function.update_idem, Function.update_eq_self i] at h_last
  have h_first : Step sys ⟨db, fun _ => none, log⟩ _ := .begin i r rfl h_begin
  exact (h_between.trans (run_of_runIf h_last)).head h_first

omit [DecidableEq I] in
/-- Requests that may begin at any time may do so one after the other. -/
theorem serialAllowed_of_forall {rs : List (I × R)} (h : ∀ x ∈ rs, ∀ log, sys.allowed log x.2)
    (db : D) (log : List (TxnEvent I R ε α)) : sys.SerialAllowed rs db log := by
  induction rs generalizing db log with
  | nil => trivial
  | cons x rest ih =>
    refine ⟨h x List.mem_cons_self log, fun _ _ _ => ih (fun y h_y => ?_) _ _⟩
    exact h y (List.mem_cons_of_mem x h_y)

end TxnSystem

end Framework
