import DqScoring.Framework.Transaction

/-!
# Reasoning about one transaction at a time

A lock discipline says what other transactions may do to the database while some rows
are locked: it names for each lock the part of the database that only its holder
changes (`same`), how the database may grow in general (`grow`) and an invariant
(`inv`). What the holder of some locks relies on is `Discipline.rely`; what a
transaction guarantees, at its commit, is `Discipline.guarantee`.

`Discipline.wp` is the weakest precondition of a program that runs under interference:
between two statements the database changes as `rely` allows. A program `Meets` a
postcondition when every run of it alone, under such interference, commits a change that
keeps the guarantee and satisfies the postcondition.

The rule is `TxnSystem.commit_spec`: in a system all of whose programs meet their
postconditions, every commit of every interleaving satisfies the postcondition of its
request. From it `TxnSystem.committed_invariant` reduces an invariant of the committed
database and the log to one case for each request, with no concurrency left.
-/

namespace Framework

variable {I R D L ε α β : Type}

/-- What each lock protects, and how the database changes. -/
structure Discipline (D L : Type) where
  inv : D → Prop
  grow : D → D → Prop
  same : L → D → D → Prop
  grow_refl : ∀ db, grow db db
  grow_trans : ∀ {db₁ db₂ db₃}, grow db₁ db₂ → grow db₂ db₃ → grow db₁ db₃
  same_refl : ∀ l db, same l db db
  same_trans : ∀ {l db₁ db₂ db₃}, same l db₁ db₂ → same l db₂ db₃ → same l db₁ db₃

namespace Discipline

variable (d : Discipline D L)

/-- What the holder of some locks relies on while others run. -/
structure rely (held : List L) (db db' : D) : Prop where
  inv : d.inv db → d.inv db'
  grow : d.grow db db'
  same : ∀ l ∈ held, d.same l db db'

/-- What a transaction that holds some locks guarantees when it commits. -/
structure guarantee (held : List L) (db db' : D) : Prop where
  inv : d.inv db'
  grow : d.grow db db'
  same : ∀ l, l ∉ held → d.same l db db'

variable {d}

theorem rely.refl (held : List L) (db : D) : d.rely held db db :=
  ⟨id, d.grow_refl db, fun l _ => d.same_refl l db⟩

/-- What the others may do composes, as long as the same locks are held. -/
theorem rely.trans {held : List L} {db₁ db₂ db₃ : D} (h : d.rely held db₁ db₂)
    (h' : d.rely held db₂ db₃) : d.rely held db₁ db₃ :=
  ⟨h'.inv ∘ h.inv, d.grow_trans h.grow h'.grow,
    fun l hl => d.same_trans (h.same l hl) (h'.same l hl)⟩

/-- Holding fewer locks, one relies on less. -/
theorem rely.mono {held held' : List L} {db db' : D} (h : d.rely held' db db')
    (h_sub : ∀ l ∈ held, l ∈ held') : d.rely held db db' :=
  ⟨h.inv, h.grow, fun l hl => h.same l (h_sub l hl)⟩

/-- A transaction that commits is interference for the others, whose locks are not its own. -/
theorem guarantee.rely {held held' : List L} {db db' : D} (h : d.guarantee held db db')
    (h_disjoint : ∀ l ∈ held', l ∉ held) : d.rely held' db db' :=
  ⟨fun _ => h.inv, h.grow, fun l hl => h.same l (h_disjoint l hl)⟩

/-- A transaction that writes nothing keeps every guarantee. -/
theorem guarantee.refl (held : List L) {db : D} (h : d.inv db) : d.guarantee held db db :=
  ⟨h, d.grow_refl db, fun l _ => d.same_refl l db⟩

/-- What a transaction may do composes. -/
theorem guarantee.trans {held : List L} {db₁ db₂ db₃ : D} (h : d.guarantee held db₁ db₂)
    (h' : d.guarantee held db₂ db₃) : d.guarantee held db₁ db₃ :=
  ⟨h'.inv, d.grow_trans h.grow h'.grow, fun l hl => d.same_trans (h.same l hl) (h'.same l hl)⟩

/-- Holding more locks, one guarantees less. -/
theorem guarantee.mono {held held' : List L} {db db' : D} (h : d.guarantee held db db')
    (h_sub : ∀ l ∈ held, l ∈ held') : d.guarantee held' db db' :=
  ⟨h.inv, h.grow, fun l hl => h.same l fun h_mem => hl (h_sub l h_mem)⟩

/-! ### Weakest preconditions -/

variable (d) in
/-- The condition on the locks held, the writes so far and the committed database under
which a program that ends with a result ends as `K` says, whatever the others do. -/
def wp : Txn D L ε α → (α → List L → (D → Option D) → D → Prop) →
    List L → (D → Option D) → D → Prop
  | .done a, K => K a
  | .raise _, _ => fun _ _ _ => True
  | .lock l rest, K => fun held writes db =>
    -- others may have worked while the lock was awaited
      ∀ db', d.rely held db db' → wp rest K (l :: held) writes db'
  | .query rest, K => fun held writes db =>
    -- a query reads the rows now, with the writes so far
      ∀ db', d.rely held db db' → ∀ view, writes db' = some view →
        wp (rest view) K held writes db'
  | .write f rest, K => fun held writes db =>
    -- a write is buffered until the commit
      wp rest K held (fun db => (writes db).bind f) db

variable (d) in
/-- The end of a program: its commit keeps the guarantee and satisfies the postcondition. -/
def commits (post : α → D → D → Prop) (a : α) (held : List L) (writes : D → Option D) (db : D) :
    Prop :=
  ∀ db₁, d.rely held db db₁ → ∀ db', writes db₁ = some db' →
    d.guarantee held db₁ db' ∧ post a db₁ db'

variable (d) in
/-- Every commit of the program keeps the guarantee and satisfies the postcondition. -/
def Meets (p : Txn D L ε α) (post : α → D → D → Prop) : Prop :=
  ∀ db, d.inv db → d.wp p (d.commits post) [] some db

section Rules

variable {K : α → List L → (D → Option D) → D → Prop} {held : List L} {writes : D → Option D}
  {db : D}

@[simp] theorem wp_pure (a : α) :
    d.wp (pure a : Txn D L ε α) K held writes db ↔ K a held writes db := Iff.rfl

/-- A transaction that fails writes nothing. -/
@[simp] theorem wp_raise (e : ε) :
    d.wp (Txn.raise e : Txn D L ε α) K held writes db := trivial

/-- A lock is added to those held, after the others have moved. -/
@[simp] theorem wp_forUpdate {K : Unit → List L → (D → Option D) → D → Prop} (l : L) :
    d.wp (Txn.forUpdate l : Txn D L ε Unit) K held writes db ↔
      ∀ db', d.rely held db db' → K () (l :: held) writes db' := Iff.rfl

/-- A query sees the others' moves and the transaction's own writes. -/
@[simp] theorem wp_select (q : D → α) :
    d.wp (Txn.select q : Txn D L ε α) K held writes db ↔
      ∀ db', d.rely held db db' → ∀ view, writes db' = some view → K (q view) held writes db' :=
  Iff.rfl

/-- A write is added to the transaction's own. -/
@[simp] theorem wp_exec {K : Unit → List L → (D → Option D) → D → Prop} (f : D → Option D) :
    d.wp (Txn.exec f : Txn D L ε Unit) K held writes db ↔
      K () held (fun db => (writes db).bind f) db := Iff.rfl

/-- The weakest precondition of a sequence. -/
@[simp] theorem wp_bind {K : β → List L → (D → Option D) → D → Prop} (p : Txn D L ε α)
    (k : α → Txn D L ε β) :
    d.wp (p >>= k) K held writes db ↔
      d.wp p (fun a held writes db => d.wp (k a) K held writes db) held writes db := by
  show d.wp (p.andThen k) K held writes db ↔ _
  -- both sides ask the same of each statement
  induction p generalizing held writes db with
  | done a => exact Iff.rfl
  | raise e => exact Iff.rfl
  | lock l rest ih => exact forall₂_congr fun _ _ => ih
  | query rest ih => exact forall₂_congr fun _ _ => forall₂_congr fun view _ => ih view
  | write f rest ih => exact ih

/-- Rows locked one after the other are all locked in the end. -/
theorem wp_forUpdateAll {K : Unit → List L → (D → Option D) → D → Prop} {ls : List L}
    (h : ∀ db', d.rely held db db' → K () (ls.reverse ++ held) writes db') :
    d.wp (Txn.forUpdateAll ls : Txn D L ε Unit) K held writes db := by
  induction ls generalizing held db with
  | nil => exact h db (rely.refl held db)
  | cons l ls ih =>
    intro db₁ h₁
    refine ih fun db₂ h₂ => ?_
    -- the lock just taken is one more to rely on
    have h_weaker : d.rely held db₁ db₂ := h₂.mono fun l' hl' => List.mem_cons_of_mem l hl'
    have h_end := h db₂ (h₁.trans h_weaker)
    rwa [List.reverse_cons, List.append_assoc, List.singleton_append] at h_end

/-- A weaker end has a weaker precondition. -/
theorem wp_mono {K' : α → List L → (D → Option D) → D → Prop}
    (hK : ∀ a held writes db, K a held writes db → K' a held writes db) {p : Txn D L ε α}
    (h : d.wp p K held writes db) : d.wp p K' held writes db := by
  induction p generalizing held writes db with
  | done a => exact hK a held writes db h
  | raise e => trivial
  | lock l rest ih => exact fun db' hr => ih (h db' hr)
  | query rest ih => exact fun db' hr view hv => ih view (h db' hr view hv)
  | write f rest ih => exact ih h

/-- A program that only reads leaves the locks and the writes as they are. -/
theorem wp_readsOnly {p : Txn D L ε α} (hp : p.ReadsOnly)
    (h : ∀ a db', d.rely held db db' → K a held writes db') : d.wp p K held writes db := by
  induction p generalizing db with
  | done a => exact h a db (rely.refl held db)
  | raise e => trivial
  | lock l rest => exact hp.elim
  | query rest ih =>
    intro db₁ h₁ view _
    exact ih view (hp view) fun a db₂ h₂ => h a db₂ (h₁.trans h₂)
  | write f rest => exact hp.elim

/-- The precondition of a commit survives interference. -/
theorem wp_commits_of_rely {post : α → D → D → Prop} {p : Txn D L ε α} {db' : D}
    (h : d.wp p (d.commits post) held writes db) (hr : d.rely held db db') :
    d.wp p (d.commits post) held writes db' := by
  induction p generalizing writes with
  | done a => exact fun db₁ h₁ => h db₁ (hr.trans h₁)
  | raise e => trivial
  | lock l rest ih => exact fun db₁ h₁ => h db₁ (hr.trans h₁)
  | query rest ih => exact fun db₁ h₁ => h db₁ (hr.trans h₁)
  | write f rest ih => exact ih h

/-- A program that only dresses its result meets what its result then says. -/
theorem Meets.andThen {p : Txn D L ε α} {post : α → D → D → Prop} {f : α → β}
    {post' : β → D → D → Prop} (h : d.Meets p post)
    (h_post : ∀ a db db', post a db db' → post' (f a) db db') :
    d.Meets (p >>= fun a => pure (f a)) post' := by
  intro db h_inv
  rw [wp_bind]
  refine wp_mono (fun a held writes db h_commits db₁ h₁ db' h_db' => ?_) (h db h_inv)
  obtain ⟨h_guarantee, h_a⟩ := h_commits db₁ h₁ db' h_db'
  exact ⟨h_guarantee, h_post a db₁ db' h_a⟩

/-- A weaker postcondition is met as well. -/
theorem Meets.mono {p : Txn D L ε α} {post post' : α → D → D → Prop} (h : d.Meets p post)
    (h_post : ∀ a db db', post a db db' → post' a db db') : d.Meets p post' := by
  intro db h_inv
  refine wp_mono (fun a held writes db h_commits db₁ h₁ db' h_db' => ?_) (h db h_inv)
  obtain ⟨h_guarantee, h_a⟩ := h_commits db₁ h₁ db' h_db'
  exact ⟨h_guarantee, h_post a db₁ db' h_a⟩

/-- Two facts about the end of a program hold together. -/
theorem wp_and {K' : α → List L → (D → Option D) → D → Prop} {p : Txn D L ε α}
    (h : d.wp p K held writes db) (h' : d.wp p K' held writes db) :
    d.wp p (fun a held writes db => K a held writes db ∧ K' a held writes db) held writes db := by
  induction p generalizing held writes db with
  | done a => exact ⟨h, h'⟩
  | raise e => trivial
  | lock l rest ih => exact fun db' hr => ih (h db' hr) (h' db' hr)
  | query rest ih => exact fun db' hr view hv => ih view (h db' hr view hv) (h' db' hr view hv)
  | write f rest ih => exact ih h h'

/-- What always holds is a precondition of nothing. -/
theorem wp_of_forall {p : Txn D L ε α} (h : ∀ a held writes db, K a held writes db) :
    d.wp p K held writes db := by
  induction p generalizing held writes db with
  | done a => exact h a held writes db
  | raise e => trivial
  | lock l rest ih => exact fun _ _ => ih
  | query rest ih => exact fun _ _ view _ => ih view
  | write f rest ih => exact ih

/-- The invariant holds at the end, too. -/
theorem wp_inv {p : Txn D L ε α} (h_inv : d.inv db) (h : d.wp p K held writes db) :
    d.wp p (fun a held writes db => d.inv db ∧ K a held writes db) held writes db := by
  induction p generalizing held writes db with
  | done a => exact ⟨h_inv, h⟩
  | raise e => trivial
  | lock l rest ih => exact fun db' hr => ih (hr.inv h_inv) (h db' hr)
  | query rest ih => exact fun db' hr view hv => ih view (hr.inv h_inv) (h db' hr view hv)
  | write f rest ih => exact ih h_inv h

/-- At the end the database has grown from what it was. -/
theorem wp_grow {p : Txn D L ε α} {db₀ : D} (h_grow : d.grow db₀ db)
    (h : d.wp p K held writes db) :
    d.wp p (fun a held writes db => d.grow db₀ db ∧ K a held writes db) held writes db := by
  induction p generalizing held writes db with
  | done a => exact ⟨h_grow, h⟩
  | raise e => trivial
  | lock l rest ih => exact fun db' hr => ih (d.grow_trans h_grow hr.grow) (h db' hr)
  | query rest ih =>
    exact fun db' hr view hv => ih view (d.grow_trans h_grow hr.grow) (h db' hr view hv)
  | write f rest ih => exact ih h_grow h

/-- Two postconditions that are met are met together. -/
theorem Meets.and {p : Txn D L ε α} {post post' : α → D → D → Prop} (h : d.Meets p post)
    (h' : d.Meets p post') : d.Meets p fun a db db' => post a db db' ∧ post' a db db' := by
  intro db h_inv
  refine wp_mono (fun a held writes db h_both db₁ h₁ db' h_db' => ?_)
    (wp_and (h db h_inv) (h' db h_inv))
  obtain ⟨h_guarantee, h_a⟩ := h_both.1 db₁ h₁ db' h_db'
  exact ⟨h_guarantee, h_a, (h_both.2 db₁ h₁ db' h_db').2⟩

/-! ### More that a lock protects -/

section WithSame

variable {same : L → D → D → Prop} {h_refl : ∀ l db, same l db db}
  {h_trans : ∀ {l db₁ db₂ db₃}, same l db₁ db₂ → same l db₂ db₃ → same l db₁ db₃}

variable (d same h_refl h_trans) in
/-- The discipline under which the locks protect something more. -/
def withSame : Discipline D L where
  inv := d.inv
  grow := d.grow
  same l db db' := d.same l db db' ∧ same l db db'
  grow_refl := d.grow_refl
  grow_trans := d.grow_trans
  same_refl l db := ⟨d.same_refl l db, h_refl l db⟩
  same_trans h h' := ⟨d.same_trans h.1 h'.1, h_trans h.2 h'.2⟩

/-- Asking the others to keep more weakens what they may do. -/
theorem rely.of_withSame {db' : D} (h : (d.withSame same h_refl h_trans).rely held db db') :
    d.rely held db db' :=
  ⟨h.inv, h.grow, fun l hl => (h.same l hl).1⟩

/-- A transaction that also keeps what others ask it to keep. -/
theorem guarantee.withSame {db' : D} (h : d.guarantee held db db')
    (h_same : ∀ l, l ∉ held → same l db db') :
    (d.withSame same h_refl h_trans).guarantee held db db' :=
  ⟨h.inv, h.grow, fun l hl => ⟨h.same l hl, h_same l hl⟩⟩

/-- What was proved under the weaker promise of the others holds under the stronger one. -/
theorem wp_withSame {p : Txn D L ε α} (h : d.wp p K held writes db) :
    (d.withSame same h_refl h_trans).wp p K held writes db := by
  induction p generalizing held writes db with
  | done a => exact h
  | raise e => trivial
  | lock l rest ih => exact fun db' hr => ih (h db' hr.of_withSame)
  | query rest ih => exact fun db' hr view hv => ih view (h db' hr.of_withSame view hv)
  | write f rest ih => exact ih h

/-- A program whose commits change nothing of what the locks protect in addition. -/
theorem Meets.withSame {p : Txn D L ε α} {post : α → D → D → Prop} (h : d.Meets p post)
    (h_same : ∀ a db db', post a db db' → ∀ l, same l db db') :
    (d.withSame same h_refl h_trans).Meets p post := by
  intro db h_inv
  refine wp_mono (fun a held writes db h_commits db₁ h₁ db' h_db' => ?_) (wp_withSame (h db h_inv))
  obtain ⟨h_guarantee, h_a⟩ := h_commits db₁ h₁.of_withSame db' h_db'
  exact ⟨h_guarantee.withSame fun l _ => h_same a db₁ db' h_a l, h_a⟩

end WithSame

/-! ### More that no transaction breaks -/

section WithInv

variable {inv : D → Prop}

variable (d inv) in
/-- The discipline under which more is an invariant. -/
def withInv : Discipline D L where
  inv db := d.inv db ∧ inv db
  grow := d.grow
  same := d.same
  grow_refl := d.grow_refl
  grow_trans := d.grow_trans
  same_refl := d.same_refl
  same_trans := d.same_trans

/-- A stronger invariant weakens what the others may do. -/
theorem rely.of_withInv {db' : D} (h : (d.withInv inv).rely held db db')
    (h_inv : (d.withInv inv).inv db) : d.rely held db db' :=
  ⟨fun _ => (h.inv h_inv).1, h.grow, h.same⟩

/-- What was proved under the weaker invariant holds under the stronger one. -/
theorem wp_withInv {p : Txn D L ε α} (h_inv : (d.withInv inv).inv db)
    (h : d.wp p K held writes db) : (d.withInv inv).wp p K held writes db := by
  induction p generalizing held writes db with
  | done a => exact h
  | raise e => trivial
  | lock l rest ih => exact fun db' hr => ih (hr.inv h_inv) (h db' (hr.of_withInv h_inv))
  | query rest ih =>
    exact fun db' hr view hv => ih view (hr.inv h_inv) (h db' (hr.of_withInv h_inv) view hv)
  | write f rest ih => exact ih h_inv h

end WithInv

/-! ### Both -/

section Strengthened

variable {inv : D → Prop} {same : L → D → D → Prop} {h_refl : ∀ l db, same l db db}
  {h_trans : ∀ {l db₁ db₂ db₃}, same l db₁ db₂ → same l db₂ db₃ → same l db₁ db₃}

variable (d inv same h_refl h_trans) in
/-- The discipline with another invariant, under which the locks protect something more. -/
def strengthened : Discipline D L := (d.withInv inv).withSame same h_refl h_trans

variable (d inv same h_refl h_trans) in
/-- What the end of a program has to add to a commit that the discipline allows. -/
def strengthens (post post' : α → D → D → Prop) (a : α) (held : List L) (writes : D → Option D)
    (db : D) : Prop :=
  ∀ db₁, (d.strengthened inv same h_refl h_trans).rely held db db₁ → d.inv db₁ → inv db₁ →
    ∀ db', writes db₁ = some db' → post a db₁ db' →
      inv db' ∧ (∀ l, l ∉ held → same l db₁ db') ∧ post' a db₁ db'

/-- A proof from one discipline carries over to one with more invariants and more kept. -/
theorem wp_strengthened {p : Txn D L ε α} (h_inv : d.inv db) (h_inv' : inv db)
    (h : d.wp p K held writes db) :
    (d.strengthened inv same h_refl h_trans).wp p
      (fun a held writes db => (d.inv db ∧ inv db) ∧ K a held writes db) held writes db :=
  wp_inv ⟨h_inv, h_inv'⟩ (wp_withSame (wp_withInv ⟨h_inv, h_inv'⟩ h))

/-- A program whose commits are known is left to show what it adds to them. -/
theorem wp_commits_strengthened {post post' : α → D → D → Prop} {p : Txn D L ε α}
    (h_inv : d.inv db) (h_inv' : inv db) (h : d.wp p (d.commits post) held writes db)
    (h_more : (d.strengthened inv same h_refl h_trans).wp p
      (d.strengthens inv same h_refl h_trans post post') held writes db) :
    (d.strengthened inv same h_refl h_trans).wp p
      ((d.strengthened inv same h_refl h_trans).commits
        fun a db db' => post a db db' ∧ post' a db db')
      held writes db := by
  refine wp_mono ?_ (wp_and (wp_strengthened h_inv h_inv' h) h_more)
  rintro a held writes db ⟨⟨h_here, h_commits⟩, h_adds⟩ db₁ h₁ db' h_db'
  have h_inv₁ := h₁.inv h_here
  obtain ⟨h_guarantee, h_post⟩ := h_commits db₁ (h₁.of_withSame.of_withInv h_here) db' h_db'
  obtain ⟨h_kept, h_same, h_post'⟩ := h_adds db₁ h₁ h_inv₁.1 h_inv₁.2 db' h_db' h_post
  refine ⟨⟨⟨h_guarantee.inv, h_kept⟩, h_guarantee.grow, fun l hl => ?_⟩, h_post, h_post'⟩
  exact ⟨h_guarantee.same l hl, h_same l hl⟩

end Strengthened

end Rules

end Discipline

/-! ### Systems whose programs meet their postconditions -/

namespace TxnSystem

variable [DecidableEq I] {sys : TxnSystem I R D L ε α} {d : Discipline D L}
  {post : R → α → D → D → Prop} {initialDb : D → Prop}

/-- The states of a system that follows a discipline. -/
structure Follows (d : Discipline D L) (post : R → α → D → D → Prop)
    (s : TxnState I R D L ε α) : Prop where
  inv : d.inv s.db
  /-- No two open transactions hold one lock. -/
  exclusive : ∀ i j r r' t t', i ≠ j → s.opened i = some (r, t) → s.opened j = some (r', t') →
    ∀ l ∈ t.held, l ∉ t'.held
  /-- What is left of each open transaction leads to its postcondition. -/
  open_wp : ∀ i r t, s.opened i = some (r, t) →
    d.wp t.rest (d.commits (post r)) t.held t.writes s.db
  /-- An open transaction is in the log. -/
  open_begun : ∀ i r t, s.opened i = some (r, t) → .begun i r ∈ s.log

/-- Replace one open transaction by one that holds no lock that another holds. -/
private theorem exclusive_update {opened : I → Option (R × OpenTxn D L ε α)} {i : I}
    {x : Option (R × OpenTxn D L ε α)}
    (h : ∀ i j r r' t t', i ≠ j → opened i = some (r, t) → opened j = some (r', t') →
      ∀ l ∈ t.held, l ∉ t'.held)
    (hx : ∀ r t, x = some (r, t) → ∀ j r' t', j ≠ i → opened j = some (r', t') →
      ∀ l ∈ t.held, l ∉ t'.held) :
    ∀ i' j r r' t t', i' ≠ j → Function.update opened i x i' = some (r, t) →
      Function.update opened i x j = some (r', t') → ∀ l ∈ t.held, l ∉ t'.held := by
  intro i' j r r' t t' h_ne hi hj l hl hl'
  by_cases hi' : i' = i
  · subst hi'
    rw [Function.update_self] at hi
    rw [Function.update_of_ne (Ne.symm h_ne)] at hj
    exact hx r t hi j r' t' (Ne.symm h_ne) hj l hl hl'
  · rw [Function.update_of_ne hi'] at hi
    by_cases hj' : j = i
    · subst hj'
      rw [Function.update_self] at hj
      exact hx r' t' hj i' r t hi' hi l hl' hl
    · rw [Function.update_of_ne hj'] at hj
      exact h i' j r r' t t' h_ne hi hj l hl hl'

/-- What the log knows of the open transactions, when one of them is replaced. -/
private theorem begun_update {opened : I → Option (R × OpenTxn D L ε α)}
    {log log' : List (TxnEvent I R ε α)} {i : I} {x : Option (R × OpenTxn D L ε α)}
    (h : ∀ j r t, opened j = some (r, t) → .begun j r ∈ log) (h_sub : ∀ e ∈ log, e ∈ log')
    (hx : ∀ r t, x = some (r, t) → .begun i r ∈ log') :
    ∀ j r t, Function.update opened i x j = some (r, t) → .begun j r ∈ log' := by
  intro j r t hj
  by_cases hji : j = i
  · subst hji
    rw [Function.update_self] at hj
    exact hx r t hj
  · rw [Function.update_of_ne hji] at hj
    exact h_sub _ (h j r t hj)

/-- A step, where every program meets its postcondition from the state in which it may begin. -/
theorem Follows.step_of_begin {s s' : TxnState I R D L ε α} (h : Follows d post s)
    (h_begin : ∀ r, sys.allowed s.log r →
      d.wp (sys.program r) (d.commits (post r)) [] some s.db) (h_step : Step sys s s') :
    Follows d post s' := by
  -- an update of one open transaction leaves the obligations of the others
  have h_others : ∀ {opened : I → Option (R × OpenTxn D L ε α)} {db : D} {i : I}
      {x : Option (R × OpenTxn D L ε α)},
      (∀ j r t, opened j = some (r, t) → d.wp t.rest (d.commits (post r)) t.held t.writes db) →
      (∀ r t, x = some (r, t) → d.wp t.rest (d.commits (post r)) t.held t.writes db) →
      ∀ j r t, Function.update opened i x j = some (r, t) →
        d.wp t.rest (d.commits (post r)) t.held t.writes db := by
    intro opened db i x h_old h_new j r t hj
    by_cases hji : j = i
    · subst hji
      rw [Function.update_self] at hj
      exact h_new r t hj
    · rw [Function.update_of_ne hji] at hj
      exact h_old j r t hj
  cases h_step with
  | begin i r h_free h_allowed =>
    -- a new transaction holds nothing and starts at its program
    refine ⟨h.inv, exclusive_update h.exclusive ?_, h_others h.open_wp ?_,
      begun_update h.open_begun (fun _ => List.mem_cons_of_mem _) ?_⟩
    · rintro _ _ ⟨⟩ j r' t' - - l hl
      cases hl
    · rintro _ _ ⟨⟩
      exact h_begin r h_allowed
    · rintro _ _ ⟨⟩
      exact List.mem_cons_self
  | @lock i db opened log r l rest held writes h_open h_free =>
    -- the lock was free, and the others' moves may have come before it
    refine ⟨h.inv, exclusive_update h.exclusive ?_, h_others h.open_wp ?_,
      begun_update h.open_begun (fun _ => id) ?_⟩
    · rintro _ _ ⟨⟩ j r' t' h_ne hj l' hl'
      cases hl' with
      | head => exact h_free j r' t' h_ne hj
      | tail _ hl' => exact h.exclusive i j _ _ _ _ (Ne.symm h_ne) h_open hj l' hl'
    · rintro _ _ ⟨⟩
      exact h.open_wp i _ _ h_open db (Discipline.rely.refl _ _)
    · rintro _ _ ⟨⟩
      exact h.open_begun i _ _ h_open
  | @query i db opened log r rest held writes view h_open h_view =>
    -- a query reads what the transaction may assume
    refine ⟨h.inv, exclusive_update h.exclusive ?_, h_others h.open_wp ?_,
      begun_update h.open_begun (fun _ => id) ?_⟩
    · rintro _ _ ⟨⟩ j r' t' h_ne hj
      have h_exclusive := h.exclusive i j _ _ _ _ (Ne.symm h_ne) h_open hj
      exact h_exclusive
    · rintro _ _ ⟨⟩
      exact h.open_wp i _ _ h_open db (Discipline.rely.refl _ _) view h_view
    · rintro _ _ ⟨⟩
      exact h.open_begun i _ _ h_open
  | @write i db opened log r f rest held writes h_open =>
    -- a write stays private
    refine ⟨h.inv, exclusive_update h.exclusive ?_, h_others h.open_wp ?_,
      begun_update h.open_begun (fun _ => id) ?_⟩
    · rintro _ _ ⟨⟩ j r' t' h_ne hj
      have h_exclusive := h.exclusive i j _ _ _ _ (Ne.symm h_ne) h_open hj
      exact h_exclusive
    · rintro _ _ ⟨⟩
      have h_rest := h.open_wp i _ _ h_open
      exact h_rest
    · rintro _ _ ⟨⟩
      exact h.open_begun i _ _ h_open
  | @commit i db opened log r a held writes db' h_open h_writes =>
    -- the commit is interference for every other open transaction
    have h_done := h.open_wp i _ _ h_open db (Discipline.rely.refl _ _) db' h_writes
    refine ⟨h_done.1.inv, exclusive_update h.exclusive (fun _ _ hx => by cases hx), ?_,
      begun_update h.open_begun (fun _ => List.mem_cons_of_mem _) (fun _ _ hx => by cases hx)⟩
    intro j r' t' (hj : Function.update opened i none j = some (r', t'))
    by_cases hji : j = i
    · subst hji
      rw [Function.update_self] at hj
      cases hj
    · rw [Function.update_of_ne hji] at hj
      have h_disjoint : ∀ l ∈ t'.held, l ∉ held := fun l hl =>
        h.exclusive j i _ _ _ _ hji hj h_open l hl
      exact Discipline.wp_commits_of_rely (h.open_wp j _ _ hj) (h_done.1.rely h_disjoint)
  | raise i h_open =>
    -- an error ends the transaction without a write
    exact ⟨h.inv, exclusive_update h.exclusive (fun _ _ hx => by cases hx),
      h_others h.open_wp (fun _ _ hx => by cases hx),
      begun_update h.open_begun (fun _ => List.mem_cons_of_mem _) (fun _ _ hx => by cases hx)⟩
  | abort i h_open =>
    -- so does an abort
    exact ⟨h.inv, exclusive_update h.exclusive (fun _ _ hx => by cases hx),
      h_others h.open_wp (fun _ _ hx => by cases hx),
      begun_update h.open_begun (fun _ => List.mem_cons_of_mem _) (fun _ _ hx => by cases hx)⟩

/-- Each step of the system keeps every open transaction on its program's proof. -/
theorem Follows.step (h_meets : ∀ r, d.Meets (sys.program r) (post r))
    {s s' : TxnState I R D L ε α} (h : Follows d post s) (h_step : Step sys s s') :
    Follows d post s' :=
  h.step_of_begin (fun r _ => h_meets r _ h.inv) h_step

omit [DecidableEq I] in
/-- No transaction is open in an initial state. -/
theorem Follows.of_initial (h_inv : ∀ db, initialDb db → d.inv db) {s₀ : TxnState I R D L ε α}
    (h : Initial initialDb s₀) : Follows d post s₀ := by
  obtain ⟨h_db, h_none, -⟩ := h
  refine ⟨h_inv _ h_db, ?_, ?_, ?_⟩
  · intro i j r r' t t' _ hi
    rw [h_none] at hi
    cases hi
  · intro i r t hi
    rw [h_none] at hi
    cases hi
  · intro i r t hi
    rw [h_none] at hi
    cases hi

/-- Every reachable state follows the discipline. -/
theorem follows_of_reachable (h_meets : ∀ r, d.Meets (sys.program r) (post r))
    (h_inv : ∀ db, initialDb db → d.inv db) {s : TxnState I R D L ε α}
    (h : Reachable (Initial initialDb) (Step sys) s) : Follows d post s :=
  h.invariant (fun _ h₀ => .of_initial h_inv h₀) fun _ _ h_old h_step => h_old.step h_meets h_step

/-- Every reachable state follows the discipline, where what may begin in it does. -/
theorem follows_of_begin (h_begin : ∀ {s : TxnState I R D L ε α},
      Reachable (Initial initialDb) (Step sys) s → d.inv s.db → ∀ r, sys.allowed s.log r →
        d.wp (sys.program r) (d.commits (post r)) [] some s.db)
    (h_inv : ∀ db, initialDb db → d.inv db) {s : TxnState I R D L ε α}
    (h : Reachable (Initial initialDb) (Step sys) s) : Follows d post s := by
  obtain ⟨s₀, h₀, h_run⟩ := h
  -- on the run, with the reachability of the state before its last step
  induction h_run with
  | refl => exact .of_initial h_inv h₀
  | tail h_before h_last ih =>
    exact ih.step_of_begin (h_begin ⟨s₀, h₀, h_before⟩ ih.inv) h_last

/-- What a step does to the committed database and the log. -/
inductive Effect (d : Discipline D L) (post : R → α → D → D → Prop)
    (allowed : List (TxnEvent I R ε α) → R → Prop) :
    D → List (TxnEvent I R ε α) → D → List (TxnEvent I R ε α) → Prop
  | statement (db log) : Effect d post allowed db log db log
  | begun (i r db log) : allowed log r → Effect d post allowed db log db (.begun i r :: log)
  | committed (i r a db log db') : d.inv db → d.inv db' → d.grow db db' → post r a db db' →
      .begun i r ∈ log → Effect d post allowed db log db' (.committed i r a :: log)
  | rolledBack (i r e db log) : Effect d post allowed db log db (.rolledBack i r e :: log)

/-- **Commit rule.** Every step of a state that follows the discipline leaves the committed
database alone, or commits a change that satisfies the postcondition of its request. -/
theorem Follows.effect {s s' : TxnState I R D L ε α} (h_follows : Follows d post s)
    (h_step : Step sys s s') : Effect d post sys.allowed s.db s.log s'.db s'.log := by
  cases h_step with
  | begin i r _ h_allowed => exact .begun i r _ _ h_allowed
  | lock => exact .statement _ _
  | query => exact .statement _ _
  | write => exact .statement _ _
  | commit i h_open h_writes =>
    obtain ⟨h_guarantee, h_post⟩ :=
      h_follows.open_wp i _ _ h_open _ (Discipline.rely.refl _ _) _ h_writes
    exact .committed i _ _ _ _ _ h_follows.inv h_guarantee.inv h_guarantee.grow h_post
      (h_follows.open_begun i _ _ h_open)
  | raise i => exact .rolledBack i _ _ _ _
  | abort i => exact .rolledBack i _ _ _ _

/-- The commit rule for every step of every interleaving. -/
theorem effect_of_step (h_meets : ∀ r, d.Meets (sys.program r) (post r))
    (h_inv : ∀ db, initialDb db → d.inv db) {s s' : TxnState I R D L ε α}
    (h : Reachable (Initial initialDb) (Step sys) s) (h_step : Step sys s s') :
    Effect d post sys.allowed s.db s.log s'.db s'.log :=
  (follows_of_reachable h_meets h_inv h).effect h_step

/-- **Invariant rule.** An invariant of the committed database and the log needs one case
for each request that commits. -/
theorem committed_invariant {P : D → List (TxnEvent I R ε α) → Prop}
    (h_meets : ∀ r, d.Meets (sys.program r) (post r))
    (h_inv : ∀ db, initialDb db → d.inv db) (h_initial : ∀ db, initialDb db → P db [])
    (h_effect : ∀ {db log db' log'}, P db log →
      Effect d post sys.allowed db log db' log' → P db' log')
    {s : TxnState I R D L ε α} (h : Reachable (Initial initialDb) (Step sys) s) :
    P s.db s.log := by
  obtain ⟨s₀, h₀, h_run⟩ := h
  induction h_run with
  | refl =>
    obtain ⟨h_db, -, h_log⟩ := h₀
    rw [h_log]
    exact h_initial _ h_db
  | tail h_before h_last ih =>
    exact h_effect ih (effect_of_step h_meets h_inv ⟨s₀, h₀, h_before⟩ h_last)

/-! ### What a request may rely on -/

/-- Every request in a log was allowed when it began, and began before it was committed. -/
def LogAllowed (allowed : List (TxnEvent I R ε α) → R → Prop) : List (TxnEvent I R ε α) → Prop
  | [] => True
  | .begun _ r :: log => allowed log r ∧ LogAllowed allowed log
  | .committed i r _ :: log => .begun i r ∈ log ∧ LogAllowed allowed log
  | .rolledBack _ _ _ :: log => LogAllowed allowed log

section Allowed

variable {allowed : List (TxnEvent I R ε α) → R → Prop} {log log' : List (TxnEvent I R ε α)}

omit [DecidableEq I] in
/-- A step adds an event that the log allows. -/
theorem LogAllowed.effect {db db' : D} (h : LogAllowed allowed log)
    (h_effect : Effect d post allowed db log db' log') : LogAllowed allowed log' := by
  cases h_effect with
  | statement => exact h
  | begun i r _ _ h_allowed => exact ⟨h_allowed, h⟩
  | committed _ _ _ _ _ _ _ _ _ _ h_begun => exact ⟨h_begun, h⟩
  | rolledBack => exact h

omit [DecidableEq I] in
/-- What a log allowed, its tail allowed. -/
theorem LogAllowed.of_cons {e : TxnEvent I R ε α} (h : LogAllowed allowed (e :: log)) :
    LogAllowed allowed log := by
  cases e with
  | begun => exact h.2
  | committed => exact h.2
  | rolledBack => exact h

omit [DecidableEq I] in
/-- Whoever committed had begun. -/
theorem LogAllowed.begun_of_committed (h : LogAllowed allowed log) {i : I} {r : R} {a : α}
    (h_mem : .committed i r a ∈ log) : .begun i r ∈ log := by
  induction log with
  | nil => cases h_mem
  | cons e log ih =>
    rcases List.mem_cons.mp h_mem with rfl | h_later
    · exact List.mem_cons_of_mem _ h.1
    · exact List.mem_cons_of_mem _ (ih h.of_cons h_later)

omit [DecidableEq I] in
/-- A request that has begun was allowed by what the log had before. -/
theorem LogAllowed.of_mem (h : LogAllowed allowed log) {i : I} {r : R}
    (h_mem : .begun i r ∈ log) : ∃ before, before <:+ log ∧ allowed before r := by
  induction log with
  | nil => cases h_mem
  | cons e log ih =>
    rcases List.mem_cons.mp h_mem with rfl | h_later
    · exact ⟨log, List.suffix_cons _ log, h.1⟩
    · obtain ⟨before, h_before, h_allowed⟩ := ih h.of_cons h_later
      exact ⟨before, h_before.trans (List.suffix_cons e log), h_allowed⟩

end Allowed

end TxnSystem

end Framework
