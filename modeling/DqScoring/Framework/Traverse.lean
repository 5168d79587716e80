import Mathlib.Data.List.Forall2
import Mathlib.Data.List.Basic
import Mathlib.Data.List.Perm.Basic

/-!
# Fallible traversals

What a caller may conclude about `l.mapM f` in `Except ε` from what it knows about
each step:

* `ok_of_bind`: what a sequence that succeeds did first;
* `mapM_isOk_of_forall`: a traversal succeeds when all its steps do;
* `mapM_eq_ok_iff`: the results of a traversal, item by item;
* `mem_of_mapM_ok` / `exists_of_mapM_ok`: where the results of a traversal come from;
* `mapM_error_of_mem` / `mapM_error_iff`: one failing step fails the traversal;
* `mapM_rel`: two traversals of one list that fail on the same items and are related
  on the others fail together or give related lists;
* `mapM_perm` / `mapM_append_cons_eq_ok_iff`: the traversal of a permuted list, and of a
  list with one item singled out;
* `mapM_of_forall₂` / `mapM_one_error`: the results of a traversal and the partners of
  the items, also where the steps may fail with one error;
* `foldlM_rule`: what a fold of fallible steps does, from what one step does;
* `foldlM_eq_error_iff`: where a fold of fallible steps fails.

`exists_right_of_mem`, `exists_left_of_mem` and `filter_eq_of_forall₂` are what a reader
of such related lists uses: each item has its partner, and a filter that rejects the
items in which the lists differ cannot tell them apart.
-/

namespace Framework

universe u v

variable {ε β γ : Type*}

/-- What a sequence that succeeds did first. -/
theorem ok_of_bind {ε : Type u} {β γ : Type v} {x : Except ε β} {f : β → Except ε γ} {c : γ}
    (h : (x >>= f) = .ok c) : ∃ b, x = .ok b ∧ f b = .ok c := by
  cases x with
  | error e => cases h
  | ok b => exact ⟨b, rfl, h⟩

/-- A function of a result is a result. -/
theorem map_eq_ok_iff {f : β → γ} {x : Except ε β} {c : γ} :
    x.map f = .ok c ↔ ∃ b, x = .ok b ∧ f b = c := by
  cases x with
  | error e =>
    constructor
    · rintro ⟨⟩
    · rintro ⟨_, ⟨⟩, _⟩
  | ok b =>
    constructor
    · intro h
      cases h
      exact ⟨b, rfl, rfl⟩
    · rintro ⟨_, ⟨⟩, rfl⟩
      rfl

/-- Mapping keeps errors. -/
theorem map_eq_error_iff {f : β → γ} {x : Except ε β} {e : ε} :
    x.map f = .error e ↔ x = .error e := by
  cases x with
  | error e' =>
    constructor
    · rintro ⟨⟩
      rfl
    · rintro ⟨⟩
      rfl
  | ok b =>
    constructor
    · rintro ⟨⟩
    · rintro ⟨⟩

/-- A traversal all of whose steps succeed succeeds. -/
theorem mapM_isOk_of_forall {f : β → Except ε γ} {l : List β} (h : ∀ x ∈ l, ∃ b, f x = .ok b) :
    ∃ bs, l.mapM f = .ok bs := by
  induction l with
  | nil => exact ⟨[], rfl⟩
  | cons x l ih =>
    obtain ⟨b, hb⟩ := h x List.mem_cons_self
    obtain ⟨bs, hbs⟩ := ih fun y hy => h y (List.mem_cons_of_mem x hy)
    exact ⟨b :: bs, by rw [List.mapM_cons, hb, hbs]; rfl⟩

/-- A traversal whose steps return a function of the items is a map. -/
theorem mapM_eq_map {f : β → Except ε γ} {g : β → γ} {l : List β}
    (h : ∀ x ∈ l, f x = .ok (g x)) : l.mapM f = .ok (l.map g) := by
  induction l with
  | nil => rfl
  | cons x l ih =>
    rw [List.mapM_cons, h x List.mem_cons_self, ih fun y hy => h y (List.mem_cons_of_mem x hy)]
    rfl

/-- The results of a traversal that succeeds, item by item. -/
theorem mapM_eq_ok_iff {f : β → Except ε γ} {l : List β} {bs : List γ} :
    l.mapM f = .ok bs ↔ List.Forall₂ (fun x b => f x = .ok b) l bs := by
  constructor
  · intro h
    induction l generalizing bs with
    | nil =>
      cases h
      exact .nil
    | cons x l ih =>
      rw [List.mapM_cons] at h
      obtain ⟨b, h_b, h_rest⟩ := ok_of_bind h
      obtain ⟨bs', h_bs, h_ok⟩ := ok_of_bind h_rest
      cases h_ok
      exact .cons h_b (ih h_bs)
  · intro h
    induction h with
    | nil => rfl
    | cons h_b _ ih =>
      rw [List.mapM_cons, h_b, ih]
      rfl

/-- A traversal for its checks succeeds when all of them do. -/
theorem forM_eq_ok_iff {f : β → Except ε PUnit} {l : List β} :
    l.forM f = .ok ⟨⟩ ↔ ∀ x ∈ l, f x = .ok ⟨⟩ := by
  induction l with
  | nil => exact iff_of_true rfl (List.forall_mem_nil _)
  | cons x l ih =>
    rw [List.forall_mem_cons, ← ih]
    show (f x >>= fun _ => l.forM f) = .ok ⟨⟩ ↔ _
    constructor
    · intro h
      obtain ⟨_, h_head, h_rest⟩ := ok_of_bind h
      exact ⟨h_head, h_rest⟩
    · rintro ⟨h_head, h_rest⟩
      rw [h_head]
      exact h_rest

/-- One failing step fails the traversal. -/
theorem mapM_error_of_mem {f : β → Except ε γ} {l : List β} {x : β} (hx : x ∈ l)
    (h : ∃ e, f x = .error e) : ∃ e, l.mapM f = .error e := by
  induction l with
  | nil => cases hx
  | cons y l ih =>
    rw [List.mapM_cons]
    cases h_head : f y with
    | error e => exact ⟨e, rfl⟩
    | ok b =>
      -- the head succeeds, so the failing item comes later
      have hx' : x ∈ l := by
        cases hx with
        | head =>
          obtain ⟨e, he⟩ := h
          rw [h_head] at he
          cases he
        | tail _ hx' => exact hx'
      obtain ⟨e, he⟩ := ih hx'
      exact ⟨e, by rw [he]; rfl⟩

/-- Every result of a traversal comes from an item. -/
theorem mem_of_mapM_ok {f : β → Except ε γ} {l : List β} {bs : List γ}
    (h : l.mapM f = .ok bs) {b : γ} (hb : b ∈ bs) : ∃ x ∈ l, f x = .ok b := by
  induction l generalizing bs with
  | nil =>
    obtain rfl : [] = bs := Except.ok.inj h
    cases hb
  | cons x l ih =>
    rw [List.mapM_cons] at h
    cases h_head : f x with
    | error e => rw [h_head] at h; cases h
    | ok c =>
      cases h_tail : l.mapM f with
      | error e => rw [h_head, h_tail] at h; cases h
      | ok cs =>
        rw [h_head, h_tail] at h
        obtain rfl : c :: cs = bs := Except.ok.inj h
        cases hb with
        | head => exact ⟨x, List.mem_cons_self, h_head⟩
        | tail _ hb =>
          obtain ⟨y, hy, h_eq⟩ := ih h_tail hb
          exact ⟨y, List.mem_cons_of_mem x hy, h_eq⟩

/-- Every item of a traversal that succeeds has its result. -/
theorem exists_of_mapM_ok {f : β → Except ε γ} {l : List β} {bs : List γ}
    (h : l.mapM f = .ok bs) {x : β} (hx : x ∈ l) : ∃ b ∈ bs, f x = .ok b := by
  induction l generalizing bs with
  | nil => cases hx
  | cons y l ih =>
    rw [List.mapM_cons] at h
    cases h_head : f y with
    | error e => rw [h_head] at h; cases h
    | ok c =>
      cases h_tail : l.mapM f with
      | error e => rw [h_head, h_tail] at h; cases h
      | ok cs =>
        rw [h_head, h_tail] at h
        obtain rfl : c :: cs = bs := Except.ok.inj h
        cases hx with
        | head => exact ⟨c, List.mem_cons_self, h_head⟩
        | tail _ hx =>
          obtain ⟨b, hb, h_eq⟩ := ih h_tail hx
          exact ⟨b, List.mem_cons_of_mem c hb, h_eq⟩

/-- A traversal is decided by the steps on the items of the list. -/
theorem mapM_congr_left {f g : β → Except ε γ} {l : List β} (h : ∀ x ∈ l, f x = g x) :
    l.mapM f = l.mapM g := by
  induction l with
  | nil => rfl
  | cons x l ih =>
    rw [List.forall_mem_cons] at h
    rw [List.mapM_cons, List.mapM_cons, h.1, ih h.2]

/-- A function of the results of a traversal. -/
theorem map_mapM (f : β → Except ε γ) {α : Type*} (g : γ → α) (l : List β) :
    (l.mapM f).map (List.map g) = l.mapM fun x => (f x).map g := by
  induction l with
  | nil => rfl
  | cons x l ih =>
    rw [List.mapM_cons, List.mapM_cons, ← ih]
    cases f x with
    | error e => rfl
    | ok c =>
      cases l.mapM f with
      | error e => rfl
      | ok cs => rfl

/-- A traversal of a permuted list has the permuted results. -/
theorem mapM_perm {f : β → Except ε γ} {l l' : List β} {bs : List γ} (h_perm : l.Perm l')
    (h : l.mapM f = .ok bs) : ∃ bs', l'.mapM f = .ok bs' ∧ bs.Perm bs' := by
  obtain ⟨bs', h_bs', h_perm'⟩ := List.perm_comp_forall₂ h_perm.symm (mapM_eq_ok_iff.mp h)
  exact ⟨bs', mapM_eq_ok_iff.mpr h_bs', h_perm'.symm⟩

/-- A traversal goes through every item. -/
theorem mapM_append_cons_eq_ok_iff {f : β → Except ε γ} {before after : List β} {x : β}
    {bs : List γ} : (before ++ x :: after).mapM f = .ok bs ↔ ∃ bs₁ b bs₂, bs = bs₁ ++ b :: bs₂ ∧
      before.mapM f = .ok bs₁ ∧ f x = .ok b ∧ after.mapM f = .ok bs₂ := by
  constructor
  · intro h
    rw [List.mapM_append] at h
    obtain ⟨bs₁, h_before, h_rest⟩ := ok_of_bind h
    obtain ⟨rest, h_cons, h_ok⟩ := ok_of_bind h_rest
    cases h_ok
    rw [List.mapM_cons] at h_cons
    obtain ⟨b, h_x, h_more⟩ := ok_of_bind h_cons
    obtain ⟨bs₂, h_after, h_ok⟩ := ok_of_bind h_more
    cases h_ok
    exact ⟨bs₁, b, bs₂, rfl, h_before, h_x, h_after⟩
  · rintro ⟨bs₁, b, bs₂, rfl, h_before, h_x, h_after⟩
    rw [List.mapM_append, List.mapM_cons, h_before, h_x, h_after]
    rfl

/-- Where every item has a result that is related to its partner, so has the traversal. -/
theorem mapM_of_forall₂ {α : Type*} {f : β → Except ε γ} {Q : α → γ → Prop} {l : List α}
    {l' : List β} (h : List.Forall₂ (fun a x => ∃ b, f x = .ok b ∧ Q a b) l l') :
    ∃ bs, l'.mapM f = .ok bs ∧ List.Forall₂ Q l bs := by
  induction h with
  | nil => exact ⟨[], rfl, .nil⟩
  | cons h_head _ ih =>
    obtain ⟨b, h_x, h_b⟩ := h_head
    obtain ⟨bs, h_rest, h_bs⟩ := ih
    refine ⟨b :: bs, ?_, .cons h_b h_bs⟩
    rw [List.mapM_cons, h_x, h_rest]
    rfl

/-- **One error.** Where the items of a kind `L` fail, all with one error, and the others have
results in a relation `Q`, a traversal fails with that error if there is an item of the kind, and
has related results otherwise. -/
theorem mapM_one_error {α : Type*} {f : β → Except ε γ} {L : α → Prop} {Q : α → γ → Prop} {e : ε}
    {l : List α} {l' : List β} (h : List.Forall₂ (fun a x =>
      (L a ∧ f x = .error e) ∨ (¬L a ∧ ∃ b, f x = .ok b ∧ Q a b)) l l') :
    ((∃ a ∈ l, L a) ∧ l'.mapM f = .error e) ∨
      ((∀ a ∈ l, ¬L a) ∧ ∃ bs, l'.mapM f = .ok bs ∧ List.Forall₂ Q l bs) := by
  induction h with
  | nil => exact .inr ⟨List.forall_mem_nil _, [], rfl, .nil⟩
  | @cons a x l l' h_head _ ih =>
    rcases h_head with ⟨h_a, h_x⟩ | ⟨h_a, b, h_x, h_b⟩
    · refine .inl ⟨⟨a, List.mem_cons_self, h_a⟩, ?_⟩
      rw [List.mapM_cons, h_x]
      rfl
    · rcases ih with ⟨⟨a', h_mem, h_a'⟩, h_rest⟩ | ⟨h_none, bs, h_rest, h_bs⟩
      · refine .inl ⟨⟨a', List.mem_cons_of_mem a h_mem, h_a'⟩, ?_⟩
        rw [List.mapM_cons, h_x, h_rest]
        rfl
      · refine .inr ⟨List.forall_mem_cons.mpr ⟨h_a, h_none⟩, b :: bs, ?_, .cons h_b h_bs⟩
        rw [List.mapM_cons, h_x, h_rest]
        rfl

/-- Where every item has a partner, the list has a list of partners. -/
theorem exists_forall₂ {α : Type*} {R : α → β → Prop} {l : List α} (h : ∀ a ∈ l, ∃ b, R a b) :
    ∃ l', List.Forall₂ R l l' := by
  induction l with
  | nil => exact ⟨[], .nil⟩
  | cons a l ih =>
    obtain ⟨h_a, h_l⟩ := List.forall_mem_cons.mp h
    obtain ⟨b, h_b⟩ := h_a
    obtain ⟨l', h_l'⟩ := ih h_l
    exact ⟨b :: l', .cons h_b h_l'⟩

/-- **Related traversals.** Where each item either fails in both or succeeds in both
with related results, so do the traversals. -/
theorem mapM_rel {f g : β → Except ε γ} {R : γ → γ → Prop} {l : List β}
    (h : ∀ x ∈ l, (∃ e e', f x = .error e ∧ g x = .error e') ∨
      ∃ a b, f x = .ok a ∧ g x = .ok b ∧ R a b) :
    (∃ e e', l.mapM f = .error e ∧ l.mapM g = .error e') ∨
      ∃ as bs, l.mapM f = .ok as ∧ l.mapM g = .ok bs ∧ List.Forall₂ R as bs := by
  induction l with
  | nil => exact Or.inr ⟨[], [], rfl, rfl, List.Forall₂.nil⟩
  | cons x l ih =>
    rw [List.mapM_cons, List.mapM_cons]
    rcases h x List.mem_cons_self with ⟨e, e', hf, hg⟩ | ⟨a, b, hf, hg, hab⟩
    · -- both stop at the head
      exact Or.inl ⟨e, e', by rw [hf]; rfl, by rw [hg]; rfl⟩
    · rcases ih fun y hy => h y (List.mem_cons_of_mem x hy) with
        ⟨e, e', hfs, hgs⟩ | ⟨as, bs, hfs, hgs, habs⟩
      · -- both pass the head and stop later
        exact Or.inl ⟨e, e', by rw [hf, hfs]; rfl, by rw [hg, hgs]; rfl⟩
      · exact Or.inr ⟨a :: as, b :: bs, by rw [hf, hfs]; rfl, by rw [hg, hgs]; rfl,
          List.Forall₂.cons hab habs⟩

/-- **Run rule of a fold.** A relation that holds of the empty run and of a step
followed by a run holds of every fold that succeeds. -/
theorem foldlM_rule {σ : Type*} {step : σ → β → Except ε σ} {R : σ → List β → σ → Prop}
    (h_nil : ∀ s, R s [] s)
    (h_cons : ∀ s x s₁ l s', step s x = .ok s₁ → R s₁ l s' → R s (x :: l) s')
    {l : List β} {s s' : σ} (h : l.foldlM step s = .ok s') : R s l s' := by
  induction l generalizing s with
  | nil =>
    obtain rfl : s = s' := Except.ok.inj h
    exact h_nil s
  | cons x l ih =>
    rw [List.foldlM_cons] at h
    cases h_head : step s x with
    | error e => rw [h_head] at h; cases h
    | ok s₁ =>
      rw [h_head] at h
      exact h_cons s x s₁ l s' h_head (ih h)

/-- The items of a fold that succeeds have passed their steps. -/
theorem forall_of_foldlM_ok {σ : Type*} {step : σ → β → Except ε σ} {P : β → Prop}
    (h_step : ∀ s x s', step s x = .ok s' → P x) {l : List β} {s s' : σ}
    (h : l.foldlM step s = .ok s') : ∀ x ∈ l, P x :=
  foldlM_rule (R := fun _ l _ => ∀ x ∈ l, P x) (fun _ => List.forall_mem_nil _)
    (fun s x s₁ _ _ h_head h_rest => List.forall_mem_cons.mpr ⟨h_step s x s₁ h_head, h_rest⟩) h

/-- Maps agree on lists whose elements correspond. -/
theorem map_eq_of_forall₂ {α γ : Type*} {R : α → α → Prop} {f : α → γ} {l l' : List α}
    (h : List.Forall₂ R l l') (h_f : ∀ a ∈ l, ∀ a' : α, R a a' → f a = f a') :
    l.map f = l'.map f := by
  induction h with
  | nil => rfl
  | cons h_a _ ih =>
    obtain ⟨h_head, h_tail⟩ := List.forall_mem_cons.mp h_f
    rw [List.map_cons, List.map_cons, h_head _ h_a, ih h_tail]

/-- Traversals agree on lists whose elements correspond. -/
theorem mapM_eq_of_forall₂ {α : Type*} {R : α → α → Prop} {f : α → Except ε γ} {l l' : List α}
    (h : List.Forall₂ R l l') (h_f : ∀ {a a' : α}, R a a' → f a = f a') :
    l.mapM f = l'.mapM f := by
  induction h with
  | nil => rfl
  | cons h_a _ ih => rw [List.mapM_cons, List.mapM_cons, h_f h_a, ih]

/-- An item of the left list has its partner. -/
theorem exists_right_of_mem {R : β → γ → Prop} {l : List β} {l' : List γ}
    (h : List.Forall₂ R l l') {a : β} (ha : a ∈ l) : ∃ b ∈ l', R a b := by
  induction h with
  | nil => cases ha
  | cons h_head _ ih =>
    cases ha with
    | head => exact ⟨_, List.mem_cons_self, h_head⟩
    | tail _ ha =>
      obtain ⟨b, hb, hab⟩ := ih ha
      exact ⟨b, List.mem_cons_of_mem _ hb, hab⟩

/-- An item of the right list has its partner. -/
theorem exists_left_of_mem {R : β → γ → Prop} {l : List β} {l' : List γ}
    (h : List.Forall₂ R l l') {b : γ} (hb : b ∈ l') : ∃ a ∈ l, R a b :=
  exists_right_of_mem h.flip hb

/-- A filter does not tell apart lists that differ only in items it rejects. -/
theorem filter_eq_of_forall₂ {R : β → β → Prop} {p : β → Bool}
    (hp : ∀ a b, R a b → a = b ∨ p a = false ∧ p b = false) {l l' : List β}
    (h : List.Forall₂ R l l') : l.filter p = l'.filter p := by
  induction h with
  | nil => rfl
  | cons hab _ ih =>
    rcases hp _ _ hab with rfl | ⟨ha, hb⟩
    · rw [List.filter_cons, List.filter_cons, ih]
    · -- rejected on both sides
      rw [List.filter_cons_of_neg (by rw [ha]; exact Bool.false_ne_true),
        List.filter_cons_of_neg (by rw [hb]; exact Bool.false_ne_true), ih]

/-- A fold of fallible steps fails where one of them does, after those before it. -/
theorem foldlM_eq_error_iff {σ : Type*} {f : σ → β → Except ε σ} {l : List β} {s : σ} {e : ε} :
    l.foldlM f s = .error e ↔ ∃ before a after s', l = before ++ a :: after ∧
      before.foldlM f s = .ok s' ∧ f s' a = .error e := by
  induction l generalizing s with
  | nil =>
    -- an empty loop meets no error
    constructor
    · intro h
      cases h
    · rintro ⟨before, a, after, _, h, _⟩
      exact absurd h.symm (by simp)
  | cons x l ih =>
    rw [List.foldlM_cons]
    cases h_first : f s x with
    | error e' =>
      -- the first turn fails, so it is the one that is looked for
      constructor
      · intro h
        obtain rfl := Except.error.inj h
        exact ⟨[], x, l, s, rfl, rfl, h_first⟩
      · rintro ⟨before, a, after, s', h_split, h_before, h_a⟩
        cases before with
        | nil =>
          obtain ⟨rfl, rfl⟩ := List.cons.inj h_split
          obtain rfl := Except.ok.inj h_before
          rw [h_first] at h_a
          exact h_a
        | cons y before =>
          obtain ⟨rfl, -⟩ := List.cons.inj h_split
          rw [List.foldlM_cons, h_first] at h_before
          cases h_before
    | ok s₁ =>
      -- the first turn succeeds, and the error is one of the rest
      refine Iff.trans (show _ ↔ l.foldlM f s₁ = .error e from Iff.rfl) (ih.trans ?_)
      constructor
      · rintro ⟨before, a, after, s', rfl, h_before, h_a⟩
        refine ⟨x :: before, a, after, s', rfl, ?_, h_a⟩
        rw [List.foldlM_cons, h_first]
        exact h_before
      · rintro ⟨before, a, after, s', h_split, h_before, h_a⟩
        cases before with
        | nil =>
          obtain ⟨rfl, -⟩ := List.cons.inj h_split
          obtain rfl := Except.ok.inj h_before
          rw [h_first] at h_a
          cases h_a
        | cons y before =>
          obtain ⟨rfl, rfl⟩ := List.cons.inj h_split
          rw [List.foldlM_cons, h_first] at h_before
          exact ⟨before, a, after, s', rfl, h_before, h_a⟩

/-- A function of a result fails exactly if there is none. -/
theorem bind_pure_error_iff {ε : Type u} {β γ : Type v} {x : Except ε β} {g : β → γ} :
    (∃ e, (x >>= fun a => pure (g a)) = .error e) ↔ ∃ e, x = .error e := by
  cases x with
  | error e => exact iff_of_true ⟨e, rfl⟩ ⟨e, rfl⟩
  | ok a => exact iff_of_false (fun ⟨_, h⟩ => by cases h) fun ⟨_, h⟩ => by cases h

/-- A traversal fails exactly if it does on an item. -/
theorem mapM_error_iff {f : β → Except ε γ} {l : List β} :
    (∃ e, l.mapM f = .error e) ↔ ∃ x ∈ l, ∃ e, f x = .error e := by
  constructor
  · rintro ⟨e, h⟩
    by_contra h_none
    obtain ⟨bs, h_ok⟩ := mapM_isOk_of_forall (f := f) (l := l) fun x hx => by
      cases h_x : f x with
      | error e => exact absurd ⟨x, hx, e, h_x⟩ h_none
      | ok b => exact ⟨b, rfl⟩
    rw [h_ok] at h
    cases h
  · rintro ⟨x, hx, h⟩
    exact mapM_error_of_mem hx h

/-! ### Programs with a state -/

section Programs

variable {ε σ β γ : Type} {x : EStateM ε σ β} {f : β → EStateM ε σ γ} {s s' : σ}

/-- What a program that succeeds did first. -/
theorem run_of_bind {c : γ} (h : (x >>= f) s = .ok c s') :
    ∃ b s₁, x s = .ok b s₁ ∧ f b s₁ = .ok c s' := by
  change EStateM.bind x f s = _ at h
  unfold EStateM.bind at h
  cases h_x : x s with
  | error e s₁ =>
    rw [h_x] at h
    cases h
  | ok b s₁ =>
    rw [h_x] at h
    exact ⟨b, s₁, rfl, h⟩

/-- Where a program that raises has raised. -/
theorem raised_of_bind {e : ε} (h : (x >>= f) s = .error e s') :
    x s = .error e s' ∨ ∃ b s₁, x s = .ok b s₁ ∧ f b s₁ = .error e s' := by
  change EStateM.bind x f s = _ at h
  unfold EStateM.bind at h
  cases h_x : x s with
  | error e s₁ =>
    rw [h_x] at h
    cases h
    exact Or.inl rfl
  | ok b s₁ =>
    rw [h_x] at h
    exact Or.inr ⟨b, s₁, rfl, h⟩

/-- A program does what its first part does, and then the rest. -/
theorem bind_of_run {b : β} {s₁ : σ} (h : x s = .ok b s₁) : (x >>= f) s = f b s₁ := by
  show EStateM.bind x f s = _
  unfold EStateM.bind
  rw [h]

/-- A handler leaves a program that succeeds as it is. -/
theorem run_of_tryCatch {handler : ε → EStateM ε σ β} {b : β}
    (h_handler : ∀ e s₁ s₂, handler e s₁ ≠ .ok b s₂) (h : tryCatch x handler s = .ok b s') :
    x s = .ok b s' := by
  change EStateM.tryCatch x handler s = _ at h
  unfold EStateM.tryCatch at h
  cases h_x : x s with
  | error e s₁ =>
    rw [h_x] at h
    exact (h_handler _ _ _ h).elim
  | ok b₁ s₁ =>
    rw [h_x] at h
    exact h

/-- A handler that raises another error leaves a program that succeeds as it is. -/
theorem run_of_rethrow {g : ε → ε} {b : β} (h : tryCatch x (fun e => throw (g e)) s = .ok b s') :
    x s = .ok b s' := by
  refine run_of_tryCatch ?_ h
  intro e s₁ s₂ h_throw
  cases h_throw

/-- A handler does not see what succeeds. -/
theorem tryCatch_of_run {handler : ε → EStateM ε σ β} {b : β} (h : x s = .ok b s') :
    tryCatch x handler s = .ok b s' := by
  show EStateM.tryCatch x handler s = _
  unfold EStateM.tryCatch
  rw [h]

/-- A program that raises under a handler has raised, and the handler has run. -/
theorem raised_of_tryCatch {handler : ε → EStateM ε σ β} {e : ε}
    (h : tryCatch x handler s = .error e s') :
    ∃ e₁ s₁, x s = .error e₁ s₁ ∧ handler e₁ s₁ = .error e s' := by
  change EStateM.tryCatch x handler s = _ at h
  unfold EStateM.tryCatch at h
  cases h_x : x s with
  | error e₁ s₁ =>
    rw [h_x] at h
    exact ⟨e₁, s₁, rfl, h⟩
  | ok b s₁ =>
    rw [h_x] at h
    cases h

/-- The state in which a program ends, with a result or an error. -/
def finalState : EStateM.Result ε σ β → σ
  | .ok _ s => s
  | .error _ s => s

/-- The relation holds between the states before and after the program. -/
def Keeps (R : σ → σ → Prop) (x : EStateM ε σ β) : Prop := ∀ s, R s (finalState (x s))

variable {R : σ → σ → Prop}

/-- Steps that keep a relation compose. -/
theorem Keeps.bind (h_trans : ∀ {a b c : σ}, R a b → R b c → R a c) (h : Keeps R x)
    (h_f : ∀ b, Keeps R (f b)) : Keeps R (x >>= f) := by
  intro s
  have h_first := h s
  show R s (finalState (EStateM.bind x f s))
  unfold EStateM.bind
  cases h_x : x s with
  | error e s₁ =>
    rw [h_x] at h_first
    exact h_first
  | ok b s₁ =>
    rw [h_x] at h_first
    exact h_trans h_first (h_f b s₁)

/-- A handler keeps what both parts keep. -/
theorem Keeps.tryCatch (h_trans : ∀ {a b c : σ}, R a b → R b c → R a c)
    {handler : ε → EStateM ε σ β} (h : Keeps R x) (h_handler : ∀ e, Keeps R (handler e)) :
    Keeps R (tryCatch x handler) := by
  intro s
  have h_first := h s
  show R s (finalState (EStateM.tryCatch x handler s))
  unfold EStateM.tryCatch
  cases h_x : x s with
  | error e s₁ =>
    rw [h_x] at h_first
    exact h_trans h_first (h_handler e s₁)
  | ok b s₁ =>
    rw [h_x] at h_first
    exact h_first

end Programs

end Framework
