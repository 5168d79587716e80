import Mathlib.Algebra.Order.Field.Basic
import Mathlib.Algebra.BigOperators.Group.List.Basic
import Mathlib.Algebra.Order.BigOperators.Group.List
import Mathlib.Data.List.Forall2

/-!
# Weighted means of finite lists

A list of pairs `(weight, value)` over an ordered field has the weighted mean
`(∑ w · x) / ∑ w` when its total weight is positive, and no mean otherwise. The
mean is defined by the guarded division an implementation performs, so that a
program which filters its items first and divides afterwards is an instance of
it.

Three facts are all a user of the mean needs:

* `weightedMean_mem_Icc`: with non-negative weights, the mean stays between any
  two bounds of the values;
* `weightedMean_eq_none_iff`: with positive weights, the mean is absent exactly
  for the empty list;
* `weightedMean_perm`: the mean does not depend on the order of the list.

`weightedSum_indicator` covers shares: the weighted sum of an indicator is the
weight of the selected items, so that a quotient of two weights is a mean too.

`presentValues` covers items that may have no value: the mean is over those that have one
and a positive weight, which makes the three facts unconditional.
-/

namespace Framework

section Sums

variable {α β : Type*} [Field α]

/-- The sum of the weights. -/
def totalWeight (l : List (α × α)) : α := (l.map Prod.fst).sum

/-- The sum of the values, each multiplied by its weight. -/
def weightedSum (l : List (α × α)) : α := (l.map fun p => p.1 * p.2).sum

@[simp] theorem totalWeight_nil : totalWeight ([] : List (α × α)) = 0 := rfl

@[simp] theorem totalWeight_cons (p : α × α) (l : List (α × α)) :
    totalWeight (p :: l) = p.1 + totalWeight l := by
  unfold totalWeight
  rw [List.map_cons, List.sum_cons]

@[simp] theorem weightedSum_nil : weightedSum ([] : List (α × α)) = 0 := rfl

@[simp] theorem weightedSum_cons (p : α × α) (l : List (α × α)) :
    weightedSum (p :: l) = p.1 * p.2 + weightedSum l := by
  unfold weightedSum
  rw [List.map_cons, List.sum_cons]

/-- The total weight of items read off a list by a weight function. -/
theorem totalWeight_map (w v : β → α) (l : List β) :
    totalWeight (l.map fun x => (w x, v x)) = (l.map w).sum := by
  unfold totalWeight
  rw [List.map_map]
  rfl

/-- The weighted sum of values read off a list. -/
theorem weightedSum_map (w v : β → α) (l : List β) :
    weightedSum (l.map fun x => (w x, v x)) = (l.map fun x => w x * v x).sum := by
  unfold weightedSum
  rw [List.map_map]
  rfl

/-- The weight of the items a predicate selects is the weighted sum of its
indicator. -/
theorem weightedSum_indicator (w : β → α) (p : β → Bool) (l : List β) :
    weightedSum (l.map fun x => (w x, if p x then 1 else 0)) = ((l.filter p).map w).sum := by
  induction l with
  | nil => rfl
  | cons x l ih =>
    rw [List.map_cons, weightedSum_cons, ih]
    by_cases hx : p x = true
    · rw [List.filter_cons_of_pos hx, List.map_cons, List.sum_cons, if_pos hx, mul_one]
    · rw [List.filter_cons_of_neg hx, if_neg hx, mul_zero, zero_add]

/-! ### Order independence of the sums -/

/-- The total weight does not depend on the order. -/
theorem totalWeight_perm {l l' : List (α × α)} (h : l.Perm l') :
    totalWeight l = totalWeight l' :=
  (h.map Prod.fst).sum_eq

/-- The weighted sum does not depend on the order. -/
theorem weightedSum_perm {l l' : List (α × α)} (h : l.Perm l') :
    weightedSum l = weightedSum l' :=
  (h.map fun p : α × α => p.1 * p.2).sum_eq

end Sums

variable {α : Type*} [Field α] [LinearOrder α]

/-- The weighted mean, absent when the total weight is not positive. -/
def weightedMean (l : List (α × α)) : Option α :=
  if totalWeight l > 0 then some (weightedSum l / totalWeight l) else none

/-- The mean does not depend on the order of the list. -/
theorem weightedMean_perm {l l' : List (α × α)} (h : l.Perm l') :
    weightedMean l = weightedMean l' := by
  unfold weightedMean
  rw [totalWeight_perm h, weightedSum_perm h]

/-! ### Presence -/

variable [IsStrictOrderedRing α]

/-- Weights that are not negative sum to one that is not. -/
theorem totalWeight_nonneg {l : List (α × α)} (hw : ∀ p ∈ l, 0 ≤ p.1) :
    0 ≤ totalWeight l := by
  refine List.sum_nonneg ?_
  intro x hx
  obtain ⟨p, hp, rfl⟩ := List.mem_map.mp hx
  exact hw p hp

/-- Positive weights add up to a positive total as soon as there is one. -/
theorem totalWeight_pos_iff {l : List (α × α)} (hw : ∀ p ∈ l, 0 < p.1) :
    totalWeight l > 0 ↔ l ≠ [] := by
  cases l with
  | nil => simp
  | cons p l =>
    have h_head : 0 < p.1 := hw p List.mem_cons_self
    have h_tail : 0 ≤ totalWeight l :=
      totalWeight_nonneg fun q hq => (hw q (List.mem_cons_of_mem p hq)).le
    rw [totalWeight_cons]
    exact ⟨fun _ => List.cons_ne_nil p l, fun _ => add_pos_of_pos_of_nonneg h_head h_tail⟩

/-- With positive weights the mean is absent for the empty list only. -/
theorem weightedMean_eq_none_iff {l : List (α × α)} (hw : ∀ p ∈ l, 0 < p.1) :
    weightedMean l = none ↔ l = [] := by
  have h_pos := totalWeight_pos_iff hw
  unfold weightedMean
  by_cases hl : l = []
  · subst hl
    simp
  · rw [if_pos (h_pos.mpr hl)]
    exact ⟨fun h => absurd h (Option.some_ne_none _), fun h => absurd h hl⟩

/-- With positive weights every other list has a mean. -/
theorem weightedMean_isSome_iff {l : List (α × α)} (hw : ∀ p ∈ l, 0 < p.1) :
    (weightedMean l).isSome ↔ l ≠ [] := by
  rw [Option.isSome_iff_ne_none, ne_eq, weightedMean_eq_none_iff hw]

/-! ### Bounds -/

/-- Multiplying each weight by a lower bound of the values underestimates the
weighted sum. -/
theorem mul_totalWeight_le_weightedSum {a : α} {l : List (α × α)}
    (hw : ∀ p ∈ l, 0 ≤ p.1) (hx : ∀ p ∈ l, a ≤ p.2) :
    a * totalWeight l ≤ weightedSum l := by
  induction l with
  | nil => simp
  | cons p l ih =>
    have h_head : a * p.1 ≤ p.1 * p.2 := by
      rw [mul_comm a p.1]
      exact mul_le_mul_of_nonneg_left (hx p List.mem_cons_self) (hw p List.mem_cons_self)
    have h_tail := ih (fun q hq => hw q (List.mem_cons_of_mem p hq))
      (fun q hq => hx q (List.mem_cons_of_mem p hq))
    rw [totalWeight_cons, weightedSum_cons, mul_add]
    exact add_le_add h_head h_tail

/-- Multiplying each weight by an upper bound of the values overestimates the
weighted sum. -/
theorem weightedSum_le_mul_totalWeight {b : α} {l : List (α × α)}
    (hw : ∀ p ∈ l, 0 ≤ p.1) (hx : ∀ p ∈ l, p.2 ≤ b) :
    weightedSum l ≤ b * totalWeight l := by
  induction l with
  | nil => simp
  | cons p l ih =>
    have h_head : p.1 * p.2 ≤ b * p.1 := by
      rw [mul_comm b p.1]
      exact mul_le_mul_of_nonneg_left (hx p List.mem_cons_self) (hw p List.mem_cons_self)
    have h_tail := ih (fun q hq => hw q (List.mem_cons_of_mem p hq))
      (fun q hq => hx q (List.mem_cons_of_mem p hq))
    rw [totalWeight_cons, weightedSum_cons, mul_add]
    exact add_le_add h_head h_tail

/-- **Bounds of the mean.** With non-negative weights the mean lies between any
lower and any upper bound of the values. -/
theorem weightedMean_mem_Icc {a b : α} {l : List (α × α)} (hw : ∀ p ∈ l, 0 ≤ p.1)
    (hx : ∀ p ∈ l, p.2 ∈ Set.Icc a b) {m : α} (hm : weightedMean l = some m) :
    m ∈ Set.Icc a b := by
  unfold weightedMean at hm
  split at hm
  -- with no weight there is no mean to bound
  case isFalse => exact absurd hm.symm (Option.some_ne_none m)
  case isTrue h_pos =>
    obtain rfl := Option.some.inj hm
    constructor
    · rw [le_div_iff₀ h_pos]
      exact mul_totalWeight_le_weightedSum hw fun p hp => (hx p hp).1
    · rw [div_le_iff₀ h_pos]
      exact weightedSum_le_mul_totalWeight hw fun p hp => (hx p hp).2

/-! ### Monotonicity -/

/-- The same weights with values that are at least as large. -/
def Dominates (l l' : List (α × α)) : Prop :=
  List.Forall₂ (fun p p' => p.1 = p'.1 ∧ p.2 ≤ p'.2) l l'

omit [Field α] [IsStrictOrderedRing α] in
theorem Dominates.refl (l : List (α × α)) : Dominates l l :=
  List.forall₂_same.mpr fun p _ => ⟨rfl, le_refl p.2⟩

omit [IsStrictOrderedRing α] in
/-- A list that dominates another has its weights. -/
theorem Dominates.totalWeight_eq {l l' : List (α × α)} (h : Dominates l l') :
    totalWeight l = totalWeight l' := by
  induction h with
  | nil => rfl
  | cons h_head _ ih => rw [totalWeight_cons, totalWeight_cons, h_head.1, ih]

/-- A list that dominates another has the larger sum. -/
theorem Dominates.weightedSum_le {l l' : List (α × α)} (h : Dominates l l')
    (hw : ∀ p ∈ l, 0 ≤ p.1) : weightedSum l ≤ weightedSum l' := by
  induction h with
  | nil => exact le_refl _
  | @cons p p' l l' h_head _ ih =>
    have h_mul : p.1 * p.2 ≤ p'.1 * p'.2 := by
      rw [← h_head.1]
      exact mul_le_mul_of_nonneg_left h_head.2 (hw p List.mem_cons_self)
    rw [weightedSum_cons, weightedSum_cons]
    exact add_le_add h_mul (ih fun q hq => hw q (List.mem_cons_of_mem p hq))

omit [Field α] [IsStrictOrderedRing α] in
/-- Related values are present together. -/
theorem isSome_eq_of_rel {a b : Option α} (h : Option.Rel (· ≤ ·) a b) :
    b.isSome = a.isSome := by
  cases h <;> rfl

omit [Field α] [IsStrictOrderedRing α] in
/-- Related values stay ordered under a default for the absent one. -/
theorem getD_le_of_rel {a b : Option α} (h : Option.Rel (· ≤ ·) a b) (x : α) :
    a.getD x ≤ b.getD x := by
  cases h with
  | some h_le => exact h_le
  | none => exact le_refl x

/-- **Monotonicity of the mean.** With non-negative weights, larger values have a larger
mean, and the one is present exactly when the other is. -/
theorem weightedMean_mono {l l' : List (α × α)} (h : Dominates l l')
    (hw : ∀ p ∈ l, 0 ≤ p.1) : Option.Rel (· ≤ ·) (weightedMean l) (weightedMean l') := by
  unfold weightedMean
  rw [← h.totalWeight_eq]
  by_cases h_pos : totalWeight l > 0
  · rw [if_pos h_pos, if_pos h_pos]
    exact Option.Rel.some (div_le_div_of_nonneg_right (h.weightedSum_le hw) h_pos.le)
  · rw [if_neg h_pos, if_neg h_pos]
    exact Option.Rel.none

/-! ### Values that may be absent -/

section Present

variable {β γ : Type*}

omit [IsStrictOrderedRing α]

/-- Weight and value of the items that have a value and a positive weight. -/
def presentValues (w : β → α) (q : β → Option α) (l : List β) : List (α × α) :=
  (l.filter fun x => (q x).isSome && decide (w x > 0)).map fun x => (w x, (q x).getD 0)

/-- The present values are those with a positive weight. -/
theorem mem_presentValues {w : β → α} {q : β → Option α} {l : List β} {p : α × α} :
    p ∈ presentValues w q l ↔ ∃ x ∈ l, ∃ v, q x = some v ∧ 0 < w x ∧ p = (w x, v) := by
  unfold presentValues
  rw [List.mem_map]
  constructor
  · rintro ⟨x, h_mem, rfl⟩
    obtain ⟨h_x, h_present⟩ := List.mem_filter.mp h_mem
    rw [Bool.and_eq_true, decide_eq_true_eq] at h_present
    obtain ⟨v, h_v⟩ := Option.isSome_iff_exists.mp h_present.1
    exact ⟨x, h_x, v, h_v, h_present.2, by rw [h_v, Option.getD_some]⟩
  · rintro ⟨x, h_x, v, h_v, h_pos, rfl⟩
    refine ⟨x, List.mem_filter.mpr ⟨h_x, ?_⟩, by rw [h_v, Option.getD_some]⟩
    rw [h_v, Option.isSome_some, Bool.true_and, decide_eq_true_eq]
    exact h_pos

/-- Only the weights of the list's elements count. -/
theorem presentValues_congr {w w' : β → α} {q : β → Option α} {l : List β}
    (h : ∀ x ∈ l, w x = w' x) : presentValues w q l = presentValues w' q l := by
  unfold presentValues
  have h_filter : (l.filter fun x => (q x).isSome && decide (w x > 0)) =
      l.filter fun x => (q x).isSome && decide (w' x > 0) := by
    refine List.filter_congr fun x hx => ?_
    rw [h x hx]
  rw [h_filter]
  refine List.map_congr_left fun x hx => ?_
  rw [h x (List.mem_of_mem_filter hx)]

/-- Weights and values may be read after a map. -/
theorem presentValues_map (w : β → α) (q : β → Option α) (f : γ → β) (l : List γ) :
    presentValues w q (l.map f) = presentValues (fun x => w (f x)) (fun x => q (f x)) l := by
  unfold presentValues
  rw [List.filter_map, List.map_map]
  rfl

/-- Nothing is present when every element of positive weight lacks a value. -/
theorem presentValues_eq_nil_iff {w : β → α} {q : β → Option α} {l : List β} :
    presentValues w q l = [] ↔ ∀ x ∈ l, 0 < w x → q x = none := by
  rw [List.eq_nil_iff_forall_not_mem]
  constructor
  · intro h x h_x h_pos
    rw [Option.eq_none_iff_forall_ne_some]
    intro v h_v
    exact h (w x, v) (mem_presentValues.mpr ⟨x, h_x, v, h_v, h_pos, rfl⟩)
  · intro h p h_mem
    obtain ⟨x, h_x, v, h_v, h_pos, -⟩ := mem_presentValues.mp h_mem
    rw [h x h_x h_pos] at h_v
    cases h_v

/-- Present values have positive weights. -/
theorem presentValues_pos {w : β → α} {q : β → Option α} {l : List β} :
    ∀ p ∈ presentValues w q l, 0 < p.1 := by
  intro p h_mem
  obtain ⟨x, -, v, -, h_pos, rfl⟩ := mem_presentValues.mp h_mem
  exact h_pos

variable [IsStrictOrderedRing α]

/-- The mean is absent exactly when no item of positive weight has a value. -/
theorem weightedMean_presentValues_eq_none_iff {w : β → α} {q : β → Option α} {l : List β} :
    weightedMean (presentValues w q l) = none ↔ ∀ x ∈ l, 0 < w x → q x = none := by
  rw [weightedMean_eq_none_iff presentValues_pos, presentValues_eq_nil_iff]

/-- The mean lies between the bounds of the values. -/
theorem weightedMean_presentValues_mem_Icc {a b : α} {w : β → α} {q : β → Option α} {l : List β}
    (h : ∀ x ∈ l, ∀ v ∈ q x, v ∈ Set.Icc a b) {m : α}
    (hm : weightedMean (presentValues w q l) = some m) : m ∈ Set.Icc a b := by
  refine weightedMean_mem_Icc (fun p hp => (presentValues_pos p hp).le) ?_ hm
  intro p hp
  obtain ⟨x, h_x, v, h_v, -, rfl⟩ := mem_presentValues.mp hp
  exact h x h_x v h_v

/-- Values that are at least as large, present for the same items, have a mean that is at
least as large. -/
theorem weightedMean_presentValues_mono {w : β → α} {q q' : β → Option α} {l : List β}
    (h : ∀ x ∈ l, Option.Rel (· ≤ ·) (q x) (q' x)) :
    Option.Rel (· ≤ ·) (weightedMean (presentValues w q l))
      (weightedMean (presentValues w q' l)) := by
  refine weightedMean_mono ?_ fun p hp => (presentValues_pos p hp).le
  unfold Dominates presentValues
  rw [List.forall₂_map_left_iff, List.forall₂_map_right_iff]
  have h_filter : (l.filter fun x => (q' x).isSome && decide (w x > 0)) =
      l.filter fun x => (q x).isSome && decide (w x > 0) := by
    refine List.filter_congr fun x hx => ?_
    rw [isSome_eq_of_rel (h x hx)]
  rw [h_filter]
  refine List.forall₂_same.mpr fun x hx => ⟨rfl, ?_⟩
  exact getD_le_of_rel (h x (List.mem_of_mem_filter hx)) 0

end Present

end Framework
