import Mathlib.Data.Fintype.Option
import Mathlib.Data.List.Count
import Mathlib.Algebra.BigOperators.Group.List.Basic
import Mathlib.Algebra.GroupWithZero.Nat

/-!
# Three-valued logic

The connectives of SQL on `Option Bool`, where `none` is NULL, and what a chain of
conditions does with it. `cascade` turns guards, in order of priority, into conditions
that exclude each other: the first guard, the second and not the first, and so on,
and last none of them. With two truth values exactly one condition is true. With three,
none is as soon as a guard is NULL before one is true (`countP_cascade`). Where exactly
one is true at every row, the conditions count every row once (`sum_countP_of_one`).
-/

namespace Framework

namespace Kleene

/-- SQL's NOT. -/
def not3 (x : Option Bool) : Option Bool := x.map fun b => !b

/-- SQL's AND. -/
def and3 : Option Bool → Option Bool → Option Bool
  | some false, _ => some false
  | _, some false => some false
  | some true, some true => some true
  | _, _ => none

/-- SQL's OR. -/
def or3 : Option Bool → Option Bool → Option Bool
  | some true, _ => some true
  | _, some true => some true
  | some false, some false => some false
  | _, _ => none

@[simp] theorem not3_some (b : Bool) : not3 (some b) = some (!b) := rfl

@[simp] theorem and3_some (a b : Bool) : and3 (some a) (some b) = some (a && b) := by
  cases a <;> cases b <;> rfl

@[simp] theorem or3_some (a b : Bool) : or3 (some a) (some b) = some (a || b) := by
  cases a <;> cases b <;> rfl

@[simp] theorem false_and3 (x : Option Bool) : and3 (some false) x = some false := by
  cases x <;> rfl

@[simp] theorem true_and3 (x : Option Bool) : and3 (some true) x = x := by
  cases x with
  | none => rfl
  | some b => cases b <;> rfl

/-- An unknown condition makes no conjunction true. -/
@[simp] theorem none_and3_ne_true (x : Option Bool) : and3 none x ≠ some true := by
  cases x with
  | none => exact fun h => by cases h
  | some b => cases b <;> exact fun h => by cases h

/-- Conjunction is associative, unknown values included. -/
theorem and3_assoc (x y z : Option Bool) : and3 (and3 x y) z = and3 x (and3 y z) := by
  revert x y z
  decide

/-- A negation is true exactly when the condition is false. -/
theorem not3_eq_true_iff {x : Option Bool} : not3 x = some true ↔ x = some false := by
  revert x
  decide

/-- A conjunction is true exactly when both parts are. -/
theorem and3_eq_true_iff {x y : Option Bool} :
    and3 x y = some true ↔ x = some true ∧ y = some true := by
  revert x y
  decide

/-- A disjunction is true exactly when one part is. -/
theorem or3_eq_true_iff {x y : Option Bool} :
    or3 x y = some true ↔ x = some true ∨ y = some true := by
  revert x y
  decide

/-! ### Cascades -/

/-- The guards are not NULL up to the first that is true. -/
def decided : List (Option Bool) → Bool
  | [] => true
  | some true :: _ => true
  | some false :: gs => decided gs
  | none :: _ => false

/-- The conditions of some guards in order of priority, with the condition that none of
them holds as the last. -/
def cascade : List (Option Bool) → List (Option Bool)
  | [] => [some true]
  | g :: gs => g :: (cascade gs).map (and3 (not3 g))

/-- **A cascade partitions.** Exactly one of its conditions is true when the guards are
decided, and none otherwise. -/
theorem countP_cascade (gs : List (Option Bool)) :
    (cascade gs).countP (· = some true) = if decided gs then 1 else 0 := by
  induction gs with
  | nil => rfl
  | cons g gs ih =>
    rw [cascade, List.countP_cons, List.countP_map]
    match g with
    | some true =>
      -- the head is taken, so nothing later is
      have h_rest : (cascade gs).countP
          ((fun x => decide (x = some true)) ∘ and3 (not3 (some true))) = 0 := by
        rw [List.countP_eq_zero]
        intro x _
        simp
      rw [h_rest]
      rfl
    | some false =>
      -- the head is not counted, and its negation keeps the rest as it is
      have h_rest : (cascade gs).countP
          ((fun x => decide (x = some true)) ∘ and3 (not3 (some false))) =
            (cascade gs).countP (· = some true) :=
        List.countP_congr fun x _ => by simp
      rw [h_rest, ih]
      rfl
    | none =>
      -- the negation of NULL is NULL, so the head spoils every later condition
      have h_rest : (cascade gs).countP
          ((fun x => decide (x = some true)) ∘ and3 (not3 none)) = 0 := by
        rw [List.countP_eq_zero]
        intro x _ h_true
        exact none_and3_ne_true x (of_decide_eq_true h_true)
      rw [h_rest]
      rfl

/-- A cascade has at most one true condition, and one exactly when it is decided. -/
theorem countP_cascade_eq_one_iff (gs : List (Option Bool)) :
    (cascade gs).countP (· = some true) = 1 ↔ decided gs = true := by
  rw [countP_cascade]
  cases decided gs <;> decide

/-- Guards that are never NULL are decided. -/
theorem decided_of_forall_isSome {gs : List (Option Bool)} (h : ∀ g ∈ gs, g.isSome = true) :
    decided gs = true := by
  induction gs with
  | nil => rfl
  | cons g gs ih =>
    have h_head := h g List.mem_cons_self
    have h_tail := ih fun g' h_g' => h g' (List.mem_cons_of_mem g h_g')
    match g with
    | some true => rfl
    | some false => exact h_tail
    | none => cases h_head

/-! ### Counting -/

section Counting

variable {β ρ : Type*}

/-- A sum of ones and zeros counts. -/
theorem sum_indicator (l : List β) (p : β → Bool) :
    (l.map fun b => if p b then 1 else 0).sum = l.countP p := by
  induction l with
  | nil => rfl
  | cons b l ih => rw [List.map_cons, List.sum_cons, ih, List.countP_cons, Nat.add_comm]

/-- Conditions that exclude each other are counted one by one. -/
theorem countP_or {p q : ρ → Bool} {l : List ρ} (h : ∀ r ∈ l, p r = true → q r = false) :
    l.countP (fun r => p r || q r) = l.countP p + l.countP q := by
  induction l with
  | nil => rfl
  | cons r l ih =>
    obtain ⟨h_r, h_l⟩ := List.forall_mem_cons.mp h
    rw [List.countP_cons, List.countP_cons, List.countP_cons, ih h_l]
    cases h_p : p r with
    | true =>
      rw [h_r h_p]
      simp only [Bool.true_or, if_true]
      simp only [Bool.false_eq_true, if_false]
      omega
    | false =>
      rw [Bool.false_or]
      simp only [Bool.false_eq_true, if_false]
      omega

/-- The numbers of rows at which some conditions hold add up to the numbers of conditions
that hold at the rows. -/
theorem sum_countP_comm (conditions : List β) (rows : List ρ) (holds : β → ρ → Bool) :
    (conditions.map fun b => rows.countP (holds b)).sum =
      (rows.map fun r => conditions.countP (holds · r)).sum := by
  -- both sides count the pairs of a condition and a row where it holds, row by row
  induction rows with
  | nil => simp
  | cons r rows ih =>
    simp only [List.countP_cons, List.sum_map_add, List.map_cons, List.sum_cons, ih,
      sum_indicator conditions (holds · r)]
    exact Nat.add_comm ..

/-- Conditions of which exactly one holds at every row count every row once. -/
theorem sum_countP_of_one {conditions : List β} {rows : List ρ} {holds : β → ρ → Bool}
    (h : ∀ r ∈ rows, conditions.countP (holds · r) = 1) :
    (conditions.map fun b => rows.countP (holds b)).sum = rows.length := by
  rw [sum_countP_comm, List.map_congr_left h, List.map_const', List.sum_replicate_nat, mul_one]

end Counting

end Kleene

end Framework
