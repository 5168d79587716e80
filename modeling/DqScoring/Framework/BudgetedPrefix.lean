import Mathlib.Algebra.BigOperators.Group.List.Basic
import Mathlib.Algebra.Ring.Nat
import Mathlib.Data.List.Basic

/-!
# Prefixes within a budget

A loop keeps items while their running cost stays within a budget and stops at the first one
that does not fit. What it keeps is a prefix (`budgetedPrefix_prefix`) that costs at most the
budget (`cost_budgetedPrefix_le`), and it says that it stopped exactly when an item is missing
(`budgetedPrefix_cut_iff`).
-/

namespace Framework

variable {α : Type*} (cost : α → ℕ) (budget : ℕ)

/-- The items that fit after what is used, and whether the loop stopped. -/
def budgetedPrefix : ℕ → List α → List α × Bool
  | _, [] => ([], false)
  | used, item :: items =>
    if budget < used + cost item then ([], true)
    else
      let rest := budgetedPrefix (used + cost item) items
      (item :: rest.1, rest.2)

variable {cost budget} {used : ℕ} {item : α} {items : List α}

/-- The first item that does not fit ends the prefix. -/
theorem budgetedPrefix_cons_of_lt (h : budget < used + cost item) :
    budgetedPrefix cost budget used (item :: items) = ([], true) := if_pos h

/-- An item that fits is taken. -/
theorem budgetedPrefix_cons_of_le (h : used + cost item ≤ budget) :
    budgetedPrefix cost budget used (item :: items) =
      (item :: (budgetedPrefix cost budget (used + cost item) items).1,
        (budgetedPrefix cost budget (used + cost item) items).2) := if_neg (Nat.not_lt.mpr h)

/-- What is taken is a prefix. -/
theorem budgetedPrefix_prefix (cost : α → ℕ) (budget used : ℕ) (items : List α) :
    (budgetedPrefix cost budget used items).1 <+: items := by
  induction items generalizing used with
  | nil => exact List.nil_prefix
  | cons item items ih =>
    rcases Nat.lt_or_ge budget (used + cost item) with h_large | h_fits
    · rw [budgetedPrefix_cons_of_lt h_large]
      exact List.nil_prefix
    · rw [budgetedPrefix_cons_of_le h_fits]
      exact List.prefix_cons_inj _ |>.mpr (ih _)

/-- What is taken fits. -/
theorem cost_budgetedPrefix_le (h_used : used ≤ budget) (items : List α) :
    used + ((budgetedPrefix cost budget used items).1.map cost).sum ≤ budget := by
  induction items generalizing used with
  | nil => exact h_used
  | cons item items ih =>
    rcases Nat.lt_or_ge budget (used + cost item) with h_large | h_fits
    · rw [budgetedPrefix_cons_of_lt h_large]
      exact h_used
    · rw [budgetedPrefix_cons_of_le h_fits, List.map_cons, List.sum_cons, ← Nat.add_assoc]
      exact ih h_fits

/-- The flag says whether something was left out. -/
theorem budgetedPrefix_cut_iff (cost : α → ℕ) (budget used : ℕ) (items : List α) :
    (budgetedPrefix cost budget used items).2 = true ↔
      (budgetedPrefix cost budget used items).1 ≠ items := by
  induction items generalizing used with
  | nil =>
    show false = true ↔ [] ≠ []
    simp
  | cons item items ih =>
    rcases Nat.lt_or_ge budget (used + cost item) with h_large | h_fits
    · rw [budgetedPrefix_cons_of_lt h_large]
      simp
    · rw [budgetedPrefix_cons_of_le h_fits]
      show (budgetedPrefix cost budget (used + cost item) items).2 = true ↔ _
      rw [ih]
      simp

/-- Items that cost more than the budget are cut. -/
theorem budgetedPrefix_cut_of_lt (h_used : used ≤ budget)
    (h : budget < used + (items.map cost).sum) :
    (budgetedPrefix cost budget used items).2 = true := by
  rw [budgetedPrefix_cut_iff]
  intro h_all
  have h_cost : used + ((budgetedPrefix cost budget used items).1.map cost).sum ≤ budget :=
    cost_budgetedPrefix_le h_used items
  rw [h_all] at h_cost
  omega

end Framework
