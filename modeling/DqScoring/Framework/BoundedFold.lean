import Mathlib.Data.List.Basic

/-!
# Folds with a limit

A step that may fail is compared with a total step: it raises an error of its own, or the
limit because a measure of the total step's result exceeds the bound, or it gives that result.
Along a list the same holds of the folds (`Bounded.foldlM`), since the measure never falls.
-/

namespace Framework

variable {ε σ α : Type*}

/-- The outcome of a computation whose result would be `s`. -/
def Bounded (limit : ε) (size : σ → ℕ) (bound : ℕ) (r : Except ε σ) (s : σ) : Prop :=
  (∃ e, r = .error e ∧ e ≠ limit) ∨ (r = .error limit ∧ bound < size s) ∨
    (r = .ok s ∧ size s ≤ bound)

variable {limit : ε} {size : σ → ℕ} {bound : ℕ} {f : σ → α → Except ε σ} {g : σ → α → σ}

theorem le_size_foldl (h_size : ∀ s a, size s ≤ size (g s a)) (l : List α) (s : σ) :
    size s ≤ size (l.foldl g s) := by
  induction l generalizing s with
  | nil => exact Nat.le_refl _
  | cons a l ih => exact Nat.le_trans (h_size s a) (ih _)

theorem Bounded.foldlM (h_size : ∀ s a, size s ≤ size (g s a))
    (h_step : ∀ s a, size s ≤ bound → Bounded limit size bound (f s a) (g s a)) (l : List α)
    {s : σ} (h_s : size s ≤ bound) :
    Bounded limit size bound (l.foldlM f s) (l.foldl g s) := by
  induction l generalizing s with
  | nil => exact Or.inr (Or.inr ⟨rfl, h_s⟩)
  | cons a l ih =>
    rw [List.foldlM_cons, List.foldl_cons]
    rcases h_step s a h_s with ⟨e, h_e, h_ne⟩ | ⟨h_e, h_large⟩ | ⟨h_ok, h_small⟩
    · rw [h_e]
      exact Or.inl ⟨e, rfl, h_ne⟩
    · rw [h_e]
      exact Or.inr (Or.inl ⟨rfl, Nat.lt_of_lt_of_le h_large (le_size_foldl h_size l _)⟩)
    · rw [h_ok]
      exact ih h_small

/-- Without errors of its own, a computation fails exactly if the bound is exceeded. -/
theorem Bounded.eq_ite {r : Except ε σ} {s : σ} (h : Bounded limit size bound r s)
    (h_own : ∀ e, r = .error e → e = limit) :
    r = if bound < size s then .error limit else .ok s := by
  rcases h with ⟨e, h_e, h_ne⟩ | ⟨h_e, h_large⟩ | ⟨h_ok, h_small⟩
  · exact absurd (h_own e h_e) h_ne
  · rw [if_pos h_large]
    exact h_e
  · rw [if_neg (Nat.not_lt.mpr h_small)]
    exact h_ok

end Framework
