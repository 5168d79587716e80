import Mathlib.Logic.Relation

/-!
# Transition systems

A system is a set of initial states and a step relation; its runs are
`Relation.ReflTransGen step`. Two rules package the inductions over runs:

* `Reachable.invariant`: what holds initially and is kept by every step from a state
  where it holds, holds in every reachable state;
* `Reachable.rel_of_run`: a reflexive and transitive relation that contains every step
  from a reachable state contains every run from one.
-/

namespace Framework

variable {σ : Type*}

/-- The state is reached by some run from an initial state. -/
def Reachable (initial : σ → Prop) (step : σ → σ → Prop) (s : σ) : Prop :=
  ∃ s₀, initial s₀ ∧ Relation.ReflTransGen step s₀ s

namespace Reachable

variable {initial : σ → Prop} {step : σ → σ → Prop}

theorem of_initial {s : σ} (h : initial s) : Reachable initial step s :=
  ⟨s, h, Relation.ReflTransGen.refl⟩

theorem run {s s' : σ} (h : Reachable initial step s) (h_run : Relation.ReflTransGen step s s') :
    Reachable initial step s' := by
  obtain ⟨s₀, h₀, h_to⟩ := h
  exact ⟨s₀, h₀, h_to.trans h_run⟩

theorem next {s s' : σ} (h : Reachable initial step s) (h_step : step s s') :
    Reachable initial step s' :=
  h.run (Relation.ReflTransGen.single h_step)

/-- **Invariant rule.** -/
theorem invariant {I : σ → Prop} (h_initial : ∀ s, initial s → I s)
    (h_step : ∀ s s', I s → step s s' → I s') {s : σ} (h : Reachable initial step s) : I s := by
  obtain ⟨s₀, h₀, h_run⟩ := h
  -- on the run, whose last step is the one to account for
  induction h_run with
  | refl => exact h_initial s₀ h₀
  | tail _ h_last ih => exact h_step _ _ ih h_last

/-- **Run rule.** -/
theorem rel_of_run {R : σ → σ → Prop} (h_refl : ∀ s, R s s)
    (h_trans : ∀ s s' s'', R s s' → R s' s'' → R s s'')
    (h_step : ∀ s s', Reachable initial step s → step s s' → R s s') {s s' : σ}
    (h : Reachable initial step s) (h_run : Relation.ReflTransGen step s s') : R s s' := by
  induction h_run with
  | refl => exact h_refl s
  | tail h_before h_last ih => exact h_trans _ _ _ ih (h_step _ _ (h.run h_before) h_last)

end Reachable

/-- A fold of fallible steps is a run. -/
theorem run_of_foldlM {α : Type*} {step : σ → σ → Prop} {act : σ → α → Option σ}
    (h_step : ∀ s a s', act s a = some s' → step s s') {actions : List α} {s s' : σ}
    (h : actions.foldlM act s = some s') : Relation.ReflTransGen step s s' := by
  induction actions generalizing s with
  | nil =>
    obtain rfl := Option.some.inj h
    exact .refl
  | cons a rest ih =>
    rw [List.foldlM_cons] at h
    obtain ⟨s₁, h_first, h_rest⟩ := Option.bind_eq_some_iff.mp h
    exact (ih h_rest).head (h_step s a s₁ h_first)

end Framework
