import DqScoring.Core.Models
import Mathlib.Tactic.NormNum

/-!
# Rule scores

The partition identity, the null policy's denominator and the rule score of
`core/rule_scoring.py`. `computeRuleScore_of_denominator` is the specification
callers use: the score of an applicable rule as a function of its denominator,
with the division never reached at zero.
-/

namespace DqScoring

open Framework

/-- The mutually exclusive counts add up to the observed total. -/
def verifyPartitionIdentity (counts : RuleCounts) : Bool :=
  counts.passed + counts.failed + counts.missing + counts.miscast + counts.notApplicable
    == counts.totalObserved

/-- The null policies under which missing values stay out of the denominator. -/
def excludingNullPolicies : List String := ["ignore", "separate", "not_applicable"]

/-- Effective denominator `n_r` of a rule under its null policy. -/
def calculateDenominator (counts : RuleCounts) (nullPolicy : String) : Except PyError ℕ :=
  if nullPolicy = "fail" then
    .ok (counts.passed + counts.failed + counts.miscast + counts.missing)
  else if nullPolicy ∈ excludingNullPolicies then
    .ok (counts.passed + counts.failed + counts.miscast)
  else
    .error (.valueError ("Unsupported null policy: " ++ nullPolicy))

/-- Input of the rule score. -/
structure RuleScoringInput where
  counts : RuleCounts
  nullPolicy : String := "fail"
  zeroDenominatorStatus : MeasurementStatus := .notMeasurable
  isApplicable : Bool := true
  hasRequiredMetadata : Bool := true

/-- The measurement status and score of a rule. -/
def computeRuleScoreIn {α : Type} [Field α] (ar : Arithmetic α) (inp : RuleScoringInput) :
    Except PyError (MeasurementStatus × Option α) := do
  -- the guards come in this order, each with a status of its own
  if !inp.isApplicable then
    return (.notApplicable, none)
  if !inp.hasRequiredMetadata then
    return (.notMeasurable, none)
  let denominator ← calculateDenominator inp.counts inp.nullPolicy
  -- which columns the denominator has is up to the null policy
  if denominator = 0 then
    return (inp.zeroDenominatorStatus, none)
  let ratio ← pyRatioIn ar inp.counts.passed denominator
  return (.measured, some (ar.mul ratio 100))

/-- The measurement status and score of a rule in exact arithmetic. -/
def computeRuleScore {α : Type} [Field α] (inp : RuleScoringInput) :
    Except PyError (MeasurementStatus × Option α) :=
  computeRuleScoreIn (.exact α) inp

/-! ### Denominators -/

/-- The null policies with a denominator. -/
def SupportedNullPolicy (nullPolicy : String) : Prop :=
  nullPolicy = "fail" ∨ nullPolicy ∈ excludingNullPolicies

instance (nullPolicy : String) : Decidable (SupportedNullPolicy nullPolicy) :=
  inferInstanceAs (Decidable (_ ∨ _))

theorem calculateDenominator_supported {nullPolicy : String}
    (h : SupportedNullPolicy nullPolicy) (counts : RuleCounts) :
    ∃ n, calculateDenominator counts nullPolicy = .ok n := by
  unfold calculateDenominator
  by_cases h_fail : nullPolicy = "fail"
  · exact ⟨_, if_pos h_fail⟩
  · rw [if_neg h_fail, if_pos (h.resolve_left h_fail)]
    exact ⟨_, rfl⟩

/-- Whether a null policy is supported does not depend on the counts: without
support every count raises the same exception. -/
theorem calculateDenominator_unsupported {nullPolicy : String}
    (h : ¬ SupportedNullPolicy nullPolicy) (counts : RuleCounts) :
    calculateDenominator counts nullPolicy =
      .error (.valueError ("Unsupported null policy: " ++ nullPolicy)) := by
  obtain ⟨h_fail, h_mem⟩ := not_or.mp h
  unfold calculateDenominator
  rw [if_neg h_fail, if_neg h_mem]

/-- The passed records are part of every denominator. -/
theorem passed_le_denominator {counts : RuleCounts} {nullPolicy : String} {n : ℕ}
    (h : calculateDenominator counts nullPolicy = .ok n) : counts.passed ≤ n := by
  unfold calculateDenominator at h
  split at h
  · obtain rfl := Except.ok.inj h
    omega
  · split at h
    · obtain rfl := Except.ok.inj h
      omega
    · exact absurd h (by simp)

/-! ### The score -/

section Score

variable {α : Type} [Field α]

/-- The score of an applicable rule, given its denominator. -/
theorem computeRuleScoreIn_of_denominator (ar : Arithmetic α) {counts : RuleCounts}
    {nullPolicy : String} {n : ℕ} (h : calculateDenominator counts nullPolicy = .ok n) :
    computeRuleScoreIn ar { counts, nullPolicy } =
      .ok (if n = 0 then (.notMeasurable, none)
        else (.measured, some (ar.mul (ar.ratio counts.passed n) 100))) := by
  unfold computeRuleScoreIn
  by_cases hn : n = 0
  · simp [h, hn, bind, Except.bind, pure, Except.pure]
  · have h_div : pyRatioIn ar counts.passed n = .ok (ar.ratio counts.passed n) := if_neg hn
    simp [h, hn, h_div, bind, Except.bind, pure, Except.pure]

theorem computeRuleScore_of_denominator {counts : RuleCounts} {nullPolicy : String} {n : ℕ}
    (h : calculateDenominator counts nullPolicy = .ok n) :
    computeRuleScore (α := α) { counts, nullPolicy } =
      .ok (if n = 0 then (.notMeasurable, none)
        else (.measured, some ((counts.passed : α) / n * 100))) :=
  computeRuleScoreIn_of_denominator (.exact α) h

variable [LinearOrder α] [IsStrictOrderedRing α]

/-- A rule's share of passed records, in percent, lies in `[0, 100]`. -/
theorem passed_div_mem_Icc {p n : ℕ} (h : p ≤ n) (hn : n ≠ 0) :
    (p : α) / n * 100 ∈ Set.Icc (0 : α) 100 := by
  have h_pos : (0 : α) < n := Nat.cast_pos.mpr (Nat.pos_of_ne_zero hn)
  have h_le : (p : α) / n ≤ 1 := by
    rw [div_le_one h_pos]
    exact Nat.cast_le.mpr h
  have h_nonneg : (0 : α) ≤ p / n := div_nonneg (Nat.cast_nonneg p) h_pos.le
  constructor
  · exact mul_nonneg h_nonneg (by norm_num)
  · calc (p : α) / n * 100 ≤ 1 * 100 := mul_le_mul_of_nonneg_right h_le (by norm_num)
      _ = 100 := one_mul 100

/-- **Rule scores are percentages**, whatever the input. -/
theorem computeRuleScore_mem_Icc {inp : RuleScoringInput} {status : MeasurementStatus}
    {score : α} (h : computeRuleScore inp = .ok (status, some score)) :
    score ∈ Set.Icc (0 : α) 100 := by
  unfold computeRuleScore computeRuleScoreIn at h
  -- a rule that is not applicable, or without metadata, has no score
  split at h
  · cases h
  · split at h
    · cases h
    · cases h_den : calculateDenominator inp.counts inp.nullPolicy with
      | error e => rw [h_den] at h; cases h
      | ok n =>
        rw [h_den] at h
        by_cases hn : n = 0
        · simp [hn, bind, Except.bind, pure, Except.pure] at h
        · have h_div : pyRatioIn (.exact α) inp.counts.passed n =
              .ok ((inp.counts.passed : α) / n) := if_neg hn
          simp only [hn, h_div, bind, Except.bind, pure, Except.pure, if_false,
            Except.ok.injEq, Prod.mk.injEq, Option.some.injEq] at h
          rw [← h.2]
          show (inp.counts.passed : α) / n * 100 ∈ _
          exact passed_div_mem_Icc (passed_le_denominator h_den) hn

end Score

end DqScoring
