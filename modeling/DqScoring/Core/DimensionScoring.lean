import DqScoring.Core.Models
import DqScoring.Framework.WeightedMean

/-!
# Dimension scores and coverage

The rule classes `R_d^m` (measured) and `R_d^e` (expected) of
`core/dimension_scoring.py`, and the score and coverage of one dimension.

Both quantities are guarded quotients in the source. `computeDimensionResult_eq`
reads them as weighted means: the score is the mean of the scores over `R_d^m`,
the coverage the mean over `R_d^e` of the indicator of `R_d^m`. Everything else
the development says about dimensions goes through the two names
`dimensionScore` and `dimensionCoverage` of these means.
-/

namespace DqScoring

open Framework

variable {α : Type} [Field α] [LinearOrder α]

/-- Input for aggregating rules into a dimension score and coverage. -/
structure DimensionScoringInput (α : Type) where
  dimension : String
  rules : List (QualityRuleResult α)
  dimensionWeight : α

/-- The rule qualifies for `R_d^m`. -/
def isDimensionMeasuredRule (rule : QualityRuleResult α) : Bool :=
  rule.measurementStatus == .measured
    && rule.scoreEnabled
    && !rule.isAdvisory
    && rule.isPrimaryScoringRule
    && rule.computedScore.isSome
    && decide (rule.contributionWeight > 0)

/-- The rule qualifies for `R_d^e`: not applicable, advisory and gate-only rules
stay out of the coverage denominator. -/
def isDimensionExpectedRule (rule : QualityRuleResult α) : Bool :=
  !rule.isAdvisory
    && rule.scoreEnabled
    && rule.measurementStatus != .notApplicable
    && rule.isPrimaryScoringRule
    && decide (rule.contributionWeight > 0)

/-- The dimensions with at least one rule in `R_d^e`. -/
def requiredDimensions (rules : List (QualityRuleResult α)) : Finset String :=
  ((rules.filter isDimensionExpectedRule).map (·.dimension)).toFinset

/-- The sum of the contribution weights of some rules. -/
def sumWeightIn (ar : Arithmetic α) (rules : List (QualityRuleResult α)) : α :=
  ar.sum (rules.map (·.contributionWeight))

/-- The sum of the contribution weights in exact arithmetic. -/
def sumWeight (rules : List (QualityRuleResult α)) : α :=
  sumWeightIn (.exact α) rules

/-- The dimension score `D_d` and coverage `C_d` of one dimension. -/
def computeDimensionResultIn (ar : Arithmetic α) (inp : DimensionScoringInput α) :
    Except PyError (DimensionResult α) := do
  let measuredRules := inp.rules.filter isDimensionMeasuredRule
  let expectedRules := inp.rules.filter isDimensionExpectedRule
  let sumMeasuredWeight := sumWeightIn ar measuredRules
  let sumExpectedWeight := sumWeightIn ar expectedRules
  let weightedScoreSum := ar.sum
    (measuredRules.map fun r => ar.mul r.contributionWeight (r.computedScore.getD 0))
  let dimensionScore ← divIfPositiveIn ar weightedScoreSum sumMeasuredWeight
  -- the coverage needs no weighted sum of its own
  let coverageRatio ← divIfPositiveIn ar sumMeasuredWeight sumExpectedWeight
  return {
    dimension := inp.dimension
    dimensionScore
    coverageRatio
    ruleResults := inp.rules
    dimensionWeight := inp.dimensionWeight }

/-- The dimension score and coverage in exact arithmetic. -/
def computeDimensionResult (inp : DimensionScoringInput α) :
    Except PyError (DimensionResult α) :=
  computeDimensionResultIn (.exact α) inp

/-! ### The rule classes -/

/-- A measured rule is expected. -/
theorem isDimensionExpectedRule_of_measured {r : QualityRuleResult α}
    (h : isDimensionMeasuredRule r = true) : isDimensionExpectedRule r = true := by
  simp only [isDimensionMeasuredRule, Bool.and_eq_true, beq_iff_eq] at h
  obtain ⟨⟨⟨⟨⟨h_status, h_score⟩, h_advisory⟩, h_primary⟩, -⟩, h_weight⟩ := h
  rw [isDimensionExpectedRule, h_status, h_score, h_advisory, h_primary, h_weight]
  rfl

/-- An expected rule has a positive weight. -/
theorem contributionWeight_pos_of_expected {r : QualityRuleResult α}
    (h : isDimensionExpectedRule r = true) : 0 < r.contributionWeight := by
  simp only [isDimensionExpectedRule, Bool.and_eq_true, decide_eq_true_eq] at h
  exact h.2

/-- Among the expected rules, the measured ones are all the measured ones. -/
theorem filter_measured_expected (rules : List (QualityRuleResult α)) :
    (rules.filter isDimensionExpectedRule).filter isDimensionMeasuredRule =
      rules.filter isDimensionMeasuredRule := by
  rw [List.filter_filter]
  refine List.filter_congr ?_
  intro r _
  cases h : isDimensionMeasuredRule r with
  | false => rfl
  | true => rw [isDimensionExpectedRule_of_measured h]; rfl

/-- The dimensions that expected rules require. -/
theorem mem_requiredDimensions {rules : List (QualityRuleResult α)} {dim : String} :
    dim ∈ requiredDimensions rules ↔
      ∃ r ∈ rules, isDimensionExpectedRule r = true ∧ r.dimension = dim := by
  simp only [requiredDimensions, List.mem_toFinset, List.mem_map, List.mem_filter, and_assoc]

/-! ### Scores and coverage as weighted means -/

/-- Weight and score of the rules in `R_d^m`. -/
def measuredScores (rules : List (QualityRuleResult α)) : List (α × α) :=
  (rules.filter isDimensionMeasuredRule).map
    fun r => (r.contributionWeight, r.computedScore.getD 0)

/-- Weight of the rules in `R_d^e`, each with the indicator of `R_d^m`. -/
def expectedShares (rules : List (QualityRuleResult α)) : List (α × α) :=
  (rules.filter isDimensionExpectedRule).map
    fun r => (r.contributionWeight, if isDimensionMeasuredRule r then 1 else 0)

/-- The dimension score as a weighted mean. -/
def dimensionScore (rules : List (QualityRuleResult α)) : Option α :=
  weightedMean (measuredScores rules)

/-- The dimension coverage as a weighted mean. -/
def dimensionCoverage (rules : List (QualityRuleResult α)) : Option α :=
  weightedMean (expectedShares rules)

/-- A guarded division is a weighted mean, and never one by zero. -/
theorem divIfPositive_eq_weightedMean {num den : α} {l : List (α × α)}
    (h_num : weightedSum l = num) (h_den : totalWeight l = den) :
    divIfPositive num den = .ok (weightedMean l) := by
  unfold divIfPositive divIfPositiveIn weightedMean
  rw [h_num, h_den]
  by_cases h : den > 0
  · have h_div : pyDivIn (.exact α) num den = .ok (num / den) := pyDiv_of_ne_zero h.ne'
    rw [if_pos h, if_pos h, h_div]
    rfl
  · rw [if_neg h, if_neg h]

/-- **Refinement of the dimension result.** The code returns, without raising, the
two weighted means. -/
theorem computeDimensionResult_eq (inp : DimensionScoringInput α) :
    computeDimensionResult inp = .ok {
      dimension := inp.dimension
      dimensionScore := dimensionScore inp.rules
      coverageRatio := dimensionCoverage inp.rules
      ruleResults := inp.rules
      dimensionWeight := inp.dimensionWeight } := by
  have h_score : divIfPositive
      ((inp.rules.filter isDimensionMeasuredRule).map
        fun r => r.contributionWeight * r.computedScore.getD 0).sum
      (sumWeight (inp.rules.filter isDimensionMeasuredRule)) = .ok (dimensionScore inp.rules) :=
    divIfPositive_eq_weightedMean (weightedSum_map _ _ _) (totalWeight_map _ _ _)
  have h_coverage : divIfPositive (sumWeight (inp.rules.filter isDimensionMeasuredRule))
      (sumWeight (inp.rules.filter isDimensionExpectedRule)) =
        .ok (dimensionCoverage inp.rules) := by
    -- the measured weight is the expected weight of the rules that are measured
    rw [← filter_measured_expected]
    exact divIfPositive_eq_weightedMean (weightedSum_indicator _ _ _) (totalWeight_map _ _ _)
  unfold computeDimensionResult computeDimensionResultIn
  unfold divIfPositive sumWeight at h_score h_coverage
  simp only [Arithmetic.exact_sum, Arithmetic.exact_mul, h_score, h_coverage]
  rfl

/-! ### Presence and bounds -/

/-- Measured scores have positive weights. -/
theorem measuredScores_pos {rules : List (QualityRuleResult α)} :
    ∀ p ∈ measuredScores rules, 0 < p.1 := by
  intro p hp
  obtain ⟨r, hr, rfl⟩ := List.mem_map.mp hp
  exact contributionWeight_pos_of_expected
    (isDimensionExpectedRule_of_measured (List.mem_filter.mp hr).2)

/-- Expected shares have positive weights. -/
theorem expectedShares_pos {rules : List (QualityRuleResult α)} :
    ∀ p ∈ expectedShares rules, 0 < p.1 := by
  intro p hp
  obtain ⟨r, hr, rfl⟩ := List.mem_map.mp hp
  exact contributionWeight_pos_of_expected (List.mem_filter.mp hr).2

variable [IsStrictOrderedRing α]

/-- A dimension has a score exactly when it has a measured rule. -/
theorem dimensionScore_isSome_iff {rules : List (QualityRuleResult α)} :
    (dimensionScore rules).isSome ↔ ∃ r ∈ rules, isDimensionMeasuredRule r = true := by
  unfold dimensionScore
  rw [weightedMean_isSome_iff measuredScores_pos, measuredScores, ne_eq, List.map_eq_nil_iff,
    List.filter_eq_nil_iff]
  push Not
  rfl

/-- A dimension has a coverage exactly when it has an expected rule. -/
theorem dimensionCoverage_isSome_iff {rules : List (QualityRuleResult α)} :
    (dimensionCoverage rules).isSome ↔ ∃ r ∈ rules, isDimensionExpectedRule r = true := by
  unfold dimensionCoverage
  rw [weightedMean_isSome_iff expectedShares_pos, expectedShares, ne_eq, List.map_eq_nil_iff,
    List.filter_eq_nil_iff]
  push Not
  rfl

/-- The score of a dimension lies between the bounds of its rules' scores. -/
theorem dimensionScore_mem_Icc {rules : List (QualityRuleResult α)}
    (h : ∀ r ∈ rules, ∀ s ∈ r.computedScore, s ∈ Set.Icc (0 : α) 100) {d : α}
    (hd : dimensionScore rules = some d) : d ∈ Set.Icc (0 : α) 100 := by
  refine weightedMean_mem_Icc (fun p hp => (measuredScores_pos p hp).le) ?_ hd
  intro p hp
  obtain ⟨r, hr, rfl⟩ := List.mem_map.mp hp
  obtain ⟨hr_mem, hr_measured⟩ := List.mem_filter.mp hr
  simp only [isDimensionMeasuredRule, Bool.and_eq_true, decide_eq_true_eq] at hr_measured
  -- a measured rule has a score, so the default is not used
  obtain ⟨s, hs⟩ := Option.isSome_iff_exists.mp hr_measured.1.2
  rw [hs]
  exact h r hr_mem s hs

/-- The coverage of a dimension is a ratio. -/
theorem dimensionCoverage_mem_Icc {rules : List (QualityRuleResult α)} {c : α}
    (hc : dimensionCoverage rules = some c) : c ∈ Set.Icc (0 : α) 1 := by
  refine weightedMean_mem_Icc (fun p hp => (expectedShares_pos p hp).le) ?_ hc
  intro p hp
  obtain ⟨r, -, rfl⟩ := List.mem_map.mp hp
  split
  · exact ⟨zero_le_one, le_refl 1⟩
  · exact ⟨le_refl 0, zero_le_one⟩

end DqScoring
