import DqScoring.Core.RuleScoring
import DqScoring.Services.ScoreAggregator

/-!
# Bounds of the scorecard

Rule scores are shares of a denominator, dimension scores weighted means of rule
scores, the dataset score a weighted mean of dimension scores. The bounds of the
first level carry through the other two, whatever the weights, because each level
filters its items to those of positive weight before it divides.

The rule scores enter a scorecard through `ScoredFromCounts`: a result that has a
score at all has one that `computeRuleScore` returned.
-/

namespace DqScoring

open Framework

variable {α : Type} [Field α] [LinearOrder α]

/-! ### Rule scores -/

/-- The score a result carries, if any, was computed from rule counts. -/
def ScoredFromCounts (r : QualityRuleResult α) : Prop :=
  ∀ s ∈ r.computedScore, ∃ (inp : RuleScoringInput) (status : MeasurementStatus),
    computeRuleScore inp = .ok (status, some s)

section Scored

variable [IsStrictOrderedRing α]

omit [LinearOrder α] [IsStrictOrderedRing α] in
/-- The rule score never divides by zero: the guard covers the only divisor. -/
theorem computeRuleScore_ne_zeroDivisionError (inp : RuleScoringInput) :
    computeRuleScore (α := α) inp ≠ .error .zeroDivisionError := by
  unfold computeRuleScore computeRuleScoreIn
  -- the guards return before the division, or the denominator is not zero
  cases h_applicable : inp.isApplicable with
  | false => exact fun h => by cases h
  | true =>
    cases h_metadata : inp.hasRequiredMetadata with
    | false => exact fun h => by cases h
    | true =>
      by_cases h_policy : SupportedNullPolicy inp.nullPolicy
      · obtain ⟨n, hn⟩ := calculateDenominator_supported h_policy inp.counts
        by_cases h_zero : n = 0
        · simp [hn, h_zero, bind, Except.bind, pure, Except.pure]
        · have h_div : pyRatioIn (.exact α) inp.counts.passed n =
              .ok ((inp.counts.passed : α) / n) := if_neg h_zero
          simp [hn, h_zero, h_div, bind, Except.bind, pure, Except.pure]
      · simp [calculateDenominator_unsupported h_policy, bind, Except.bind]

omit [LinearOrder α] [IsStrictOrderedRing α] in
/-- The score of a rule is absent exactly when its denominator is zero. -/
theorem computeRuleScore_absent_iff {counts : RuleCounts} {nullPolicy : String} {n : ℕ}
    (h : calculateDenominator counts nullPolicy = .ok n) :
    ∃ (status : MeasurementStatus) (score : Option α),
      computeRuleScore { counts, nullPolicy } = .ok (status, score) ∧
        (score = none ↔ n = 0) := by
  rw [computeRuleScore_of_denominator h]
  by_cases hn : n = 0
  · rw [if_pos hn]
    exact ⟨_, _, rfl, iff_of_true rfl hn⟩
  · rw [if_neg hn]
    exact ⟨_, _, rfl, iff_of_false (Option.some_ne_none _) hn⟩

/-- A score computed from counts is within bounds. -/
theorem ScoredFromCounts.mem_Icc {r : QualityRuleResult α} (h : ScoredFromCounts r) :
    ∀ s ∈ r.computedScore, s ∈ Set.Icc (0 : α) 100 := by
  intro s hs
  obtain ⟨inp, status, h_score⟩ := h s hs
  exact computeRuleScore_mem_Icc h_score

/-! ### Dimensions and dataset -/

/-- Bounds of a score and of a coverage, where present. -/
structure WithinBounds (score coverage : Option α) : Prop where
  score_mem : ∀ s ∈ score, s ∈ Set.Icc (0 : α) 100
  coverage_mem : ∀ c ∈ coverage, c ∈ Set.Icc (0 : α) 1

/-- The dimension results of a list of scoring inputs. -/
def dimensionResultsOfInputs (inputs : List (DimensionScoringInput α)) :
    List (DimensionResult α) :=
  inputs.map fun inp => {
    dimension := inp.dimension
    dimensionScore := dimensionScore inp.rules
    coverageRatio := dimensionCoverage inp.rules
    ruleResults := inp.rules
    dimensionWeight := inp.dimensionWeight }

omit [IsStrictOrderedRing α] in
/-- Every dimension has its result, without a division by zero. -/
theorem mapM_computeDimensionResult (inputs : List (DimensionScoringInput α)) :
    inputs.mapM computeDimensionResult = .ok (dimensionResultsOfInputs inputs) := by
  rw [funext computeDimensionResult_eq]
  exact List.mapM_pure

/-- The dimensions are within bounds when their rules are. -/
theorem withinBounds_dimension {inputs : List (DimensionScoringInput α)}
    (h : ∀ inp ∈ inputs, ∀ r ∈ inp.rules, ScoredFromCounts r) :
    ∀ d ∈ dimensionResultsOfInputs inputs, WithinBounds d.dimensionScore d.coverageRatio := by
  intro d hd
  obtain ⟨inp, h_inp, rfl⟩ := List.mem_map.mp hd
  exact ⟨fun s hs => dimensionScore_mem_Icc (fun r hr => (h inp h_inp r hr).mem_Icc) hs,
    fun c hc => dimensionCoverage_mem_Icc hc⟩

omit [IsStrictOrderedRing α] in
/-- A quantity of the dimension results is absent on every dimension of positive
weight exactly when no rule of such a dimension is in the class that produces it. -/
theorem absent_on_weighted_iff (quantity : List (QualityRuleResult α) → Option α)
    {inputs : List (DimensionScoringInput α)} {weights : String → Option α}
    {inClass : QualityRuleResult α → Bool}
    (h : ∀ rules, (quantity rules).isSome ↔ ∃ r ∈ rules, inClass r = true) :
    (∀ inp ∈ inputs, 0 < (weights inp.dimension).getD defaultDimensionWeight →
        quantity inp.rules = none) ↔
      ¬ ∃ inp ∈ inputs, 0 < (weights inp.dimension).getD defaultDimensionWeight ∧
        ∃ r ∈ inp.rules, inClass r = true := by
  push Not
  refine forall₂_congr fun inp _ => imp_congr_right fun _ => ?_
  rw [← Option.not_isSome_iff_eq_none, h]
  push Not
  rfl

/-- **Scores are percentages and coverages are ratios**, at all three levels, for all
counts, null policies, statuses, flags and weights. No level divides by zero, and
each quantity is absent exactly when nothing of positive weight produces it. -/
theorem scores_withinBounds (inputs : List (DimensionScoringInput α))
    (weights : String → Option α)
    (h_scored : ∀ inp ∈ inputs, ∀ r ∈ inp.rules, ScoredFromCounts r) :
    (∀ inp : RuleScoringInput, computeRuleScore (α := α) inp ≠ .error .zeroDivisionError ∧
      ∀ status s, computeRuleScore inp = .ok (status, some s) → s ∈ Set.Icc (0 : α) 100) ∧
    (∀ counts nullPolicy n, calculateDenominator counts nullPolicy = .ok n →
      ∃ (status : MeasurementStatus) (score : Option α),
        computeRuleScore { counts, nullPolicy } = .ok (status, score) ∧
          (score = none ↔ n = 0)) ∧
    ∃ dims res,
      inputs.mapM computeDimensionResult = .ok dims ∧
      computeDatasetScore { dimensionResults := dims, dimensionWeights := weights } = .ok res ∧
      (∀ d ∈ dims, WithinBounds d.dimensionScore d.coverageRatio) ∧
      WithinBounds res.dqScore res.coverageRatio ∧
      (res.dqScore = none ↔
        ¬ ∃ inp ∈ inputs, 0 < (weights inp.dimension).getD defaultDimensionWeight ∧
          ∃ r ∈ inp.rules, isDimensionMeasuredRule r = true) ∧
      (res.coverageRatio = none ↔
        ¬ ∃ inp ∈ inputs, 0 < (weights inp.dimension).getD defaultDimensionWeight ∧
          ∃ r ∈ inp.rules, isDimensionExpectedRule r = true) := by
  have h_dims := withinBounds_dimension h_scored
  refine ⟨fun inp => ⟨computeRuleScore_ne_zeroDivisionError inp,
      fun _ _ h => computeRuleScore_mem_Icc h⟩,
    fun _ _ _ h => computeRuleScore_absent_iff h,
    dimensionResultsOfInputs inputs, _, mapM_computeDimensionResult inputs,
    computeDatasetScore_eq _, h_dims, ⟨?_, ?_⟩, ?_, ?_⟩
  · exact fun s hs => datasetScore_mem_Icc (fun d hd => (h_dims d hd).score_mem) hs
  · exact fun c hc => datasetCoverage_mem_Icc (fun d hd => (h_dims d hd).coverage_mem) hc
  · rw [← absent_on_weighted_iff dimensionScore
      fun _ => dimensionScore_isSome_iff]
    exact datasetScore_eq_none_iff.trans List.forall_mem_map
  · rw [← absent_on_weighted_iff dimensionCoverage
      fun _ => dimensionCoverage_isSome_iff]
    exact datasetCoverage_eq_none_iff.trans List.forall_mem_map

end Scored

/-- One dimension of weight one, with three passed records of four. -/
def validityInput : DimensionScoringInput ℚ where
  dimension := "VALIDITY"
  rules := [{
    ruleId := "r1"
    dimension := "VALIDITY"
    measurementStatus := .measured
    contributionWeight := 1
    computedScore := some 75 }]
  dimensionWeight := 1

theorem scores_withinBounds_validityInput :
    ∃ dims res, [validityInput].mapM computeDimensionResult = .ok dims ∧
      computeDatasetScore { dimensionResults := dims } = .ok res ∧
      WithinBounds res.dqScore res.coverageRatio := by
  have h_scored : ∀ inp ∈ [validityInput], ∀ r ∈ inp.rules, ScoredFromCounts r := by
    simp only [validityInput, List.forall_mem_singleton]
    intro s hs
    obtain rfl := Option.some.inj hs
    exact ⟨{ counts := { passed := 3, failed := 1, totalObserved := 4 } }, .measured,
      by decide +kernel⟩
  obtain ⟨-, -, dims, res, h_dims, h_res, -, h_bounds, -⟩ :=
    scores_withinBounds [validityInput] (fun _ => none) h_scored
  exact ⟨dims, res, h_dims, h_res, h_bounds⟩

end DqScoring
