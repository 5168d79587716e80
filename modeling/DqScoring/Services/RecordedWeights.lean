import DqScoring.Services.SameEvidence

/-!
# Recorded weights

The aggregator records a weight on every dimension result, and the dataset scorer looks
the weight up again. The aggregator tries the upper-case spelling of a dimension that the
policy does not list, the scorer does not. `selfConsistent_iff` says when the scorecard is
the mean that its own weights describe, and `misspelt_inconsistent` gives results on which
it is not.
-/

namespace DqScoring

open Framework

variable {α : Type} [Field α] [LinearOrder α]

/-- The score and the coverage of a scorecard are the means that its dimension results
describe. -/
structure MeansAgree (s : ScoreSummaryDTO α) : Prop where
  dqScore_eq : s.dqScore =
    weightedMean (presentValues (·.dimensionWeight) (·.dimensionScore) s.dimensionResults)
  coverageRatio_eq : s.coverageRatio =
    weightedMean (presentValues (·.dimensionWeight) (·.coverageRatio) s.dimensionResults)

/-- The scorecard is the mean that its dimension results describe, and each recorded weight
is the one the scorer used. -/
structure SelfConsistent (policy : ScoringPolicy α) (s : ScoreSummaryDTO α) : Prop where
  means : MeansAgree s
  weights_eq : ∀ d ∈ s.dimensionResults,
    d.dimensionWeight = datasetWeight policy.dimensionWeights d

/-- The policy lists the dimension as it is spelt, or gives its upper-case spelling no
weight but the default. -/
def SpeltAsListed (upper : String → String) (policy : ScoringPolicy α) (dim : String) : Prop :=
  (policy.dimensionWeights dim).isSome ∨
    (policy.dimensionWeights (upper dim)).getD defaultDimensionWeight = defaultDimensionWeight

/-- The recorded weight of a dimension is the one it was scored with exactly when the policy
spells it as it is recorded. -/
theorem recordedWeight_eq_iff {upper : String → String} {policy : ScoringPolicy α}
    {dim : String} : recordedWeight upper policy.dimensionWeights dim =
      dimensionWeightOf policy.dimensionWeights dim ↔ SpeltAsListed upper policy dim := by
  unfold recordedWeight dimensionWeightOf SpeltAsListed defaultDimensionWeight
  cases policy.dimensionWeights dim with
  | none => simp
  | some w => simp

/-! ### Dimensions that are spelt as listed -/

section Spelt

variable {upper : String → String} {rs : List (QualityRuleResult α)} {policy : ScoringPolicy α}
  {reqDims : Finset String} {runStatus : String}

/-- The scorecard of such dimensions is the mean that its weights describe. -/
theorem meansAgree_of_spelt (h : ∀ dim ∈ distinctDims rs reqDims, SpeltAsListed upper policy dim) :
    MeansAgree (summaryOf upper rs policy reqDims runStatus) := by
  have h_weight : ∀ dim ∈ sortedSet (distinctDims rs reqDims),
      dimensionWeightOf policy.dimensionWeights dim =
        recordedWeight upper policy.dimensionWeights dim := by
    intro dim h_mem
    exact (recordedWeight_eq_iff.mpr (h dim (mem_sortedSet.mp h_mem))).symm
  constructor
  · rw [summaryOf_dimensionResults, dimensionResultsOf, presentValues_map]
    show weightedMean (weightedScores _ _ _) = _
    rw [weightedScores_eq, presentValues_congr h_weight]
    rfl
  · rw [summaryOf_dimensionResults, dimensionResultsOf, presentValues_map]
    show weightedMean (weightedCoverages _ _ _) = _
    rw [weightedCoverages_eq, presentValues_congr h_weight]
    rfl

/-- A summary is consistent when every dimension is spelt as the policy lists it. -/
theorem selfConsistent_summaryOf_iff :
    SelfConsistent policy (summaryOf upper rs policy reqDims runStatus) ↔
      ∀ dim ∈ distinctDims rs reqDims, SpeltAsListed upper policy dim := by
  constructor
  · intro h dim h_mem
    have h_result : dimensionResultOf upper policy.dimensionWeights rs dim ∈
        (summaryOf upper rs policy reqDims runStatus).dimensionResults :=
      List.mem_map_of_mem (mem_sortedSet.mpr h_mem)
    exact recordedWeight_eq_iff.mp (h.weights_eq _ h_result)
  · intro h
    refine ⟨meansAgree_of_spelt h, ?_⟩
    intro d h_mem
    obtain ⟨dim, h_dim, rfl⟩ := List.mem_map.mp h_mem
    exact recordedWeight_eq_iff.mpr (h dim (mem_sortedSet.mp h_dim))

end Spelt

/-! ### A dimension that is not -/

/-- One measured rule of a dimension, with a score. -/
def oneResult (dim : String) (score : α) : QualityRuleResult α :=
  { ruleId := dim, dimension := dim, measurementStatus := .measured
    contributionWeight := 1, computedScore := some score }

/-- Full marks under the spelling, none under its upper-case spelling. -/
def twoSpellings (upper : String → String) (dim : String) : List (QualityRuleResult α) :=
  [oneResult dim ((100 : ℕ) : α), oneResult (upper dim) 0]

section Misspelt

variable [IsStrictOrderedRing α]

/-- One result determines the score of its dimension. -/
theorem dimensionScore_oneResult (dim : String) (score : α) :
    dimensionScore [oneResult dim score] = some score := by
  have h_measured : isDimensionMeasuredRule (oneResult dim score) = true := by
    simp [isDimensionMeasuredRule, oneResult]
  unfold dimensionScore measuredScores
  rw [List.filter_cons_of_pos h_measured]
  simp [weightedMean, oneResult]

variable {upper : String → String} {dim : String}

/-- Two spellings are two dimensions. -/
theorem scoreOf_twoSpellings (h : dim ≠ upper dim) :
    scoreOf (twoSpellings (α := α) upper dim) dim = some 100 ∧
      scoreOf (twoSpellings (α := α) upper dim) (upper dim) = some 0 := by
  constructor
  · have h_rules : rulesOf (twoSpellings (α := α) upper dim) dim = [oneResult dim 100] := by
      simp [rulesOf, twoSpellings, oneResult, h.symm]
    rw [scoreOf, h_rules, dimensionScore_oneResult]
  · have h_rules : rulesOf (twoSpellings (α := α) upper dim) (upper dim) =
        [oneResult (upper dim) 0] := by
      simp [rulesOf, twoSpellings, oneResult, h]
    rw [scoreOf, h_rules, dimensionScore_oneResult]

omit [LinearOrder α] [IsStrictOrderedRing α] in
/-- Two spellings in the order of the summary. -/
theorem sortedSet_twoSpellings (h : dim ≠ upper dim) :
    (sortedSet (distinctDims (twoSpellings (α := α) upper dim) ∅)).Perm [dim, upper dim] := by
  rw [List.perm_ext_iff_of_nodup (nodup_sortedSet _) (by simp [h])]
  intro d
  rw [mem_sortedSet, mem_distinctDims]
  simp [twoSpellings, oneResult, eq_comm]

omit [IsStrictOrderedRing α] in
/-- The mean over the two spellings, for any weights. -/
theorem weightedMean_twoSpellings (w : String → α) (h : dim ≠ upper dim) :
    weightedMean (presentValues w (scoreOf (twoSpellings upper dim))
        (sortedSet (distinctDims (twoSpellings (α := α) upper dim) ∅))) =
      weightedMean (presentValues w (scoreOf (twoSpellings upper dim)) [dim, upper dim]) :=
  weightedMean_perm (((sortedSet_twoSpellings h).filter _).map _)

/-- A spelling that the scorer and the aggregator weigh differently has results whose
scorecard is not the mean that its weights describe. -/
theorem not_meansAgree_of_misspelt {policy : ScoringPolicy α} {runStatus : String}
    (h : ¬ SpeltAsListed upper policy dim) :
    ¬ MeansAgree (summaryOf upper (twoSpellings upper dim) policy ∅ runStatus) := by
  intro h_means
  unfold SpeltAsListed at h
  push Not at h
  obtain ⟨h_unlisted, h_weight⟩ := h
  rw [ne_eq, Option.not_isSome_iff_eq_none] at h_unlisted
  -- the upper-case spelling is listed, with a weight that is not the default
  obtain ⟨w, h_w⟩ : ∃ w, policy.dimensionWeights (upper dim) = some w := by
    cases h_upper : policy.dimensionWeights (upper dim) with
    | none => exact absurd (by rw [h_upper]; rfl) h_weight
    | some w => exact ⟨w, rfl⟩
  rw [h_w, Option.getD_some] at h_weight
  have h_ne : dim ≠ upper dim := by
    intro h_eq
    rw [← h_eq, h_unlisted] at h_w
    cases h_w
  obtain ⟨h_score, h_zero⟩ := scoreOf_twoSpellings (α := α) h_ne
  have h_eq := h_means.dqScore_eq
  rw [summaryOf_dimensionResults, dimensionResultsOf, presentValues_map] at h_eq
  change weightedMean (weightedScores _ _ _) = weightedMean (presentValues
    (recordedWeight upper policy.dimensionWeights) (scoreOf (twoSpellings upper dim)) _) at h_eq
  rw [weightedScores_eq, weightedMean_twoSpellings _ h_ne, weightedMean_twoSpellings _ h_ne] at h_eq
  have h_used : dimensionWeightOf policy.dimensionWeights dim = 1 := by
    rw [dimensionWeightOf, h_unlisted]
    rfl
  have h_usedUpper : dimensionWeightOf policy.dimensionWeights (upper dim) = w := by
    rw [dimensionWeightOf, h_w, Option.getD_some]
  have h_recorded : recordedWeight upper policy.dimensionWeights dim = w := by
    rw [recordedWeight, h_unlisted, h_w]
    rfl
  have h_recordedUpper : recordedWeight upper policy.dimensionWeights (upper dim) = w := by
    rw [recordedWeight, h_w, Option.getD_some]
  by_cases h_pos : 0 < w
  · -- `100 / (1 + w)` against `100 * w / (w + w)`
    have h_two : (0 : α) < 1 + w := add_pos one_pos h_pos
    have h_double : (0 : α) < w + w := add_pos h_pos h_pos
    simp [presentValues, weightedMean, h_score, h_zero, h_used, h_usedUpper, h_recorded,
      h_recordedUpper, h_pos, h_two, h_double] at h_eq
    rw [div_eq_div_iff h_two.ne' h_double.ne'] at h_eq
    have h_linear : w * (w - 1) = 0 := by linarith
    rcases mul_eq_zero.mp h_linear with h_zero_w | h_one
    · exact absurd h_zero_w h_pos.ne'
    · exact h_weight (sub_eq_zero.mp h_one)
  · -- the recorded weights leave nothing to average
    simp [presentValues, weightedMean, h_score, h_zero, h_used, h_usedUpper, h_recorded,
      h_recordedUpper, h_pos] at h_eq

/-- **Self-consistent scorecards.** A scorecard is the mean that its own weights describe,
with the weights the scorer used, exactly when every dimension of its results is spelt as
the policy lists it; and all scorecards of a policy are such means exactly when the policy
lists no upper-case spelling with a weight of its own that it does not list otherwise. -/
theorem selfConsistent_iff (upper : String → String) (policy : ScoringPolicy α) :
    (∀ (rs : List (QualityRuleResult α)) (requiredDims : Option (Finset String))
      (runStatus : String),
      (∃ s, aggregate upper rs policy requiredDims runStatus = .ok s ∧ SelfConsistent policy s) ↔
        ∀ dim ∈ distinctDims rs (requiredDims.getD ∅), SpeltAsListed upper policy dim) ∧
    ((∀ (rs : List (QualityRuleResult α)) (requiredDims : Option (Finset String))
      (runStatus : String),
      ∃ s, aggregate upper rs policy requiredDims runStatus = .ok s ∧ MeansAgree s) ↔
        ∀ dim, SpeltAsListed upper policy dim) := by
  constructor
  · intro rs requiredDims runStatus
    rw [aggregate_eq]
    constructor
    · rintro ⟨s, h_ok, h_consistent⟩
      obtain rfl := Except.ok.inj h_ok
      exact selfConsistent_summaryOf_iff.mp h_consistent
    · intro h_spelt
      exact ⟨_, rfl, selfConsistent_summaryOf_iff.mpr h_spelt⟩
  · constructor
    · intro h dim
      by_contra h_misspelt
      obtain ⟨s, h_ok, h_means⟩ := h (twoSpellings upper dim) none "SUCCEEDED"
      rw [aggregate_eq] at h_ok
      obtain rfl := Except.ok.inj h_ok
      exact not_meansAgree_of_misspelt h_misspelt h_means
    · intro h rs requiredDims runStatus
      exact ⟨_, aggregate_eq _ _ _ _ _, meansAgree_of_spelt fun dim _ => h dim⟩

end Misspelt

/-- A policy that weighs VALIDITY three times. -/
def validityPolicy : ScoringPolicy ℚ :=
  { ScoringPolicy.ofDefaults with
    dimensionWeights := fun dim => if dim = "VALIDITY" then some 3 else none }

theorem selfConsistent_iff_validityPolicy :
    (∀ (rs : List (QualityRuleResult ℚ)) (requiredDims : Option (Finset String))
      (runStatus : String),
      (∃ s, aggregate String.toUpper rs validityPolicy requiredDims runStatus = .ok s ∧
        SelfConsistent validityPolicy s) ↔
        ∀ dim ∈ distinctDims rs (requiredDims.getD ∅),
          SpeltAsListed String.toUpper validityPolicy dim) ∧
    ((∀ (rs : List (QualityRuleResult ℚ)) (requiredDims : Option (Finset String))
      (runStatus : String),
      ∃ s, aggregate String.toUpper rs validityPolicy requiredDims runStatus = .ok s ∧
        MeansAgree s) ↔
        ∀ dim, SpeltAsListed String.toUpper validityPolicy dim) :=
  selfConsistent_iff String.toUpper validityPolicy

/-- A dimension in lower case beside another. -/
def misspeltResults : List (QualityRuleResult ℚ) := [
  { ruleId := "r1", dimension := "validity", measurementStatus := .measured
    contributionWeight := 1, computedScore := some 100 },
  { ruleId := "r2", dimension := "ACCURACY", measurementStatus := .measured
    contributionWeight := 1, computedScore := some 0 }]

/-- The score is 50, and the mean that the recorded weights describe is 75. -/
theorem misspelt_inconsistent :
    ∃ s, aggregate String.toUpper misspeltResults validityPolicy none "SUCCEEDED" = .ok s ∧
      s.dqScore = some 50 ∧
      weightedMean (presentValues (·.dimensionWeight) (·.dimensionScore) s.dimensionResults) =
        some 75 ∧
      ¬ SelfConsistent validityPolicy s := by
  rw [aggregate_eq]
  have h_score : (summaryOf String.toUpper misspeltResults validityPolicy ∅ "SUCCEEDED").dqScore =
      some 50 := by
    decide +kernel
  have h_mean : weightedMean (presentValues (·.dimensionWeight) (·.dimensionScore)
      (summaryOf String.toUpper misspeltResults validityPolicy ∅ "SUCCEEDED").dimensionResults) =
      some 75 := by
    decide +kernel
  refine ⟨_, rfl, h_score, h_mean, fun h => ?_⟩
  have h_eq := h.means.dqScore_eq
  rw [Option.getD_none, h_score, h_mean] at h_eq
  exact absurd h_eq (by decide)

end DqScoring
