import DqScoring.Core.OutlierAdvisory
import DqScoring.Services.SameEvidence

/-!
# The evaluation orchestrator

What `services/evaluation_orchestrator.py` adds around the aggregator: the results of
the outlier advisories are appended to those of the rules, and the payload of the
assessment hash is collected from the scorecard and the results. The hash itself,
SHA-256 of the payload's JSON text, is a function of the payload.

Two things must not show in a scorecard. The order in which the engine returned the
rules: `scorecard_perm` follows it through the aggregator and the payload. And the
outlier advisories: `headline_append_outliers` does the same for any number of them.
-/

namespace DqScoring

open Framework

variable {α : Type} [Field α] [LinearOrder α]

/-! ### The hashed payload -/

/-- What the assessment hash covers of one dimension. -/
structure HashedDimension (α : Type) where
  dimension : String
  dimensionScore : Option α
  coverageRatio : Option α
  rulesCount : ℕ
  deriving DecidableEq, Repr

/-- What the assessment hash covers of one rule result. -/
structure HashedRule (α : Type) where
  ruleId : String
  dimension : String
  measurementStatus : MeasurementStatus
  computedScore : Option α
  violationsCount : ℕ
  deriving DecidableEq, Repr

/-- The payload of the assessment hash. -/
structure AssessmentHashPayload (α : Type) where
  snapshotId : String
  dqScore : Option α
  publicationStatus : PublicationStatus
  coverageRatio : Option α
  qualityGate : QualityGateStatus
  dimensionResults : List (HashedDimension α)
  ruleResults : List (HashedRule α)
  deriving DecidableEq, Repr

/-- The hashed part of a dimension result. -/
def hashedDimension (d : DimensionResult α) : HashedDimension α where
  dimension := d.dimension
  dimensionScore := d.dimensionScore
  coverageRatio := d.coverageRatio
  rulesCount := d.ruleResults.length

/-- The hashed part of a rule result. -/
def hashedRule (r : QualityRuleResult α) : HashedRule α where
  ruleId := r.ruleId
  dimension := r.dimension
  measurementStatus := r.measurementStatus
  computedScore := r.computedScore
  violationsCount := r.violationsCount

/-- The payload collected for the assessment hash: dimensions sorted by name, rule
results by rule id. -/
def assessmentHashPayload (snapshotId : String) (summary : ScoreSummaryDTO α)
    (ruleResults : List (QualityRuleResult α)) : AssessmentHashPayload α where
  snapshotId := snapshotId
  dqScore := summary.publishedScore
  publicationStatus := summary.publicationStatus
  coverageRatio := summary.coverageRatio
  qualityGate := summary.qualityGate
  dimensionResults :=
    -- sorted, so that the order of the rules leaves the hash alone
    (sortByKey (·.dimension) summary.dimensionResults).map hashedDimension
  ruleResults := (sortByKey (·.ruleId) ruleResults).map hashedRule

/-! ### Order independence -/

omit [Field α] [LinearOrder α] in
/-- Reordered results have the same dimensions. -/
theorem distinctDims_perm {rs rs' : List (QualityRuleResult α)} (h : rs.Perm rs')
    (reqDims : Finset String) : distinctDims rs reqDims = distinctDims rs' reqDims := by
  unfold distinctDims
  rw [List.toFinset_eq_of_perm _ _ (h.map _)]

/-- The hash of a dimension ignores the order of the results. -/
theorem hashedDimension_perm {rs rs' : List (QualityRuleResult α)} (h : rs.Perm rs')
    (upper : String → String) (weights : String → Option α) (dim : String) :
    hashedDimension (dimensionResultOf upper weights rs dim) =
      hashedDimension (dimensionResultOf upper weights rs' dim) := by
  have h_dim : (rulesOf rs dim).Perm (rulesOf rs' dim) := h.filter _
  have h_score : scoreOf rs dim = scoreOf rs' dim :=
    weightedMean_perm ((h_dim.filter _).map _)
  have h_coverage : coverageOf rs dim = coverageOf rs' dim :=
    weightedMean_perm ((h_dim.filter _).map _)
  simp only [hashedDimension, dimensionResultOf, h_score, h_coverage, h_dim.length_eq]

/-- Each dimension keeps its score, coverage and number of rules. -/
theorem hashedDimensions_perm {rs rs' : List (QualityRuleResult α)} (h : rs.Perm rs')
    (upper : String → String) (weights : String → Option α) (reqDims : Finset String) :
    (dimensionResultsOf upper weights rs reqDims).map hashedDimension =
      (dimensionResultsOf upper weights rs' reqDims).map hashedDimension := by
  rw [dimensionResultsOf, dimensionResultsOf, distinctDims_perm h, List.map_map, List.map_map]
  exact List.map_congr_left fun dim _ => hashedDimension_perm h upper weights dim

/-- The aggregator's dimension results are already in the order of the payload. -/
theorem sortByKey_dimensionResultsOf (upper : String → String) (weights : String → Option α)
    (rs : List (QualityRuleResult α)) (reqDims : Finset String) :
    sortByKey (·.dimension) (dimensionResultsOf upper weights rs reqDims) =
      dimensionResultsOf upper weights rs reqDims := by
  refine List.Pairwise.insertionSort_eq ?_
  rw [dimensionResultsOf, List.pairwise_map]
  exact pairwise_sortedSet _

section Permutation

variable [IsStrictOrderedRing α]

/-- **The execution order does not show.** Reordering results with distinct rule ids
changes neither the headline, nor the scores and coverages of the dimensions, nor the
payload of the assessment hash, nor the required dimensions. -/
theorem scorecard_perm {rs rs' : List (QualityRuleResult α)} (h_perm : rs.Perm rs')
    (h_ids : (rs.map (·.ruleId)).Nodup) (upper : String → String) (policy : ScoringPolicy α)
    (requiredDims : Option (Finset String)) (runStatus snapshotId : String) :
    requiredDimensions rs = requiredDimensions rs' ∧
    ∃ s s', aggregate upper rs policy requiredDims runStatus = .ok s ∧
      aggregate upper rs' policy requiredDims runStatus = .ok s' ∧
      s.headline = s'.headline ∧
      s.dimensionResults.map (fun d => (d.dimension, d.dimensionScore, d.coverageRatio)) =
        s'.dimensionResults.map (fun d => (d.dimension, d.dimensionScore, d.coverageRatio)) ∧
      assessmentHashPayload snapshotId s rs = assessmentHashPayload snapshotId s' rs' := by
  have h_same := SameEvidence.of_perm h_perm policy
  have h_headline := h_same.headline_eq upper (requiredDims.getD ∅) runStatus
  have h_dims := hashedDimensions_perm h_perm upper policy.dimensionWeights
    (requiredDims.getD ∅)
  refine ⟨h_same.requiredDimensions_eq, _, _, aggregate_eq .., aggregate_eq .., h_headline,
    ?_, ?_⟩
  · have h_fields := congrArg (List.map fun d : HashedDimension α =>
      (d.dimension, d.dimensionScore, d.coverageRatio)) h_dims
    rw [List.map_map, List.map_map] at h_fields
    exact h_fields
  · -- the payload sorts the results by their ids, which are distinct
    have h_rules : sortByKey (·.ruleId) rs = sortByKey (·.ruleId) rs' :=
      sortByKey_perm h_perm h_ids
    obtain ⟨-, h_coverage, h_gate, h_status, h_published⟩ := Headline.mk.inj h_headline
    simp only [assessmentHashPayload, h_coverage, h_gate, h_status, h_published, h_rules,
      summaryOf_dimensionResults, sortByKey_dimensionResultsOf, h_dims]

end Permutation

/-- A measured and an unmeasured rule. -/
def validityResults : List (QualityRuleResult ℚ) := [
  { ruleId := "r1", dimension := "VALIDITY", measurementStatus := .measured
    contributionWeight := 1, computedScore := some 90 },
  { ruleId := "r2", dimension := "VALIDITY", measurementStatus := .notMeasurable
    contributionWeight := 2 }]

theorem scorecard_perm_validityResults :
    ∃ s s', aggregate id validityResults ScoringPolicy.ofDefaults none "SUCCEEDED" = .ok s ∧
      aggregate id validityResults.reverse ScoringPolicy.ofDefaults none "SUCCEEDED" = .ok s' ∧
      assessmentHashPayload "s1" s validityResults =
        assessmentHashPayload "s1" s' validityResults.reverse := by
  have h_ids : (validityResults.map (·.ruleId)).Nodup := by decide
  obtain ⟨-, s, s', h_s, h_s', -, -, h_payload⟩ :=
    scorecard_perm (List.reverse_perm validityResults).symm h_ids id ScoringPolicy.ofDefaults
      none "SUCCEEDED" "s1"
  exact ⟨s, s', h_s, h_s', h_payload⟩

/-! ### Outlier advisories -/

/-- An outlier advisory is in no class that the scorer or the gate reads. -/
theorem isInert_outlier (policy : ScoringPolicy α) (inp : OutlierResultInput α) :
    IsInert policy (buildOutlierAdvisoryResult inp) where
  not_expected := isDimensionExpectedRule_outlier inp
  not_gateMeasured := by simp [isGateMeasuredRule, buildOutlierAdvisoryResult]
  not_required := rfl
  not_critical := rfl

section Outliers

variable [IsStrictOrderedRing α]

/-- **Outlier advisories do not show.** Appending the results of any outlier summaries,
with the required dimensions taken from the longer list, leaves the headline as it
was. -/
theorem headline_append_outliers (upper : String → String) (rs : List (QualityRuleResult α))
    (summaries : List (OutlierResultInput α)) (policy : ScoringPolicy α) (runStatus : String) :
    ∃ s s',
      aggregate upper (rs ++ summaries.map buildOutlierAdvisoryResult) policy
        (some (requiredDimensions (rs ++ summaries.map buildOutlierAdvisoryResult)))
        runStatus = .ok s ∧
      aggregate upper rs policy (some (requiredDimensions rs)) runStatus = .ok s' ∧
      s.headline = s'.headline := by
  -- what is appended is in no class that is read, so the evidence is the same
  have h_inert : ∀ r ∈ summaries.map buildOutlierAdvisoryResult, IsInert policy r := by
    intro r hr
    obtain ⟨inp, -, rfl⟩ := List.mem_map.mp hr
    exact isInert_outlier policy inp
  have h_same : SameEvidence policy (rs ++ summaries.map buildOutlierAdvisoryResult) rs :=
    SameEvidence.append_inert h_inert
  refine ⟨_, _, aggregate_eq .., aggregate_eq .., ?_⟩
  rw [h_same.requiredDimensions_eq]
  exact h_same.headline_eq upper _ runStatus

end Outliers

/-- Two outlier summaries, for results without the dimension ACCURACY. -/
def outlierSummaries : List (OutlierResultInput ℚ) := [
  { columnName := "age", totalEvaluated := 9, iqr := 2, outlierCount := 1 },
  { columnName := "pay", totalEvaluated := 3 }]

theorem headline_append_outliers_validityResults :
    ∃ s s',
      aggregate id (validityResults ++ outlierSummaries.map buildOutlierAdvisoryResult)
        ScoringPolicy.ofDefaults
        (some (requiredDimensions
          (validityResults ++ outlierSummaries.map buildOutlierAdvisoryResult)))
        "SUCCEEDED" = .ok s ∧
      aggregate id validityResults ScoringPolicy.ofDefaults
        (some (requiredDimensions validityResults)) "SUCCEEDED" = .ok s' ∧
      s.headline = s'.headline :=
  headline_append_outliers id validityResults outlierSummaries ScoringPolicy.ofDefaults
    "SUCCEEDED"

end DqScoring
