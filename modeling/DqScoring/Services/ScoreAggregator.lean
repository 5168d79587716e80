import DqScoring.Core.DatasetScoring
import DqScoring.Core.QualityGate
import DqScoring.Framework.ListOrder
import Mathlib.Data.String.Basic

/-!
# The score aggregator

`ScoreAggregator.aggregate` of `services/score_aggregator.py`: rule results are
grouped by dimension, each dimension and then the dataset is scored, and the gate
and the publication check are evaluated on the outcome. Python's `str.upper` is the
parameter `upper`; the aggregator only uses it for the weight it records on a
dimension.

The aggregator raises nothing (`aggregate_eq`). Its outcome is written with two
functions of a dimension name, `scoreOf` and `coverageOf`, which the later modules
use to compare the outcomes of two lists of results.
-/

namespace DqScoring

open Framework

variable {α : Type} [Field α] [LinearOrder α]

/-- Aggregated scorecard summary. -/
structure ScoreSummaryDTO (α : Type) where
  dqScore : Option α
  coverageRatio : Option α
  qualityGate : QualityGateStatus
  publicationStatus : PublicationStatus
  publishedScore : Option α
  dimensionResults : List (DimensionResult α)
  allRequiredDimensionsMeasured : Bool
  hasFailedRequiredRules : Bool
  hasUnmeasuredRequiredRules : Bool

/-- The rules of each dimension, collected in one pass in their given order. -/
def rulesByDim (ruleResults : List (QualityRuleResult α)) :
    String → List (QualityRuleResult α) :=
  ruleResults.foldl (fun byDim r => Function.update byDim r.dimension (byDim r.dimension ++ [r]))
    fun _ => []

/-- The dimensions that occur in the results or are required. -/
def distinctDims (ruleResults : List (QualityRuleResult α)) (requiredDims : Finset String) :
    Finset String :=
  (ruleResults.map (·.dimension)).toFinset ∪ requiredDims

/-- The weight recorded on a dimension result. -/
def recordedWeight (upper : String → String) (weights : String → Option α) (dim : String) : α :=
  (weights dim).getD ((weights (upper dim)).getD 1)

/-- The dimension result of each distinct and required dimension. -/
def computeAllDimensionResultsIn (ar : Arithmetic α) (upper : String → String)
    (ruleResults : List (QualityRuleResult α)) (requiredDims : Finset String)
    (weights : String → Option α) : Except PyError (List (DimensionResult α)) :=
  (sortedSet (distinctDims ruleResults requiredDims)).mapM fun dim =>
    -- one result per dimension, in the order of their names
    computeDimensionResultIn ar {
      dimension := dim
      rules := rulesByDim ruleResults dim
      dimensionWeight := recordedWeight upper weights dim }

/-- The dimension results in exact arithmetic. -/
def computeAllDimensionResults (upper : String → String)
    (ruleResults : List (QualityRuleResult α)) (requiredDims : Finset String)
    (weights : String → Option α) : Except PyError (List (DimensionResult α)) :=
  computeAllDimensionResultsIn (.exact α) upper ruleResults requiredDims weights

/-- Aggregate rule-level results into dimension and dataset scorecards. -/
def aggregateIn (ar : Arithmetic α) (upper : String → String)
    (ruleResults : List (QualityRuleResult α))
    (policy : ScoringPolicy α) (requiredDims : Option (Finset String) := none)
    (runStatus : String := "SUCCEEDED") : Except PyError (ScoreSummaryDTO α) := do
  let reqDims := requiredDims.getD ∅
  let dimResults ←
    computeAllDimensionResultsIn ar upper ruleResults reqDims policy.dimensionWeights
  let datasetRes ← computeDatasetScoreIn ar {
    dimensionResults := dimResults
    dimensionWeights := policy.dimensionWeights }
  let measuredDims := ((dimResults.filter (·.dimensionScore.isSome)).map (·.dimension)).toFinset
  let allReqMeasured := !decide (reqDims \ measuredDims ≠ ∅)
  -- the facts of the publication check are read off the results again
  let hasFailedRequired := ruleResults.any fun r =>
    r.isRequired && r.measurementStatus == .failedToMeasure
  let hasUnmeasuredRequired := ruleResults.any fun r =>
    r.isRequired && isUnmeasuredStatus r.measurementStatus
  let gateStatus ← evaluateQualityGate {
    ruleResults
    dqScore := datasetRes.dqScore
    coverageRatio := datasetRes.coverageRatio
    policy
    requiredDimensions := reqDims }
  let publication := determinePublicationStatus {
    runStatus
    gateStatus
    dqScore := datasetRes.dqScore
    coverageRatio := datasetRes.coverageRatio
    policy
    allRequiredDimensionsMeasured := allReqMeasured
    hasFailedRequiredRules := hasFailedRequired
    hasUnmeasuredRequiredRules := hasUnmeasuredRequired }
  return {
    dqScore := datasetRes.dqScore
    coverageRatio := datasetRes.coverageRatio
    qualityGate := gateStatus
    publicationStatus := publication.1
    publishedScore := publication.2
    dimensionResults := dimResults
    allRequiredDimensionsMeasured := allReqMeasured
    hasFailedRequiredRules := hasFailedRequired
    hasUnmeasuredRequiredRules := hasUnmeasuredRequired }

/-- The scorecards in exact arithmetic. -/
def aggregate (upper : String → String) (ruleResults : List (QualityRuleResult α))
    (policy : ScoringPolicy α) (requiredDims : Option (Finset String) := none)
    (runStatus : String := "SUCCEEDED") : Except PyError (ScoreSummaryDTO α) :=
  aggregateIn (.exact α) upper ruleResults policy requiredDims runStatus

/-! ### Grouping -/

/-- The rules of one dimension. -/
def rulesOf (ruleResults : List (QualityRuleResult α)) (dim : String) :
    List (QualityRuleResult α) :=
  ruleResults.filter (·.dimension = dim)

omit [Field α] [LinearOrder α] in
/-- The grouping loop, from any table: every dimension gains its own rules, in order. -/
theorem foldl_rulesByDim (rs : List (QualityRuleResult α))
    (byDim : String → List (QualityRuleResult α)) (dim : String) :
    rs.foldl (fun m r => Function.update m r.dimension (m r.dimension ++ [r])) byDim dim =
      byDim dim ++ rulesOf rs dim := by
  -- the table grows along the loop, so the statement is about every table
  induction rs generalizing byDim with
  | nil => rw [List.foldl_nil, rulesOf, List.filter_nil, List.append_nil]
  | cons r rs ih =>
    rw [List.foldl_cons, ih]
    unfold rulesOf
    by_cases h : r.dimension = dim
    · subst h
      rw [Function.update_self, List.filter_cons_of_pos (by simp), List.append_assoc,
        List.singleton_append]
    · rw [Function.update_of_ne (Ne.symm h), List.filter_cons_of_neg (by simpa using h)]

omit [Field α] [LinearOrder α] in
theorem rulesByDim_apply (rs : List (QualityRuleResult α)) (dim : String) :
    rulesByDim rs dim = rulesOf rs dim :=
  (foldl_rulesByDim rs _ dim).trans (List.nil_append _)

omit [Field α] [LinearOrder α] in
/-- The rules of a dimension. -/
theorem mem_rulesOf {rs : List (QualityRuleResult α)} {dim : String}
    {r : QualityRuleResult α} : r ∈ rulesOf rs dim ↔ r ∈ rs ∧ r.dimension = dim := by
  rw [rulesOf, List.mem_filter, decide_eq_true_eq]

/-! ### The outcome of the aggregator -/

/-- The score of a dimension in a list of results. -/
def scoreOf (rs : List (QualityRuleResult α)) (dim : String) : Option α :=
  dimensionScore (rulesOf rs dim)

/-- The coverage of a dimension in a list of results. -/
def coverageOf (rs : List (QualityRuleResult α)) (dim : String) : Option α :=
  dimensionCoverage (rulesOf rs dim)

/-- The result of one dimension. -/
def dimensionResultOf (upper : String → String) (weights : String → Option α)
    (rs : List (QualityRuleResult α)) (dim : String) : DimensionResult α where
  dimension := dim
  dimensionScore := scoreOf rs dim
  coverageRatio := coverageOf rs dim
  ruleResults := rulesOf rs dim
  dimensionWeight := recordedWeight upper weights dim

/-- The dimension results of the scorecard. -/
def dimensionResultsOf (upper : String → String) (weights : String → Option α)
    (rs : List (QualityRuleResult α)) (reqDims : Finset String) : List (DimensionResult α) :=
  (sortedSet (distinctDims rs reqDims)).map (dimensionResultOf upper weights rs)

/-- Weight of a dimension in the dataset score. -/
def dimensionWeightOf (weights : String → Option α) (dim : String) : α :=
  (weights dim).getD defaultDimensionWeight

/-- Weight and score of the dimensions that enter the dataset score. -/
def weightedScores (weights : String → Option α) (rs : List (QualityRuleResult α))
    (reqDims : Finset String) : List (α × α) :=
  ((sortedSet (distinctDims rs reqDims)).filter
      fun dim => (scoreOf rs dim).isSome && decide (dimensionWeightOf weights dim > 0)).map
    fun dim => (dimensionWeightOf weights dim, (scoreOf rs dim).getD 0)

/-- Weight and coverage of the dimensions that enter the dataset coverage. -/
def weightedCoverages (weights : String → Option α) (rs : List (QualityRuleResult α))
    (reqDims : Finset String) : List (α × α) :=
  ((sortedSet (distinctDims rs reqDims)).filter
      fun dim => (coverageOf rs dim).isSome && decide (dimensionWeightOf weights dim > 0)).map
    fun dim => (dimensionWeightOf weights dim, (coverageOf rs dim).getD 0)

/-- The dataset score of a list of results. -/
def datasetScoreOf (weights : String → Option α) (rs : List (QualityRuleResult α))
    (reqDims : Finset String) : Option α :=
  weightedMean (weightedScores weights rs reqDims)

/-- The dataset coverage of a list of results. -/
def datasetCoverageOf (weights : String → Option α) (rs : List (QualityRuleResult α))
    (reqDims : Finset String) : Option α :=
  weightedMean (weightedCoverages weights rs reqDims)

/-- The input the aggregator hands to the gate. -/
def gateInputOf (rs : List (QualityRuleResult α)) (policy : ScoringPolicy α)
    (reqDims : Finset String) : GateEvaluationInput α where
  ruleResults := rs
  dqScore := datasetScoreOf policy.dimensionWeights rs reqDims
  coverageRatio := datasetCoverageOf policy.dimensionWeights rs reqDims
  policy := policy
  requiredDimensions := reqDims

/-- The dimensions the aggregator takes to be measured. -/
def scoredDims (rs : List (QualityRuleResult α)) (reqDims : Finset String) : Finset String :=
  (distinctDims rs reqDims).filter fun dim => (scoreOf rs dim).isSome

/-- The input the aggregator hands to the publication check. -/
def publicationInputOf (rs : List (QualityRuleResult α)) (policy : ScoringPolicy α)
    (reqDims : Finset String) (runStatus : String) : PublicationCheckInput α where
  runStatus := runStatus
  gateStatus := qualityGateStatus (gateInputOf rs policy reqDims)
  dqScore := datasetScoreOf policy.dimensionWeights rs reqDims
  coverageRatio := datasetCoverageOf policy.dimensionWeights rs reqDims
  policy := policy
  -- a required dimension without a score keeps the score back
  allRequiredDimensionsMeasured := !decide (reqDims \ scoredDims rs reqDims ≠ ∅)
  hasFailedRequiredRules := hasRequiredTechnicalFailure rs
  hasUnmeasuredRequiredRules := hasUnmeasuredRequired rs

/-- The scorecard of a list of results. -/
def summaryOf (upper : String → String) (rs : List (QualityRuleResult α))
    (policy : ScoringPolicy α) (reqDims : Finset String) (runStatus : String) :
    ScoreSummaryDTO α where
  dqScore := datasetScoreOf policy.dimensionWeights rs reqDims
  coverageRatio := datasetCoverageOf policy.dimensionWeights rs reqDims
  qualityGate := qualityGateStatus (gateInputOf rs policy reqDims)
  publicationStatus := (determinePublicationStatus
    (publicationInputOf rs policy reqDims runStatus)).1
  publishedScore := (determinePublicationStatus
    (publicationInputOf rs policy reqDims runStatus)).2
  dimensionResults := dimensionResultsOf upper policy.dimensionWeights rs reqDims
  allRequiredDimensionsMeasured := !decide (reqDims \ scoredDims rs reqDims ≠ ∅)
  hasFailedRequiredRules := hasRequiredTechnicalFailure rs
  hasUnmeasuredRequiredRules := hasUnmeasuredRequired rs

/-- The summary lists the results of all dimensions. -/
@[simp] theorem summaryOf_dimensionResults (upper : String → String)
    (rs : List (QualityRuleResult α)) (policy : ScoringPolicy α) (reqDims : Finset String)
    (runStatus : String) : (summaryOf upper rs policy reqDims runStatus).dimensionResults =
      dimensionResultsOf upper policy.dimensionWeights rs reqDims := rfl

/-- Every dimension has its result, without error. -/
theorem computeAllDimensionResults_eq (upper : String → String)
    (rs : List (QualityRuleResult α)) (reqDims : Finset String) (weights : String → Option α) :
    computeAllDimensionResults upper rs reqDims weights =
      .ok (dimensionResultsOf upper weights rs reqDims) := by
  show (sortedSet (distinctDims rs reqDims)).mapM (fun dim =>
    computeDimensionResult ⟨dim, rulesByDim rs dim, recordedWeight upper weights dim⟩) = _
  simp only [computeDimensionResult_eq, rulesByDim_apply]
  exact List.mapM_pure

/-- The scores are those of the dimensions of positive weight that have one. -/
theorem weightedScores_eq (weights : String → Option α) (rs : List (QualityRuleResult α))
    (reqDims : Finset String) : weightedScores weights rs reqDims =
      presentValues (dimensionWeightOf weights) (scoreOf rs)
        (sortedSet (distinctDims rs reqDims)) := rfl

/-- The coverages are those of the dimensions of positive weight that have one. -/
theorem weightedCoverages_eq (weights : String → Option α) (rs : List (QualityRuleResult α))
    (reqDims : Finset String) : weightedCoverages weights rs reqDims =
      presentValues (dimensionWeightOf weights) (coverageOf rs)
        (sortedSet (distinctDims rs reqDims)) := rfl

/-- The scores that enter the dataset's score. -/
theorem measuredDimensionScores_dimensionResultsOf (upper : String → String)
    (weights : String → Option α) (rs : List (QualityRuleResult α)) (reqDims : Finset String) :
    measuredDimensionScores ⟨dimensionResultsOf upper weights rs reqDims, weights⟩ =
      weightedScores weights rs reqDims := by
  rw [measuredDimensionScores_eq, weightedScores_eq, dimensionResultsOf, presentValues_map]
  rfl

/-- The coverages that enter the dataset's coverage. -/
theorem expectedDimensionCoverages_dimensionResultsOf (upper : String → String)
    (weights : String → Option α) (rs : List (QualityRuleResult α)) (reqDims : Finset String) :
    expectedDimensionCoverages ⟨dimensionResultsOf upper weights rs reqDims, weights⟩ =
      weightedCoverages weights rs reqDims := by
  rw [expectedDimensionCoverages_eq, weightedCoverages_eq, dimensionResultsOf, presentValues_map]
  rfl

/-- The dimensions that have a score. -/
theorem measuredDims_dimensionResultsOf (upper : String → String)
    (weights : String → Option α) (rs : List (QualityRuleResult α)) (reqDims : Finset String) :
    (((dimensionResultsOf upper weights rs reqDims).filter (·.dimensionScore.isSome)).map
      (·.dimension)).toFinset = scoredDims rs reqDims := by
  ext dim
  simp only [dimensionResultsOf, List.filter_map, List.map_map, List.mem_toFinset, List.mem_map,
    List.mem_filter, mem_sortedSet, scoredDims, Finset.mem_filter]
  constructor
  · rintro ⟨d, ⟨hd, hs⟩, rfl⟩
    exact ⟨hd, hs⟩
  · rintro ⟨hd, hs⟩
    exact ⟨dim, ⟨hd, hs⟩, rfl⟩

/-- **The aggregator never raises**, and its outcome is the scorecard `summaryOf`. -/
theorem aggregate_eq (upper : String → String) (rs : List (QualityRuleResult α))
    (policy : ScoringPolicy α) (requiredDims : Option (Finset String)) (runStatus : String) :
    aggregate upper rs policy requiredDims runStatus =
      .ok (summaryOf upper rs policy (requiredDims.getD ∅) runStatus) := by
  have h_dimensions := computeAllDimensionResults_eq upper rs (requiredDims.getD ∅)
    policy.dimensionWeights
  unfold computeAllDimensionResults at h_dimensions
  have h_dataset : ∀ inp : DatasetScoringInput α,
      computeDatasetScoreIn (.exact α) inp = _ := computeDatasetScore_eq
  unfold aggregate aggregateIn
  simp only [h_dimensions, h_dataset,
    measuredDimensionScores_dimensionResultsOf, expectedDimensionCoverages_dimensionResultsOf,
    measuredDims_dimensionResultsOf, evaluateQualityGate_eq, bind, Except.bind, pure,
    Except.pure]
  rfl

end DqScoring
