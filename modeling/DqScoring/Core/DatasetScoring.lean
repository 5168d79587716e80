import DqScoring.Core.DimensionScoring

/-!
# Dataset score and coverage

The overall score `S_DQ` and coverage `C_DQ` of `core/dataset_scoring.py`: two more
guarded quotients over the dimensions of positive weight, and so two more weighted
means (`computeDatasetScore_eq`).
-/

namespace DqScoring

open Framework

variable {α : Type} [Field α] [LinearOrder α]

/-- Weight of a dimension that a policy does not list. -/
def defaultDimensionWeight : α := 1

/-- Input for aggregating dimensions into the dataset score and coverage. -/
structure DatasetScoringInput (α : Type) where
  dimensionResults : List (DimensionResult α)
  dimensionWeights : String → Option α := fun _ => none

/-- The weight `weights[d.dimension]` of a dimension result. The source first
collects these weights in a dictionary keyed by the dimensions it then looks up. -/
def datasetWeight (dimensionWeights : String → Option α) (d : DimensionResult α) : α :=
  (dimensionWeights d.dimension).getD defaultDimensionWeight

/-- The dimension results that enter the dataset score. -/
def isMeasuredDimension (dimensionWeights : String → Option α) (d : DimensionResult α) : Bool :=
  d.dimensionScore.isSome && decide (datasetWeight dimensionWeights d > 0)

/-- The dimension results that enter the dataset coverage. -/
def isExpectedDimension (dimensionWeights : String → Option α) (d : DimensionResult α) : Bool :=
  d.coverageRatio.isSome && decide (datasetWeight dimensionWeights d > 0)

/-- The overall dataset score and coverage. -/
def computeDatasetScoreIn (ar : Arithmetic α) (inp : DatasetScoringInput α) :
    Except PyError (DatasetScoreResult α) := do
  let weight := datasetWeight inp.dimensionWeights
  let measuredDims := inp.dimensionResults.filter (isMeasuredDimension inp.dimensionWeights)
  let expectedDims := inp.dimensionResults.filter (isExpectedDimension inp.dimensionWeights)
  -- score and coverage are divided by the weights of different dimensions
  let sumMeasuredAlpha := ar.sum (measuredDims.map weight)
  let sumExpectedAlpha := ar.sum (expectedDims.map weight)
  let weightedDimSum :=
    ar.sum (measuredDims.map fun d => ar.mul (weight d) (d.dimensionScore.getD 0))
  let dqScore ← divIfPositiveIn ar weightedDimSum sumMeasuredAlpha
  let weightedCovSum :=
    ar.sum (expectedDims.map fun d => ar.mul (weight d) (d.coverageRatio.getD 0))
  let coverageRatio ← divIfPositiveIn ar weightedCovSum sumExpectedAlpha
  return { dqScore, coverageRatio, dimensionResults := inp.dimensionResults }

/-- The dataset score and coverage in exact arithmetic. -/
def computeDatasetScore (inp : DatasetScoringInput α) : Except PyError (DatasetScoreResult α) :=
  computeDatasetScoreIn (.exact α) inp

/-! ### Scores and coverage as weighted means -/

/-- Weight and score of the measured dimensions. -/
def measuredDimensionScores (inp : DatasetScoringInput α) : List (α × α) :=
  (inp.dimensionResults.filter (isMeasuredDimension inp.dimensionWeights)).map
    fun d => (datasetWeight inp.dimensionWeights d, d.dimensionScore.getD 0)

/-- Weight and coverage of the expected dimensions. -/
def expectedDimensionCoverages (inp : DatasetScoringInput α) : List (α × α) :=
  (inp.dimensionResults.filter (isExpectedDimension inp.dimensionWeights)).map
    fun d => (datasetWeight inp.dimensionWeights d, d.coverageRatio.getD 0)

/-- **Refinement of the dataset score.** The code returns, without raising, the two
weighted means over dimensions. -/
theorem computeDatasetScore_eq (inp : DatasetScoringInput α) :
    computeDatasetScore inp = .ok {
      dqScore := weightedMean (measuredDimensionScores inp)
      coverageRatio := weightedMean (expectedDimensionCoverages inp)
      dimensionResults := inp.dimensionResults } := by
  have h_score := divIfPositive_eq_weightedMean
    (weightedSum_map (datasetWeight inp.dimensionWeights) (fun d => d.dimensionScore.getD 0)
      (inp.dimensionResults.filter (isMeasuredDimension inp.dimensionWeights)))
    (totalWeight_map _ _ _)
  have h_coverage := divIfPositive_eq_weightedMean
    (weightedSum_map (datasetWeight inp.dimensionWeights) (fun d => d.coverageRatio.getD 0)
      (inp.dimensionResults.filter (isExpectedDimension inp.dimensionWeights)))
    (totalWeight_map _ _ _)
  unfold computeDatasetScore computeDatasetScoreIn
  unfold divIfPositive at h_score h_coverage
  simp only [Arithmetic.exact_sum, Arithmetic.exact_mul, h_score, h_coverage]
  rfl

/-! ### Presence and bounds -/

/-- The dimensions in the score are those of positive weight that have a score. -/
theorem measuredDimensionScores_eq (inp : DatasetScoringInput α) :
    measuredDimensionScores inp = presentValues (datasetWeight inp.dimensionWeights)
      (·.dimensionScore) inp.dimensionResults := rfl

/-- The dimensions in the coverage are those of positive weight that have a coverage. -/
theorem expectedDimensionCoverages_eq (inp : DatasetScoringInput α) :
    expectedDimensionCoverages inp = presentValues (datasetWeight inp.dimensionWeights)
      (·.coverageRatio) inp.dimensionResults := rfl

variable [IsStrictOrderedRing α]

/-- The dataset score is absent exactly when no dimension of positive weight has a
score. -/
theorem datasetScore_eq_none_iff {inp : DatasetScoringInput α} :
    weightedMean (measuredDimensionScores inp) = none ↔
      ∀ d ∈ inp.dimensionResults, 0 < datasetWeight inp.dimensionWeights d →
        d.dimensionScore = none := by
  rw [measuredDimensionScores_eq, weightedMean_presentValues_eq_none_iff]

/-- The dataset coverage is absent exactly when no dimension of positive weight has
a coverage. -/
theorem datasetCoverage_eq_none_iff {inp : DatasetScoringInput α} :
    weightedMean (expectedDimensionCoverages inp) = none ↔
      ∀ d ∈ inp.dimensionResults, 0 < datasetWeight inp.dimensionWeights d →
        d.coverageRatio = none := by
  rw [expectedDimensionCoverages_eq, weightedMean_presentValues_eq_none_iff]

/-- The dataset score stays between the bounds of the dimension scores. -/
theorem datasetScore_mem_Icc {inp : DatasetScoringInput α}
    (h : ∀ d ∈ inp.dimensionResults, ∀ s ∈ d.dimensionScore, s ∈ Set.Icc (0 : α) 100) {s : α}
    (hs : weightedMean (measuredDimensionScores inp) = some s) : s ∈ Set.Icc (0 : α) 100 := by
  rw [measuredDimensionScores_eq] at hs
  exact weightedMean_presentValues_mem_Icc h hs

/-- The dataset coverage stays between the bounds of the dimension coverages. -/
theorem datasetCoverage_mem_Icc {inp : DatasetScoringInput α}
    (h : ∀ d ∈ inp.dimensionResults, ∀ c ∈ d.coverageRatio, c ∈ Set.Icc (0 : α) 1) {c : α}
    (hc : weightedMean (expectedDimensionCoverages inp) = some c) : c ∈ Set.Icc (0 : α) 1 := by
  rw [expectedDimensionCoverages_eq] at hc
  exact weightedMean_presentValues_mem_Icc h hc

end DqScoring
