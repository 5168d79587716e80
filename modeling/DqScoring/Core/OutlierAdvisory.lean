import DqScoring.Core.DimensionScoring

/-!
# Outlier advisories

The normalisation of an outlier summary into an advisory rule result
(`core/outlier_advisory.py`), and what makes it advisory: the result is in none of
the classes the scorer and the gate read.
-/

namespace DqScoring

variable {α : Type} [Field α] [LinearOrder α]

/-- Minimum sample size for valid IQR boundaries. -/
def minOutlierEvaluationSample : ℕ := 4

/-- Raw statistical distribution summary of one column. -/
structure OutlierResultInput (α : Type) [Zero α] where
  columnName : String
  totalEvaluated : ℕ
  iqr : α := 0
  outlierCount : ℕ := 0
  isAllNull : Bool := false

/-- Normalize an outlier outcome into an advisory rule result. -/
def buildOutlierAdvisoryResult (inp : OutlierResultInput α) : QualityRuleResult α :=
  -- the status is the only field that depends on the distribution
  let isValidMeasurement :=
    !inp.isAllNull
      && decide (inp.totalEvaluated ≥ minOutlierEvaluationSample)
      && decide (inp.iqr > 0)
  let status : MeasurementStatus := if isValidMeasurement then .measured else .notMeasurable
  { ruleId := "outlier_iqr_" ++ inp.columnName
    dimension := StandardDimension.accuracy.value
    measurementStatus := status
    isCritical := false
    isAdvisory := true
    isRequired := false
    gateEnabled := false
    scoreEnabled := false
    conflictGroup := none
    isPrimaryScoringRule := false
    contributionWeight := 0
    computedScore := none
    violationsCount := inp.outlierCount
    sourceKind := "OUTLIER"
    targetColumn := some inp.columnName }

@[simp] theorem isDimensionExpectedRule_outlier (inp : OutlierResultInput α) :
    isDimensionExpectedRule (buildOutlierAdvisoryResult inp) = false := rfl

@[simp] theorem isDimensionMeasuredRule_outlier (inp : OutlierResultInput α) :
    isDimensionMeasuredRule (buildOutlierAdvisoryResult inp) = false := by
  simp [isDimensionMeasuredRule, buildOutlierAdvisoryResult]

end DqScoring
