import DqScoring.Common.PyValue
import DqScoring.Framework.Arithmetic
import Mathlib.Algebra.Order.Field.Basic
import Mathlib.Data.Finset.Image
import Mathlib.Order.Interval.Set.Defs
import Mathlib.Tactic.NormNum

/-!
# Domain models of the scoring engine

The entities, enumerations and value objects of `core/models.py`, over an
arbitrary ordered field `α` in place of the source's floats. The functions that
compute with them take the operations as a parameter (`Arithmetic`) and have a name
of their own for exact arithmetic, in which the engine is read unless floats are
named. Counts of records are natural numbers.

An object is a structure with the source's fields and defaults. The bounds that
`ScoringPolicy` validates when it is built are fields of the structure, so that
a policy outside them does not exist here either.

`PyError` lists the exceptions the modelled functions can raise, and `pyDiv` is
the source's `/`, which raises on a zero divisor instead of returning a value.
-/

namespace DqScoring

open Framework

/-! ### Exceptions -/

/-- The division operator: a zero divisor raises. -/
def pyDivIn {α : Type} (ar : Arithmetic α) [Zero α] [DecidableEq α] (a b : α) :
    Except PyError α :=
  if b = 0 then .error .zeroDivisionError else .ok (ar.div a b)

/-- The division of two integers. -/
def pyRatioIn {α : Type} (ar : Arithmetic α) (m n : ℕ) : Except PyError α :=
  if n = 0 then .error .zeroDivisionError else .ok (ar.ratio m n)

/-- The division operator in exact arithmetic. -/
def pyDiv {α : Type} [Field α] [DecidableEq α] (a b : α) : Except PyError α :=
  pyDivIn (.exact α) a b

/-- A division by another number than zero succeeds. -/
theorem pyDiv_of_ne_zero {α : Type} [Field α] [DecidableEq α] {a b : α} (hb : b ≠ 0) :
    pyDiv a b = .ok (a / b) :=
  if_neg hb

/-- The source's idiom `x = None; if den > 0: x = num / den`. -/
def divIfPositiveIn {α : Type} (ar : Arithmetic α) [Zero α] [LinearOrder α] (num den : α) :
    Except PyError (Option α) :=
  if den > 0 then some <$> pyDivIn ar num den else .ok none

/-- The same in exact arithmetic. -/
def divIfPositive {α : Type} [Field α] [LinearOrder α] (num den : α) :
    Except PyError (Option α) :=
  divIfPositiveIn (.exact α) num den

/-! ### Enumerations -/

/-- 6-tier quality gate outcome. -/
inductive QualityGateStatus where
  | error | fail | insufficientEvidence | warn | pass
  deriving DecidableEq, Repr

/-- Scorecard publication status. -/
inductive PublicationStatus where
  | published | withheld
  deriving DecidableEq, Repr

/-- Technical measurement status of one rule. A result holds it as text, and every
function that makes a result writes one of these. -/
inductive MeasurementStatus where
  | measured | notApplicable | notMeasurable | failedToMeasure | insufficientData
  | skippedByBudget
  deriving DecidableEq, Repr

/-- The six standard data quality dimensions. -/
inductive StandardDimension where
  | accuracy | completeness | consistency | timeliness | validity | uniqueness
  deriving DecidableEq, Repr

/-- The name a dimension is written with wherever dimensions are strings. -/
def StandardDimension.value : StandardDimension → String
  | .accuracy => "ACCURACY"
  | .completeness => "COMPLETENESS"
  | .consistency => "CONSISTENCY"
  | .timeliness => "TIMELINESS"
  | .validity => "VALIDITY"
  | .uniqueness => "UNIQUENESS"

/-! ### Rule results -/

/-- Partitioning record counts of one evaluated rule. -/
structure RuleCounts where
  passed : ℕ := 0
  failed : ℕ := 0
  missing : ℕ := 0
  miscast : ℕ := 0
  notApplicable : ℕ := 0
  totalObserved : ℕ := 0
  deriving DecidableEq, Repr

/-- One evidence row: the cells of the columns a rule reads, masked. -/
abbrev EvidenceSample := List (String × Option String)

/-- Canonical representation of an individual rule evaluation result. The default
weight `1` is written out where the source relies on it. -/
structure QualityRuleResult (α : Type) where
  ruleId : String
  dimension : String
  measurementStatus : MeasurementStatus
  isCritical : Bool := false
  isAdvisory : Bool := false
  isRequired : Bool := false
  gateEnabled : Bool := true
  scoreEnabled : Bool := true
  conflictGroup : Option String := none
  isPrimaryScoringRule : Bool := true
  contributionWeight : α
  acceptanceThreshold : Option α := none
  confidence : Option α := none
  computedScore : Option α := none
  violationsCount : ℕ := 0
  counts : Option RuleCounts := none
  evidenceSamples : Option (List EvidenceSample) := none
  errorMessage : Option String := none
  sourceKind : String := "RULE"
  targetColumn : Option String := none
  ruleConfigHash : Option String := none
  deriving DecidableEq, Repr

/-! ### Policy -/

/-- Scoring and quality gate policy with its validated bounds. A dictionary of
weights is its lookup. -/
structure ScoringPolicy (α : Type) [Field α] [LinearOrder α] where
  publicationThreshold : α := 4 / 5
  warnMin : α := 60
  passMin : α := 80
  minCriticalConfidence : α := 4 / 5
  /-- Policy-wide score floor for critical rules without their own threshold;
  `none` is zero tolerance. -/
  criticalAcceptanceThreshold : Option α := none
  dimensionWeights : String → Option α := fun _ => none
  publicationThreshold_mem : publicationThreshold ∈ Set.Icc 0 1
  warnMin_mem : warnMin ∈ Set.Icc 0 100
  passMin_mem : passMin ∈ Set.Icc 0 100
  minCriticalConfidence_mem : minCriticalConfidence ∈ Set.Icc 0 1
  criticalAcceptanceThreshold_mem : ∀ t ∈ criticalAcceptanceThreshold, t ∈ Set.Icc (0 : α) 100
  warnMin_le_passMin : warnMin ≤ passMin

section Policy

variable {α : Type} [Field α] [LinearOrder α]

/-- Compatibility alias for the publication threshold. -/
def ScoringPolicy.coverageThreshold (policy : ScoringPolicy α) : α :=
  policy.publicationThreshold

/-- Lower bound for WARN; a score below it is a FAIL. -/
def ScoringPolicy.gateFailThreshold (policy : ScoringPolicy α) : α :=
  policy.warnMin

/-- Lower bound for PASS; a score below it is a WARN. -/
def ScoringPolicy.gateWarnThreshold (policy : ScoringPolicy α) : α :=
  policy.passMin

section Defaults

variable [IsStrictOrderedRing α]

theorem four_fifths_mem : (4 / 5 : α) ∈ Set.Icc (0 : α) 1 := by norm_num

theorem sixty_mem : (60 : α) ∈ Set.Icc (0 : α) 100 := by norm_num

theorem eighty_mem : (80 : α) ∈ Set.Icc (0 : α) 100 := by norm_num

theorem sixty_le_eighty : (60 : α) ≤ 80 := by norm_num

omit [IsStrictOrderedRing α] in
theorem none_mem_Icc : ∀ t ∈ (none : Option α), t ∈ Set.Icc (0 : α) 100 := by
  intro t ht
  cases ht

/-- The policy of the defaults alone: each default passes its own check. -/
def ScoringPolicy.ofDefaults : ScoringPolicy α where
  publicationThreshold_mem := four_fifths_mem
  warnMin_mem := sixty_mem
  passMin_mem := eighty_mem
  minCriticalConfidence_mem := four_fifths_mem
  criticalAcceptanceThreshold_mem := none_mem_Icc
  warnMin_le_passMin := sixty_le_eighty

end Defaults

/-- Input of the quality gate. -/
structure GateEvaluationInput (α : Type) [Field α] [LinearOrder α] where
  ruleResults : List (QualityRuleResult α)
  dqScore : Option α
  coverageRatio : Option α := none
  policy : ScoringPolicy α
  requiredDimensions : Finset String := ∅

/-- Input of the publication decision. -/
structure PublicationCheckInput (α : Type) [Field α] [LinearOrder α] where
  runStatus : String
  gateStatus : QualityGateStatus
  dqScore : Option α
  coverageRatio : Option α := none
  policy : ScoringPolicy α
  allRequiredDimensionsMeasured : Bool := true
  hasFailedRequiredRules : Bool := false
  hasUnmeasuredRequiredRules : Bool := false

end Policy

/-! ### Aggregates -/

/-- Aggregated score and coverage of one dimension. -/
structure DimensionResult (α : Type) where
  dimension : String
  dimensionScore : Option α := none
  coverageRatio : Option α := none
  ruleResults : List (QualityRuleResult α) := []
  dimensionWeight : α
  deriving DecidableEq, Repr

/-- Aggregated score, coverage and dimension outcomes of a snapshot. -/
structure DatasetScoreResult (α : Type) where
  dqScore : Option α := none
  coverageRatio : Option α := none
  dimensionResults : List (DimensionResult α) := []

end DqScoring
