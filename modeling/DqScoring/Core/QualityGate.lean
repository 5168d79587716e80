import DqScoring.Core.Models

/-!
# Quality gate and publication

The 6-tier gate of `core/quality_gate.py` and the publication check of
`core/publication.py`. The gate compares the dataset score with two thresholds
only after the evidence check; a missing score would raise there, and
`evaluateQualityGate_eq` shows that it never gets there. `qualityGateStatus` is the
gate without that branch, and the name under which the rest of the development
refers to it.
-/

namespace DqScoring

variable {α : Type} [Field α] [LinearOrder α]

/-! ### The gate -/

/-- Some required rule experienced a technical execution failure. -/
def hasRequiredTechnicalFailure (rules : List (QualityRuleResult α)) : Bool :=
  rules.any fun r => r.isRequired && r.measurementStatus == .failedToMeasure

/-- Critical rule violation. The rule's own threshold wins, then the policy-wide
one; with neither, any violation counts. -/
def isCriticalViolated (rule : QualityRuleResult α) (policy : ScoringPolicy α) : Bool :=
  if !rule.isCritical || !rule.gateEnabled || rule.isAdvisory then false
  else if rule.measurementStatus != .measured then false
  else if rule.confidence.any (· < policy.minCriticalConfidence) then false
  else
    match rule.acceptanceThreshold.or policy.criticalAcceptanceThreshold with
    | some threshold => rule.computedScore.any (· < threshold)
    -- zero tolerance
    | none => decide (rule.violationsCount > 0)

/-- The statuses of a rule that could not be measured. -/
def isUnmeasuredStatus (status : MeasurementStatus) : Bool :=
  status == .notMeasurable || status == .insufficientData || status == .skippedByBudget

/-- Some required rule could not be measured. -/
def hasUnmeasuredRequired (rules : List (QualityRuleResult α)) : Bool :=
  rules.any fun r => r.isRequired && isUnmeasuredStatus r.measurementStatus

/-- The gate's own reading of a measured rule: unlike `R_d^m` it does not look at
the contribution weight. -/
def isGateMeasuredRule (r : QualityRuleResult α) : Bool :=
  r.measurementStatus == .measured
    && r.scoreEnabled
    && !r.isAdvisory
    && r.isPrimaryScoringRule
    && r.computedScore.isSome

/-- The dimensions the gate takes to be measured. -/
def extractMeasuredDimensions (rules : List (QualityRuleResult α)) : Finset String :=
  ((rules.filter isGateMeasuredRule).map (·.dimension)).toFinset

/-- The source's `x is None or x < threshold`. -/
def isAbsentOrBelow (x : Option α) (threshold : α) : Bool :=
  x.all (· < threshold)

/-- The evidence does not support asserting a score. -/
def isEvidenceInsufficient (inp : GateEvaluationInput α) : Bool :=
  isAbsentOrBelow inp.coverageRatio inp.policy.coverageThreshold
    || inp.dqScore.isNone
    || hasUnmeasuredRequired inp.ruleResults
    || decide (inp.requiredDimensions \ extractMeasuredDimensions inp.ruleResults ≠ ∅)

/-- The 6-tier gate, with its precedence. -/
def evaluateQualityGate (inp : GateEvaluationInput α) : Except PyError QualityGateStatus :=
  -- precedence: ERROR, critical FAIL, INSUFFICIENT_EVIDENCE, FAIL, WARN, PASS
  if hasRequiredTechnicalFailure inp.ruleResults then .ok .error
  else if inp.ruleResults.any (isCriticalViolated · inp.policy) then .ok .fail
  else if isEvidenceInsufficient inp then .ok .insufficientEvidence
  else
    match inp.dqScore with
    | none => .error (.typeError "'<' not supported between 'NoneType' and 'float'")
    | some dqScore =>
      if dqScore < inp.policy.gateFailThreshold then .ok .fail
      else if dqScore < inp.policy.gateWarnThreshold then .ok .warn
      else .ok .pass

/-- The tier of a score once the evidence supports it. -/
def scoreTier (dqScore : α) (policy : ScoringPolicy α) : QualityGateStatus :=
  if dqScore < policy.gateFailThreshold then .fail
  else if dqScore < policy.gateWarnThreshold then .warn
  else .pass

/-- The status the gate returns. -/
def qualityGateStatus (inp : GateEvaluationInput α) : QualityGateStatus :=
  if hasRequiredTechnicalFailure inp.ruleResults then .error
  else if inp.ruleResults.any (isCriticalViolated · inp.policy) then .fail
  else if isEvidenceInsufficient inp then .insufficientEvidence
  else scoreTier (inp.dqScore.getD 0) inp.policy

/-- The gate never compares an absent score. -/
theorem evaluateQualityGate_eq (inp : GateEvaluationInput α) :
    evaluateQualityGate inp = .ok (qualityGateStatus inp) := by
  unfold evaluateQualityGate qualityGateStatus
  by_cases h_failure : hasRequiredTechnicalFailure inp.ruleResults = true
  · rw [if_pos h_failure, if_pos h_failure]
  by_cases h_critical : inp.ruleResults.any (isCriticalViolated · inp.policy) = true
  · rw [if_neg h_failure, if_neg h_failure, if_pos h_critical, if_pos h_critical]
  by_cases h_evidence : isEvidenceInsufficient inp = true
  · rw [if_neg h_failure, if_neg h_failure, if_neg h_critical, if_neg h_critical,
      if_pos h_evidence, if_pos h_evidence]
  rw [if_neg h_failure, if_neg h_failure, if_neg h_critical, if_neg h_critical,
    if_neg h_evidence, if_neg h_evidence]
  cases h_score : inp.dqScore with
  | none =>
    -- an absent score is insufficient evidence, which the branch above has returned
    refine absurd ?_ h_evidence
    simp [isEvidenceInsufficient, h_score]
  | some dqScore =>
    simp only [scoreTier, Option.getD_some]
    split <;> [rfl; split <;> rfl]

omit [Field α] [LinearOrder α] in
theorem mem_extractMeasuredDimensions {rules : List (QualityRuleResult α)} {dim : String} :
    dim ∈ extractMeasuredDimensions rules ↔
      ∃ r ∈ rules, isGateMeasuredRule r = true ∧ r.dimension = dim := by
  simp only [extractMeasuredDimensions, List.mem_toFinset, List.mem_map, List.mem_filter,
    and_assoc]

/-- The four facts that sufficient evidence stands for. -/
theorem evidence_of_not_insufficient {inp : GateEvaluationInput α}
    (h : isEvidenceInsufficient inp = false) :
    isAbsentOrBelow inp.coverageRatio inp.policy.coverageThreshold = false ∧
      inp.dqScore.isSome = true ∧
      hasUnmeasuredRequired inp.ruleResults = false ∧
      inp.requiredDimensions ⊆ extractMeasuredDimensions inp.ruleResults := by
  unfold isEvidenceInsufficient at h
  rw [Bool.or_eq_false_iff, Bool.or_eq_false_iff, Bool.or_eq_false_iff] at h
  obtain ⟨⟨⟨h_coverage, h_score⟩, h_unmeasured⟩, h_required⟩ := h
  refine ⟨h_coverage, ?_, h_unmeasured, ?_⟩
  · rw [← Option.not_isNone, h_score]
    rfl
  · exact Finset.sdiff_eq_empty_iff_subset.mp (not_not.mp (of_decide_eq_false h_required))

/-! ### Publication -/

/-- All eligibility conditions for publishing a scorecard. -/
def isPublicationEligible (inp : PublicationCheckInput α) : Bool :=
  if inp.runStatus != "SUCCEEDED" then false
  else if inp.gateStatus == .error || inp.gateStatus == .insufficientEvidence then false
  else if isAbsentOrBelow inp.coverageRatio inp.policy.publicationThreshold then false
  else if !inp.allRequiredDimensionsMeasured then false
  else if inp.hasFailedRequiredRules || inp.hasUnmeasuredRequiredRules then false
  else inp.dqScore.isSome

/-- A successful run is eligible under the conditions the checks leave. -/
theorem isPublicationEligible_of {inp : PublicationCheckInput α}
    (h_run : inp.runStatus = "SUCCEEDED") (h_error : inp.gateStatus ≠ .error)
    (h_evidence : inp.gateStatus ≠ .insufficientEvidence)
    (h_coverage : isAbsentOrBelow inp.coverageRatio inp.policy.publicationThreshold = false)
    (h_required : inp.allRequiredDimensionsMeasured = true)
    (h_failed : inp.hasFailedRequiredRules = false)
    (h_unmeasured : inp.hasUnmeasuredRequiredRules = false) (h_score : inp.dqScore.isSome = true) :
    isPublicationEligible inp = true := by
  simp [isPublicationEligible, h_run, h_error, h_evidence, h_coverage, h_required, h_failed,
    h_unmeasured, h_score]

/-- The publication status and the effective published score. -/
def determinePublicationStatus (inp : PublicationCheckInput α) : PublicationStatus × Option α :=
  if isPublicationEligible inp then (.published, inp.dqScore) else (.withheld, none)

/-- A published score is present, and it is the score. -/
theorem determinePublicationStatus_published {inp : PublicationCheckInput α}
    (h : (determinePublicationStatus inp).1 = .published) :
    (determinePublicationStatus inp).2 = inp.dqScore ∧ inp.dqScore.isSome := by
  unfold determinePublicationStatus at h ⊢
  split at h
  case isFalse => cases h
  case isTrue h_eligible =>
    rw [if_pos h_eligible]
    refine ⟨rfl, ?_⟩
    unfold isPublicationEligible at h_eligible
    repeat' split at h_eligible
    all_goals first | exact h_eligible | cases h_eligible

/-- A withheld scorecard carries no published score. -/
theorem determinePublicationStatus_withheld {inp : PublicationCheckInput α}
    (h : (determinePublicationStatus inp).1 = .withheld) :
    (determinePublicationStatus inp).2 = none := by
  unfold determinePublicationStatus at h ⊢
  split at h
  · cases h
  · next h_eligible => rw [if_neg h_eligible]

end DqScoring
