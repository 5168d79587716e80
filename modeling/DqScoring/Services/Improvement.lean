import DqScoring.Framework.Binary64
import DqScoring.Services.SameEvidence

/-!
# Improved results

A measured result improves when its score does not decrease and its violations do not
increase. `gateTier` is the tier at which the gate stops, which tells a critical failure
from a failing score. `gateTier_le_of_improves` is the monotonicity of the gate: with one
result improved and the scorecard computed again, the gate stops at the same tier or at a
later one. This is about exact sums: the sum of floats is not monotone, and
`gateTier_lt_in_floats` has a score whose improvement takes the PASS away.

The improvement acts through the critical check, which looks at the result itself, and
through the two weighted means of the dataset score. The coverage and every other check
read fields that an improvement leaves alone.
-/

namespace DqScoring

open Framework

variable {α : Type} [Field α] [LinearOrder α]

/-! ### Tiers -/

/-- The tier at which the gate stops. -/
inductive GateTier where
  | error | criticalFail | insufficientEvidence | scoreFail | warn | pass
  deriving DecidableEq, Repr

/-- The position of a tier in the precedence of the gate. -/
def GateTier.rank : GateTier → ℕ
  | error => 0
  | criticalFail => 1
  | insufficientEvidence => 2
  | scoreFail => 3
  | warn => 4
  | pass => 5

/-- The status that the gate returns at a tier. -/
def GateTier.status : GateTier → QualityGateStatus
  | error => .error
  | criticalFail => .fail
  | insufficientEvidence => .insufficientEvidence
  | scoreFail => .fail
  | warn => .warn
  | pass => .pass

/-- The tier of a score once the evidence supports it. -/
def scoreGateTier (dqScore : α) (policy : ScoringPolicy α) : GateTier :=
  if dqScore < policy.gateFailThreshold then .scoreFail
  else if dqScore < policy.gateWarnThreshold then .warn
  else .pass

/-- The return statement of `evaluate_quality_gate` that is reached. -/
def gateTier (inp : GateEvaluationInput α) : GateTier :=
  if hasRequiredTechnicalFailure inp.ruleResults then .error
  else if inp.ruleResults.any (isCriticalViolated · inp.policy) then .criticalFail
  else if isEvidenceInsufficient inp then .insufficientEvidence
  else scoreGateTier (inp.dqScore.getD 0) inp.policy

/-- The gate returns the status of its tier. -/
theorem evaluateQualityGate_eq_status (inp : GateEvaluationInput α) :
    evaluateQualityGate inp = .ok (gateTier inp).status := by
  rw [evaluateQualityGate_eq, qualityGateStatus, gateTier, scoreTier, scoreGateTier]
  congr 1
  repeat' split
  all_goals rfl

/-- The gate decides on technical failures, critical violations and evidence before it looks
at the score. -/
theorem gateTier_gateInputOf (rs : List (QualityRuleResult α)) (policy : ScoringPolicy α)
    (reqDims : Finset String) : gateTier (gateInputOf rs policy reqDims) =
      if hasRequiredTechnicalFailure rs then .error
      else if rs.any (isCriticalViolated · policy) then .criticalFail
      else if isEvidenceInsufficient (gateInputOf rs policy reqDims) then .insufficientEvidence
      else scoreGateTier ((datasetScoreOf policy.dimensionWeights rs reqDims).getD 0) policy :=
  rfl

/-- A score that does not decrease stays in its tier or moves to a later one. -/
theorem scoreGateTier_mono {x y : α} (h : x ≤ y) (policy : ScoringPolicy α) :
    (scoreGateTier x policy).rank ≤ (scoreGateTier y policy).rank := by
  have h_order : policy.gateFailThreshold ≤ policy.gateWarnThreshold := policy.warnMin_le_passMin
  unfold scoreGateTier
  by_cases h_fail : x < policy.gateFailThreshold
  · rw [if_pos h_fail]
    repeat' split
    all_goals decide
  · have h_fail' : ¬ y < policy.gateFailThreshold := fun hy => h_fail (h.trans_lt hy)
    rw [if_neg h_fail, if_neg h_fail']
    by_cases h_warn : x < policy.gateWarnThreshold
    · rw [if_pos h_warn]
      split <;> decide
    · have h_warn' : ¬ y < policy.gateWarnThreshold := fun hy => h_warn (h.trans_lt hy)
      rw [if_neg h_warn, if_neg h_warn']

/-! ### Improvements -/

/-- A measured result with a score that does not decrease and violations that do not
increase; everything else is the same. -/
structure Improves (r r' : QualityRuleResult α) : Prop where
  measured : r.measurementStatus = .measured
  score_le : ∃ s s', r.computedScore = some s ∧ r'.computedScore = some s' ∧ s ≤ s'
  violations_le : r'.violationsCount ≤ r.violationsCount
  same : r' = { r with
    computedScore := r'.computedScore
    violationsCount := r'.violationsCount }

/-- The results of two evaluations, each the same or improved. -/
def ImprovesAll (rs rs' : List (QualityRuleResult α)) : Prop :=
  List.Forall₂ (fun r r' => r = r' ∨ Improves r r') rs rs'

omit [Field α] in
/-- Improving one result improves the list. -/
theorem ImprovesAll.of_one {r r' : QualityRuleResult α} (h : Improves r r')
    (before after : List (QualityRuleResult α)) :
    ImprovesAll (before ++ r :: after) (before ++ r' :: after) := by
  have h_same : ∀ l : List (QualityRuleResult α), ImprovesAll l l :=
    fun l => List.forall₂_same.mpr fun _ _ => Or.inl rfl
  exact List.rel_append (h_same before) (List.Forall₂.cons (Or.inr h) (h_same after))

/-- What an improvement leaves alone: the fields read outside the critical check and the
score. -/
structure SameClass (r r' : QualityRuleResult α) : Prop where
  dimension_eq : r'.dimension = r.dimension
  required_eq : r'.isRequired = r.isRequired
  status_eq : r'.measurementStatus = r.measurementStatus
  weight_eq : r'.contributionWeight = r.contributionWeight
  measured_eq : isDimensionMeasuredRule r' = isDimensionMeasuredRule r
  expected_eq : isDimensionExpectedRule r' = isDimensionExpectedRule r
  gateMeasured_eq : isGateMeasuredRule r' = isGateMeasuredRule r

/-- An improvement changes the score of a result, not what kind of result it is. -/
theorem sameClass_of_improves {r r' : QualityRuleResult α} (h : r = r' ∨ Improves r r') :
    SameClass r r' := by
  rcases h with rfl | h
  · exact ⟨rfl, rfl, rfl, rfl, rfl, rfl, rfl⟩
  · obtain ⟨s, s', h_s, h_s', -⟩ := h.score_le
    have h_same := h.same
    rw [h_s'] at h_same
    -- the classes look at the presence of the score, which is the same
    rw [h_same]
    refine ⟨rfl, rfl, rfl, rfl, ?_, rfl, ?_⟩
    · simp [isDimensionMeasuredRule, h_s]
    · simp [isGateMeasuredRule, h_s]

omit [Field α] in
/-- An improvement does not lower the score of a result. -/
theorem score_le_of_improves {r r' : QualityRuleResult α} (h : r = r' ∨ Improves r r') :
    Option.Rel (· ≤ ·) r.computedScore r'.computedScore := by
  rcases h with rfl | h
  · cases r.computedScore with
    | none => exact Option.Rel.none
    | some s => exact Option.Rel.some (le_refl s)
  · obtain ⟨s, s', h_s, h_s', h_le⟩ := h.score_le
    rw [h_s, h_s']
    exact Option.Rel.some h_le

/-- A result that is violated after an improvement was violated before it. -/
theorem isCriticalViolated_of_improves {r r' : QualityRuleResult α} {policy : ScoringPolicy α}
    (h : r = r' ∨ Improves r r') (h_violated : isCriticalViolated r' policy = true) :
    isCriticalViolated r policy = true := by
  rcases h with rfl | h
  · exact h_violated
  obtain ⟨s, s', h_s, h_s', h_le⟩ := h.score_le
  have h_violations := h.violations_le
  have h_same := h.same
  generalize r'.violationsCount = violations at h_same h_violations
  rw [h_s'] at h_same
  rw [h_same] at h_violated
  unfold isCriticalViolated at h_violated ⊢
  split at h_violated
  · cases h_violated
  next h_gated =>
    rw [if_neg h_gated]
    split at h_violated
    · cases h_violated
    next h_measured =>
      rw [if_neg h_measured]
      split at h_violated
      · cases h_violated
      next h_confidence =>
        rw [if_neg h_confidence]
        -- the rule's own threshold comes first in both
        cases h_threshold : r.acceptanceThreshold.or policy.criticalAcceptanceThreshold with
        | some threshold =>
          rw [h_threshold] at h_violated
          rw [h_s]
          exact decide_eq_true (h_le.trans_lt (of_decide_eq_true h_violated))
        | none =>
          rw [h_threshold] at h_violated
          exact decide_eq_true ((of_decide_eq_true h_violated).trans_le h_violations)

/-! ### The checks that an improvement leaves alone -/

namespace ImprovesAll

variable {rs rs' : List (QualityRuleResult α)}

/-- A test of the kind of the results has the same outcome before and after. -/
theorem any_eq (h : ImprovesAll rs rs') {p : QualityRuleResult α → Bool}
    (hp : ∀ r r', SameClass r r' → p r' = p r) : rs'.any p = rs.any p := by
  induction h with
  | nil => rfl
  | cons h_head _ ih =>
    rw [List.any_cons, List.any_cons, hp _ _ (sameClass_of_improves h_head), ih]

/-- A class that an improvement leaves alone selects improvements of what it selected. -/
theorem filter (h : ImprovesAll rs rs') {p : QualityRuleResult α → Bool}
    (hp : ∀ r r', SameClass r r' → p r' = p r) : ImprovesAll (rs.filter p) (rs'.filter p) := by
  induction h with
  | nil => exact List.Forall₂.nil
  | cons h_head _ ih =>
    rw [List.filter_cons, List.filter_cons, hp _ _ (sameClass_of_improves h_head)]
    split
    · exact List.Forall₂.cons h_head ih
    · exact ih

/-- An improvement causes no technical failure and repairs none. -/
theorem failure_eq (h : ImprovesAll rs rs') :
    hasRequiredTechnicalFailure rs' = hasRequiredTechnicalFailure rs :=
  h.any_eq fun r r' hr => by rw [hr.required_eq, hr.status_eq]

/-- An improvement measures no rule that was not measured. -/
theorem unmeasured_eq (h : ImprovesAll rs rs') :
    hasUnmeasuredRequired rs' = hasUnmeasuredRequired rs :=
  h.any_eq fun r r' hr => by rw [hr.required_eq, hr.status_eq]

/-- No critical violation appears. -/
theorem critical_of (h : ImprovesAll rs rs') {policy : ScoringPolicy α}
    (h_critical : rs'.any (isCriticalViolated · policy) = true) :
    rs.any (isCriticalViolated · policy) = true := by
  rw [List.any_eq_true] at h_critical ⊢
  obtain ⟨r', h_mem, h_violated⟩ := h_critical
  obtain ⟨r, h_r, h_improves⟩ := exists_left_of_mem h h_mem
  exact ⟨r, h_r, isCriticalViolated_of_improves h_improves h_violated⟩

/-- What depends on the kind of the results only is the same before and after. -/
theorem map_eq {β : Type} (h : ImprovesAll rs rs') {f : QualityRuleResult α → β}
    (hf : ∀ r r', SameClass r r' → f r' = f r) : rs'.map f = rs.map f := by
  induction h with
  | nil => rfl
  | cons h_head _ ih => rw [List.map_cons, List.map_cons, ih, hf _ _ (sameClass_of_improves h_head)]

/-- The measured dimensions are the same before and after. -/
theorem measuredDimensions_eq (h : ImprovesAll rs rs') :
    extractMeasuredDimensions rs' = extractMeasuredDimensions rs := by
  unfold extractMeasuredDimensions
  have h_measured := h.filter fun r r' hr => hr.gateMeasured_eq
  rw [h_measured.map_eq fun r r' hr => hr.dimension_eq]

/-- The dimensions are the same before and after. -/
theorem distinctDims_eq (h : ImprovesAll rs rs') (reqDims : Finset String) :
    distinctDims rs' reqDims = distinctDims rs reqDims := by
  rw [distinctDims, h.map_eq fun r r' hr => hr.dimension_eq, distinctDims]

/-- Each dimension's rules improve with the list. -/
theorem rulesOf (h : ImprovesAll rs rs') (dim : String) :
    ImprovesAll (rulesOf rs dim) (DqScoring.rulesOf rs' dim) := by
  refine h.filter fun r r' hr => ?_
  rw [hr.dimension_eq]

/-! ### Scores and coverage -/

/-- The coverage of a dimension is the same before and after. -/
theorem coverageOf_eq (h : ImprovesAll rs rs') (dim : String) :
    coverageOf rs' dim = coverageOf rs dim := by
  have h_expected := (h.rulesOf dim).filter fun r r' hr => hr.expected_eq
  unfold coverageOf dimensionCoverage expectedShares
  rw [h_expected.map_eq fun r r' hr => by rw [hr.weight_eq, hr.measured_eq]]

variable [IsStrictOrderedRing α]

/-- The score of a dimension does not decrease. -/
theorem scoreOf_le (h : ImprovesAll rs rs') (dim : String) :
    Option.Rel (· ≤ ·) (scoreOf rs dim) (scoreOf rs' dim) := by
  refine weightedMean_mono ?_ fun p hp => (measuredScores_pos p hp).le
  have h_measured := (h.rulesOf dim).filter fun r r' hr => hr.measured_eq
  unfold Dominates measuredScores
  rw [List.forall₂_map_left_iff, List.forall₂_map_right_iff]
  refine h_measured.imp fun r r' hr => ⟨(sameClass_of_improves hr).weight_eq.symm, ?_⟩
  exact getD_le_of_rel (score_le_of_improves hr) 0

/-- The dataset score does not decrease, and it is present as before. -/
theorem datasetScoreOf_le (h : ImprovesAll rs rs') (weights : String → Option α)
    (reqDims : Finset String) : Option.Rel (· ≤ ·) (datasetScoreOf weights rs reqDims)
      (datasetScoreOf weights rs' reqDims) := by
  rw [datasetScoreOf, datasetScoreOf, weightedScores_eq, weightedScores_eq,
    h.distinctDims_eq reqDims]
  exact weightedMean_presentValues_mono fun dim _ => h.scoreOf_le dim

omit [IsStrictOrderedRing α] in
/-- The coverage of the dataset is the same before and after. -/
theorem datasetCoverageOf_eq (h : ImprovesAll rs rs') (weights : String → Option α)
    (reqDims : Finset String) :
    datasetCoverageOf weights rs' reqDims = datasetCoverageOf weights rs reqDims := by
  rw [datasetCoverageOf, datasetCoverageOf, weightedCoverages_eq, weightedCoverages_eq,
    h.distinctDims_eq reqDims, funext h.coverageOf_eq]

/-- The evidence is sufficient as before. -/
theorem insufficient_eq (h : ImprovesAll rs rs') (policy : ScoringPolicy α)
    (reqDims : Finset String) : isEvidenceInsufficient (gateInputOf rs' policy reqDims) =
      isEvidenceInsufficient (gateInputOf rs policy reqDims) := by
  have h_present : (datasetScoreOf policy.dimensionWeights rs' reqDims).isNone =
      (datasetScoreOf policy.dimensionWeights rs reqDims).isNone := by
    rw [← Option.not_isSome, ← Option.not_isSome,
      isSome_eq_of_rel (h.datasetScoreOf_le policy.dimensionWeights reqDims)]
  unfold isEvidenceInsufficient gateInputOf
  rw [h.datasetCoverageOf_eq, h_present, h.unmeasured_eq, h.measuredDimensions_eq]

/-- The gate stops at the same tier or at a later one. -/
theorem gateTier_le (h : ImprovesAll rs rs') (policy : ScoringPolicy α)
    (reqDims : Finset String) : (gateTier (gateInputOf rs policy reqDims)).rank ≤
      (gateTier (gateInputOf rs' policy reqDims)).rank := by
  rw [gateTier_gateInputOf, gateTier_gateInputOf, h.insufficient_eq, h.failure_eq]
  by_cases h_failure : hasRequiredTechnicalFailure rs = true
  · rw [if_pos h_failure, if_pos h_failure]
  rw [if_neg h_failure, if_neg h_failure]
  by_cases h_critical : rs.any (isCriticalViolated · policy) = true
  · -- whatever follows the critical check is later
    rw [if_pos h_critical]
    unfold scoreGateTier
    repeat' split
    all_goals decide
  have h_critical' : ¬ rs'.any (isCriticalViolated · policy) = true :=
    fun h' => h_critical (h.critical_of h')
  rw [if_neg h_critical, if_neg h_critical']
  split
  · exact le_refl _
  · refine scoreGateTier_mono ?_ policy
    exact getD_le_of_rel (h.datasetScoreOf_le policy.dimensionWeights reqDims) 0

end ImprovesAll

/-- **Monotonicity of the gate.** With one measured result improved, the aggregator's gate,
on the score and coverage computed again, stops at the same tier or at a later one. -/
theorem gateTier_le_of_improves [IsStrictOrderedRing α] (upper : String → String)
    (policy : ScoringPolicy α) (requiredDims : Option (Finset String)) (runStatus : String)
    (before after : List (QualityRuleResult α)) {r r' : QualityRuleResult α}
    (h_improves : Improves r r') :
    ∃ s s' : ScoreSummaryDTO α, ∃ tier tier' : GateTier,
      aggregate upper (before ++ r :: after) policy requiredDims runStatus = .ok s ∧
      aggregate upper (before ++ r' :: after) policy requiredDims runStatus = .ok s' ∧
      tier = gateTier ⟨before ++ r :: after, s.dqScore, s.coverageRatio, policy,
        requiredDims.getD ∅⟩ ∧
      tier' = gateTier ⟨before ++ r' :: after, s'.dqScore, s'.coverageRatio, policy,
        requiredDims.getD ∅⟩ ∧
      s.qualityGate = tier.status ∧ s'.qualityGate = tier'.status ∧
      tier.rank ≤ tier'.rank := by
  have h_status : ∀ rs, qualityGateStatus (gateInputOf rs policy (requiredDims.getD ∅)) =
      (gateTier (gateInputOf rs policy (requiredDims.getD ∅))).status := by
    intro rs
    have h_eq := evaluateQualityGate_eq_status (gateInputOf rs policy (requiredDims.getD ∅))
    rw [evaluateQualityGate_eq] at h_eq
    exact Except.ok.inj h_eq
  refine ⟨_, _, _, _, aggregate_eq _ _ _ _ _, aggregate_eq _ _ _ _ _, rfl, rfl, h_status _,
    h_status _, ?_⟩
  exact (ImprovesAll.of_one h_improves before after).gateTier_le policy _

/-- A critical result below the policy's floor, before and after its repair. -/
def repairedResult (score : ℚ) (violations : ℕ) : QualityRuleResult ℚ :=
  { ruleId := "r1", dimension := "VALIDITY", measurementStatus := .measured
    isCritical := true, contributionWeight := 1, computedScore := some score
    violationsCount := violations }

theorem gateTier_le_of_repaired :
    ∃ s s' : ScoreSummaryDTO ℚ, ∃ tier tier' : GateTier,
      aggregate id ([] ++ repairedResult 50 3 :: []) ScoringPolicy.ofDefaults none = .ok s ∧
      aggregate id ([] ++ repairedResult 100 0 :: []) ScoringPolicy.ofDefaults none = .ok s' ∧
      tier = gateTier ⟨[] ++ repairedResult 50 3 :: [], s.dqScore, s.coverageRatio,
        ScoringPolicy.ofDefaults, ∅⟩ ∧
      tier' = gateTier ⟨[] ++ repairedResult 100 0 :: [], s'.dqScore, s'.coverageRatio,
        ScoringPolicy.ofDefaults, ∅⟩ ∧
      s.qualityGate = tier.status ∧ s'.qualityGate = tier'.status ∧
      tier.rank ≤ tier'.rank := by
  have h_improves : Improves (repairedResult 50 3) (repairedResult 100 0) :=
    ⟨rfl, ⟨50, 100, rfl, rfl, by norm_num⟩, by decide, rfl⟩
  exact gateTier_le_of_improves id ScoringPolicy.ofDefaults none "SUCCEEDED" [] [] h_improves

/-! ### Floats -/

/-- A measured result of a validity rule. -/
def validityResult (ruleId : String) (score : ℚ) : QualityRuleResult ℚ :=
  { ruleId, dimension := "VALIDITY", measurementStatus := .measured, contributionWeight := 1
    computedScore := some score }

/-- Four results beside the one that improves. -/
def otherResults : List (QualityRuleResult ℚ) :=
  [validityResult "r2" 64, validityResult "r3" (5 / 2 ^ 47), validityResult "r4" (7 / 2 ^ 47),
    validityResult "r5" (1 / 2 ^ 99)]

/-- The result that improves. -/
def smallResult : QualityRuleResult ℚ := validityResult "r1" (1 / 2 ^ 47)

/-- With the next float for a score. -/
def raisedResult : QualityRuleResult ℚ := validityResult "r1" (1 / 2 ^ 47 + 1 / 2 ^ 99)

/-- The dataset score before the improvement, which is between 12 and 13. -/
def reachedScore : ℚ := 7205759403792805 / 2 ^ 49

theorem ten_mem_Icc : (10 : ℚ) ∈ Set.Icc (0 : ℚ) 100 := by norm_num

theorem reachedScore_mem_Icc : reachedScore ∈ Set.Icc (0 : ℚ) 100 := by
  norm_num [reachedScore]

theorem ten_le_reachedScore : 10 ≤ reachedScore := by norm_num [reachedScore]

/-- A policy whose bound for PASS is the dataset score before the improvement. -/
def reachedPolicy : ScoringPolicy ℚ :=
  { ScoringPolicy.ofDefaults with
    warnMin := 10
    passMin := reachedScore
    warnMin_mem := ten_mem_Icc
    passMin_mem := reachedScore_mem_Icc
    warnMin_le_passMin := ten_le_reachedScore }

/-- With floats the sum of the scores decreases when one of them is raised: the gate stops at
WARN where it has passed. -/
theorem gateTier_lt_in_floats :
    Improves smallResult raisedResult ∧ ∃ s s' : ScoreSummaryDTO ℚ,
      aggregateIn .binary64 id ([] ++ smallResult :: otherResults) reachedPolicy none = .ok s ∧
      aggregateIn .binary64 id ([] ++ raisedResult :: otherResults) reachedPolicy none = .ok s' ∧
      gateTier ⟨[] ++ smallResult :: otherResults, s.dqScore, s.coverageRatio, reachedPolicy, ∅⟩ =
        .pass ∧
      gateTier ⟨[] ++ raisedResult :: otherResults, s'.dqScore, s'.coverageRatio, reachedPolicy,
        ∅⟩ = .warn := by
  refine ⟨⟨rfl, ⟨_, _, rfl, rfl, by norm_num⟩, le_refl _, rfl⟩, ?_⟩
  have h_before : (aggregateIn .binary64 id ([] ++ smallResult :: otherResults) reachedPolicy
      none).map (fun s => gateTier ⟨[] ++ smallResult :: otherResults, s.dqScore,
        s.coverageRatio, reachedPolicy, ∅⟩) = .ok .pass := by
    decide +kernel
  have h_after : (aggregateIn .binary64 id ([] ++ raisedResult :: otherResults) reachedPolicy
      none).map (fun s => gateTier ⟨[] ++ raisedResult :: otherResults, s.dqScore,
        s.coverageRatio, reachedPolicy, ∅⟩) = .ok .warn := by
    decide +kernel
  obtain ⟨s, h_s, h_pass⟩ := map_eq_ok_iff.mp h_before
  obtain ⟨s', h_s', h_warn⟩ := map_eq_ok_iff.mp h_after
  exact ⟨s, s', h_s, h_s', h_pass, h_warn⟩

end DqScoring
