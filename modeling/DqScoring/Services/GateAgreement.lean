import DqScoring.Services.SameEvidence

/-!
# Agreement of the gate and the publication check

The gate and the publication check both ask whether the required dimensions were
measured, and each derives the answer itself: the gate from the rule results
(`extractMeasuredDimensions`, which does not look at the contribution weight), the
publication check from the dimension scores (`scoredDims`, which do). The two
readings coincide on a required dimension unless its only measured rules have no
positive weight.

`outcomeConsistent_iff` states when the outcome of the aggregator is consistent, and
`outcomeInconsistent_zeroWeight` gives a list of results on which it is not: the gate
passes and the scorecard is withheld.
-/

namespace DqScoring

open Framework

variable {α : Type} [Field α] [LinearOrder α]

/-- The gate's verdict, the publication status and the published score tell one
story, and the two readings of the required dimensions agree. -/
structure OutcomeConsistent (rs : List (QualityRuleResult α)) (s : ScoreSummaryDTO α) :
    Prop where
  published_of_passed : s.qualityGate = .pass ∨ s.qualityGate = .warn →
    s.publicationStatus = .published
  withheld_of_unsupported : s.qualityGate = .error ∨ s.qualityGate = .insufficientEvidence →
    s.publicationStatus = .withheld
  publishedScore_isSome_iff : s.publishedScore.isSome ↔ s.publicationStatus = .published
  publishedScore_eq : s.publicationStatus = .published → s.publishedScore = s.dqScore
  measured_agree : ∀ dim ∈ requiredDimensions rs,
    dim ∈ extractMeasuredDimensions rs ↔
      ∃ d ∈ s.dimensionResults, d.dimension = dim ∧ d.dimensionScore.isSome

/-- No required dimension rests on measured rules without weight. -/
def MeasuredRulesWeighted (rs : List (QualityRuleResult α)) : Prop :=
  ∀ dim ∈ requiredDimensions rs,
    (∃ r ∈ rs, isGateMeasuredRule r = true ∧ r.dimension = dim) →
      ∃ r ∈ rs, isGateMeasuredRule r = true ∧ 0 < r.contributionWeight ∧ r.dimension = dim

/-! ### The two readings -/

/-- The classes differ in the weight alone. -/
theorem isDimensionMeasuredRule_iff {r : QualityRuleResult α} :
    isDimensionMeasuredRule r = true ↔
      isGateMeasuredRule r = true ∧ 0 < r.contributionWeight := by
  rw [isDimensionMeasuredRule, Bool.and_eq_true, decide_eq_true_eq]
  rfl

/-- The dimensions whose result has a score. -/
theorem exists_dimensionResult_iff {upper : String → String} {weights : String → Option α}
    {rs : List (QualityRuleResult α)} {reqDims : Finset String} {dim : String} :
    (∃ d ∈ dimensionResultsOf upper weights rs reqDims,
        d.dimension = dim ∧ d.dimensionScore.isSome) ↔
      dim ∈ scoredDims rs reqDims := by
  rw [scoredDims, Finset.mem_filter]
  constructor
  · rintro ⟨d, hd, rfl, h_score⟩
    obtain ⟨dim, h_dim, rfl⟩ := List.mem_map.mp hd
    exact ⟨mem_sortedSet.mp h_dim, h_score⟩
  · rintro ⟨h_dim, h_score⟩
    exact ⟨dimensionResultOf upper weights rs dim,
      List.mem_map_of_mem (mem_sortedSet.mpr h_dim), rfl, h_score⟩

section Agreement

variable [IsStrictOrderedRing α]

/-- A dimension has a score exactly when some rule the gate counts has weight. -/
theorem mem_scoredDims_iff_weighted {rs : List (QualityRuleResult α)}
    {reqDims : Finset String} {dim : String} :
    dim ∈ scoredDims rs reqDims ↔
      ∃ r ∈ rs, isGateMeasuredRule r = true ∧ 0 < r.contributionWeight ∧
        r.dimension = dim := by
  rw [mem_scoredDims, scoreOf, dimensionScore_isSome_iff]
  constructor
  · rintro ⟨r, hr, h_measured⟩
    obtain ⟨h_gate, h_weight⟩ := isDimensionMeasuredRule_iff.mp h_measured
    exact ⟨r, (mem_rulesOf.mp hr).1, h_gate, h_weight, (mem_rulesOf.mp hr).2⟩
  · rintro ⟨r, hr, h_gate, h_weight, h_dim⟩
    exact ⟨r, mem_rulesOf.mpr ⟨hr, h_dim⟩, isDimensionMeasuredRule_iff.mpr ⟨h_gate, h_weight⟩⟩

/-- The readings agree on the required dimensions exactly when the measured rules of
each have weight. -/
theorem measured_agree_iff {upper : String → String} {weights : String → Option α}
    {rs : List (QualityRuleResult α)} {reqDims : Finset String} :
    (∀ dim ∈ requiredDimensions rs, dim ∈ extractMeasuredDimensions rs ↔
      ∃ d ∈ dimensionResultsOf upper weights rs reqDims,
        d.dimension = dim ∧ d.dimensionScore.isSome) ↔ MeasuredRulesWeighted rs := by
  refine forall₂_congr fun dim _ => ?_
  rw [exists_dimensionResult_iff, mem_extractMeasuredDimensions, mem_scoredDims_iff_weighted]
  refine ⟨Iff.mp, fun h => ⟨h, ?_⟩⟩
  rintro ⟨r, hr, h_gate, -, h_dim⟩
  exact ⟨r, hr, h_gate, h_dim⟩

/-! ### The verdicts -/

omit [IsStrictOrderedRing α] in
/-- The gate passes or warns only on sufficient evidence, free of required failures. -/
theorem evidence_of_qualityGate_passed {inp : GateEvaluationInput α}
    (h : qualityGateStatus inp = .pass ∨ qualityGateStatus inp = .warn) :
    hasRequiredTechnicalFailure inp.ruleResults = false ∧
      isEvidenceInsufficient inp = false := by
  unfold qualityGateStatus at h
  -- the earlier tiers are other verdicts
  by_cases h_failure : hasRequiredTechnicalFailure inp.ruleResults = true
  · rw [if_pos h_failure] at h
    exact absurd h (by decide)
  by_cases h_critical : inp.ruleResults.any (isCriticalViolated · inp.policy) = true
  · rw [if_neg h_failure, if_pos h_critical] at h
    exact absurd h (by decide)
  by_cases h_evidence : isEvidenceInsufficient inp = true
  · rw [if_neg h_failure, if_neg h_critical, if_pos h_evidence] at h
    exact absurd h (by decide)
  exact ⟨Bool.eq_false_of_not_eq_true h_failure, Bool.eq_false_of_not_eq_true h_evidence⟩

/-- A passed or warned scorecard is published when the readings agree. -/
theorem published_of_qualityGate_passed {rs : List (QualityRuleResult α)}
    {policy : ScoringPolicy α} (h_weighted : MeasuredRulesWeighted rs)
    (h_gate : qualityGateStatus (gateInputOf rs policy (requiredDimensions rs)) = .pass ∨
      qualityGateStatus (gateInputOf rs policy (requiredDimensions rs)) = .warn) :
    (determinePublicationStatus
      (publicationInputOf rs policy (requiredDimensions rs) "SUCCEEDED")).1 = .published := by
  obtain ⟨h_failure, h_evidence⟩ := evidence_of_qualityGate_passed h_gate
  obtain ⟨h_coverage, h_score, h_unmeasured, h_required⟩ :=
    evidence_of_not_insufficient h_evidence
  -- what the gate took to be measured has a score
  have h_subset : requiredDimensions rs \ scoredDims rs (requiredDimensions rs) = ∅ := by
    rw [Finset.sdiff_eq_empty_iff_subset]
    intro dim h_dim
    exact mem_scoredDims_iff_weighted.mpr
      (h_weighted dim h_dim (mem_extractMeasuredDimensions.mp (h_required h_dim)))
  have h_error : qualityGateStatus (gateInputOf rs policy (requiredDimensions rs)) ≠ .error := by
    rcases h_gate with h | h <;> exact h.trans_ne (by decide)
  have h_supported :
      qualityGateStatus (gateInputOf rs policy (requiredDimensions rs)) ≠
        .insufficientEvidence := by
    rcases h_gate with h | h <;> exact h.trans_ne (by decide)
  have h_eligible : isPublicationEligible
      (publicationInputOf rs policy (requiredDimensions rs) "SUCCEEDED") = true :=
    isPublicationEligible_of rfl h_error h_supported h_coverage
      (by simp [publicationInputOf, h_subset]) h_failure h_unmeasured h_score
  rw [determinePublicationStatus, if_pos h_eligible]

omit [IsStrictOrderedRing α] in
/-- An error or a lack of evidence withholds the scorecard. -/
theorem withheld_of_qualityGate_unsupported {inp : PublicationCheckInput α}
    (h : inp.gateStatus = .error ∨ inp.gateStatus = .insufficientEvidence) :
    (determinePublicationStatus inp).1 = .withheld := by
  have h_gate : (inp.gateStatus == .error || inp.gateStatus == .insufficientEvidence) = true := by
    rw [Bool.or_eq_true, beq_iff_eq, beq_iff_eq]
    exact h
  have h_eligible : isPublicationEligible inp = false := by
    unfold isPublicationEligible
    rw [h_gate]
    split <;> rfl
  rw [determinePublicationStatus, h_eligible]
  rfl

omit [IsStrictOrderedRing α] in
/-- A score is published exactly with the status PUBLISHED. -/
theorem publishedScore_isSome_iff_published (inp : PublicationCheckInput α) :
    (determinePublicationStatus inp).2.isSome ↔
      (determinePublicationStatus inp).1 = .published := by
  cases h : (determinePublicationStatus inp).1 with
  | published =>
    obtain ⟨h_eq, h_some⟩ := determinePublicationStatus_published h
    rw [h_eq]
    exact iff_of_true h_some rfl
  | withheld =>
    rw [determinePublicationStatus_withheld h]
    exact iff_of_false (by simp) (by decide)

/-- **When the outcome is consistent.** For all results and policies the aggregator's
outcome is consistent exactly when no required dimension rests on measured rules
without weight. -/
theorem outcomeConsistent_iff (upper : String → String) (rs : List (QualityRuleResult α))
    (policy : ScoringPolicy α) :
    (∃ s, aggregate upper rs policy (some (requiredDimensions rs)) "SUCCEEDED" = .ok s ∧
      OutcomeConsistent rs s) ↔ MeasuredRulesWeighted rs := by
  rw [aggregate_eq]
  constructor
  · rintro ⟨s, h_ok, h_consistent⟩
    obtain rfl := Except.ok.inj h_ok
    exact measured_agree_iff.mp h_consistent.measured_agree
  · intro h_weighted
    refine ⟨_, rfl, ?_⟩
    exact {
      published_of_passed := published_of_qualityGate_passed h_weighted
      withheld_of_unsupported := fun h => withheld_of_qualityGate_unsupported h
      publishedScore_isSome_iff := publishedScore_isSome_iff_published _
      publishedScore_eq := fun h => (determinePublicationStatus_published h).1
      measured_agree := measured_agree_iff.mpr h_weighted }

end Agreement

/-- One measured rule of weight one. -/
def weightedResults : List (QualityRuleResult ℚ) := [
  { ruleId := "r1", dimension := "COMPLETENESS", measurementStatus := .measured
    contributionWeight := 1, computedScore := some 100 }]

theorem outcomeConsistent_weightedResults :
    ∃ s, aggregate id weightedResults ScoringPolicy.ofDefaults
        (some (requiredDimensions weightedResults)) "SUCCEEDED" = .ok s ∧
      OutcomeConsistent weightedResults s := by
  have h_weighted : MeasuredRulesWeighted weightedResults := by
    unfold MeasuredRulesWeighted
    decide +kernel
  exact (outcomeConsistent_iff id weightedResults ScoringPolicy.ofDefaults).mpr h_weighted

/-! ### A scorecard that passes and is withheld -/

/-- A policy that publishes from half the coverage on. -/
def halfCoveragePolicy : ScoringPolicy ℚ :=
  { ScoringPolicy.ofDefaults with
    publicationThreshold := 1 / 2
    publicationThreshold_mem := by norm_num }

/-- COMPLETENESS is measured; VALIDITY has a weighted rule that failed and a measured
rule of weight zero. -/
def zeroWeightResults : List (QualityRuleResult ℚ) := [
  { ruleId := "r1", dimension := "COMPLETENESS", measurementStatus := .measured
    contributionWeight := 1, computedScore := some 100 },
  { ruleId := "r2", dimension := "VALIDITY", measurementStatus := .failedToMeasure
    contributionWeight := 1 },
  { ruleId := "r3", dimension := "VALIDITY", measurementStatus := .measured
    contributionWeight := 0, computedScore := some 100 }]

/-- The gate passes the scorecard and the publication check withholds it. -/
theorem outcomeInconsistent_zeroWeight :
    ∃ s, aggregate id zeroWeightResults halfCoveragePolicy
        (some (requiredDimensions zeroWeightResults)) "SUCCEEDED" = .ok s ∧
      s.qualityGate = .pass ∧ s.publicationStatus = .withheld ∧
      ¬ OutcomeConsistent zeroWeightResults s := by
  rw [aggregate_eq]
  have h_gate : (summaryOf id zeroWeightResults halfCoveragePolicy
      (requiredDimensions zeroWeightResults) "SUCCEEDED").qualityGate = .pass := by
    decide +kernel
  have h_withheld : (summaryOf id zeroWeightResults halfCoveragePolicy
      (requiredDimensions zeroWeightResults) "SUCCEEDED").publicationStatus = .withheld := by
    decide +kernel
  refine ⟨_, rfl, h_gate, h_withheld, fun h => ?_⟩
  have h_published := h.published_of_passed (Or.inl h_gate)
  rw [Option.getD_some, h_withheld] at h_published
  exact absurd h_published (by decide)

end DqScoring
