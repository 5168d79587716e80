import DqScoring.Framework.Traverse
import DqScoring.Services.ScoreAggregator

/-!
# Results with the same evidence

Two lists of rule results carry the **same evidence** when they agree, dimension by
dimension, on score, coverage and the gate's own reading of what was measured, and
agree on the three existential checks of the gate. The headline of a scorecard (its
score, coverage, gate and publication) is a function of this evidence alone:
`SameEvidence.headline_eq`. Reordering the results, appending outlier advisories or
exchanging the outputs of harmless rules are all shown harmless by giving such an
agreement.

The required dimensions need no clause of their own. They are the dimensions with a
coverage, so that agreement on coverage is agreement on them
(`SameEvidence.requiredDimensions_eq`).
-/

namespace DqScoring

open Framework

variable {α : Type} [Field α] [LinearOrder α]

/-- What a scorecard publishes: score, coverage, gate and publication. -/
structure Headline (α : Type) where
  dqScore : Option α
  coverageRatio : Option α
  qualityGate : QualityGateStatus
  publicationStatus : PublicationStatus
  publishedScore : Option α
  deriving DecidableEq, Repr

/-- The headline of a scorecard. -/
def ScoreSummaryDTO.headline (s : ScoreSummaryDTO α) : Headline α where
  dqScore := s.dqScore
  coverageRatio := s.coverageRatio
  qualityGate := s.qualityGate
  publicationStatus := s.publicationStatus
  publishedScore := s.publishedScore

/-- Two lists of results that the scorer, the gate and the publication check cannot
tell apart. -/
structure SameEvidence (policy : ScoringPolicy α) (rs rs' : List (QualityRuleResult α)) :
    Prop where
  score_eq : ∀ dim, scoreOf rs dim = scoreOf rs' dim
  coverage_eq : ∀ dim, coverageOf rs dim = coverageOf rs' dim
  failure_eq : hasRequiredTechnicalFailure rs = hasRequiredTechnicalFailure rs'
  unmeasured_eq : hasUnmeasuredRequired rs = hasUnmeasuredRequired rs'
  critical_eq : rs.any (isCriticalViolated · policy) = rs'.any (isCriticalViolated · policy)
  measured_eq : extractMeasuredDimensions rs = extractMeasuredDimensions rs'

theorem SameEvidence.symm {policy : ScoringPolicy α} {rs rs' : List (QualityRuleResult α)}
    (h : SameEvidence policy rs rs') : SameEvidence policy rs' rs :=
  ⟨fun dim => (h.score_eq dim).symm, fun dim => (h.coverage_eq dim).symm, h.failure_eq.symm,
    h.unmeasured_eq.symm, h.critical_eq.symm, h.measured_eq.symm⟩

/-- Evidence that is the same over two changes is the same over both. -/
theorem SameEvidence.trans {policy : ScoringPolicy α} {rs rs' rs'' : List (QualityRuleResult α)}
    (h : SameEvidence policy rs rs') (h' : SameEvidence policy rs' rs'') :
    SameEvidence policy rs rs'' :=
  ⟨fun dim => (h.score_eq dim).trans (h'.score_eq dim),
    fun dim => (h.coverage_eq dim).trans (h'.coverage_eq dim), h.failure_eq.trans h'.failure_eq,
    h.unmeasured_eq.trans h'.unmeasured_eq, h.critical_eq.trans h'.critical_eq,
    h.measured_eq.trans h'.measured_eq⟩

omit [Field α] [LinearOrder α] in
/-- The dimensions are those of the results and the required ones. -/
theorem mem_distinctDims {rs : List (QualityRuleResult α)} {reqDims : Finset String}
    {dim : String} : dim ∈ distinctDims rs reqDims ↔
      (∃ r ∈ rs, r.dimension = dim) ∨ dim ∈ reqDims := by
  rw [distinctDims, Finset.mem_union, List.mem_toFinset, List.mem_map]

/-- Two sets of dimensions that agree on those with a value give the same list of values:
they may differ only in dimensions that do not enter the mean. -/
theorem presentValues_sortedSet_congr {weight : String → α} {quantity : String → Option α}
    {dims dims' : Finset String}
    (h : ∀ dim, (quantity dim).isSome → (dim ∈ dims ↔ dim ∈ dims')) :
    presentValues weight quantity (sortedSet dims) =
      presentValues weight quantity (sortedSet dims') := by
  unfold presentValues
  rw [filter_sortedSet_congr]
  intro dim h_dim
  exact h dim (Bool.and_eq_true_iff.mp h_dim).1

section Presence

variable [IsStrictOrderedRing α]

/-- A dimension with a score occurs in the results. -/
theorem mem_distinctDims_of_score {rs : List (QualityRuleResult α)} {reqDims : Finset String}
    {dim : String} (h : (scoreOf rs dim).isSome) : dim ∈ distinctDims rs reqDims := by
  obtain ⟨r, hr, -⟩ := dimensionScore_isSome_iff.mp h
  exact mem_distinctDims.mpr (Or.inl ⟨r, mem_rulesOf.mp hr⟩)

/-- A dimension with a coverage occurs in the results. -/
theorem mem_distinctDims_of_coverage {rs : List (QualityRuleResult α)}
    {reqDims : Finset String} {dim : String} (h : (coverageOf rs dim).isSome) :
    dim ∈ distinctDims rs reqDims := by
  obtain ⟨r, hr, -⟩ := dimensionCoverage_isSome_iff.mp h
  exact mem_distinctDims.mpr (Or.inl ⟨r, mem_rulesOf.mp hr⟩)

/-- The required dimensions are the dimensions with a coverage. -/
theorem mem_requiredDimensions_iff_coverage {rs : List (QualityRuleResult α)} {dim : String} :
    dim ∈ requiredDimensions rs ↔ (coverageOf rs dim).isSome := by
  rw [mem_requiredDimensions, coverageOf, dimensionCoverage_isSome_iff]
  constructor
  · rintro ⟨r, hr, h_expected, h_dim⟩
    exact ⟨r, mem_rulesOf.mpr ⟨hr, h_dim⟩, h_expected⟩
  · rintro ⟨r, hr, h_expected⟩
    exact ⟨r, (mem_rulesOf.mp hr).1, h_expected, (mem_rulesOf.mp hr).2⟩

/-- The dimensions the aggregator takes to be measured are those with a score. -/
theorem mem_scoredDims {rs : List (QualityRuleResult α)} {reqDims : Finset String}
    {dim : String} : dim ∈ scoredDims rs reqDims ↔ (scoreOf rs dim).isSome := by
  rw [scoredDims, Finset.mem_filter]
  exact ⟨fun h => h.2, fun h => ⟨mem_distinctDims_of_score h, h⟩⟩

namespace SameEvidence

variable {policy : ScoringPolicy α} {rs rs' : List (QualityRuleResult α)}

/-- The same evidence requires the same dimensions. -/
theorem requiredDimensions_eq (h : SameEvidence policy rs rs') :
    requiredDimensions rs = requiredDimensions rs' := by
  ext dim
  rw [mem_requiredDimensions_iff_coverage, mem_requiredDimensions_iff_coverage,
    h.coverage_eq]

/-- The same evidence has the same weighted scores. -/
theorem weightedScores_eq (h : SameEvidence policy rs rs') (weights : String → Option α)
    (reqDims : Finset String) :
    weightedScores weights rs reqDims = weightedScores weights rs' reqDims := by
  have h_score : scoreOf rs = scoreOf rs' := funext h.score_eq
  rw [DqScoring.weightedScores_eq, DqScoring.weightedScores_eq, h_score]
  refine presentValues_sortedSet_congr fun dim h_dim => ?_
  refine iff_of_true (mem_distinctDims_of_score ?_) (mem_distinctDims_of_score h_dim)
  rw [h_score]
  exact h_dim

/-- The same evidence has the same weighted coverages. -/
theorem weightedCoverages_eq (h : SameEvidence policy rs rs') (weights : String → Option α)
    (reqDims : Finset String) :
    weightedCoverages weights rs reqDims = weightedCoverages weights rs' reqDims := by
  have h_coverage : coverageOf rs = coverageOf rs' := funext h.coverage_eq
  rw [DqScoring.weightedCoverages_eq, DqScoring.weightedCoverages_eq, h_coverage]
  refine presentValues_sortedSet_congr fun dim h_dim => ?_
  refine iff_of_true (mem_distinctDims_of_coverage ?_) (mem_distinctDims_of_coverage h_dim)
  rw [h_coverage]
  exact h_dim

/-- The same evidence scores the same dimensions. -/
theorem scoredDims_eq (h : SameEvidence policy rs rs') (reqDims : Finset String) :
    scoredDims rs reqDims = scoredDims rs' reqDims := by
  ext dim
  rw [mem_scoredDims, mem_scoredDims, h.score_eq]

/-- The gate decides by the evidence alone. -/
theorem qualityGate_eq (h : SameEvidence policy rs rs') (reqDims : Finset String) :
    qualityGateStatus (gateInputOf rs policy reqDims) =
      qualityGateStatus (gateInputOf rs' policy reqDims) := by
  have h_score : datasetScoreOf policy.dimensionWeights rs reqDims =
      datasetScoreOf policy.dimensionWeights rs' reqDims := by
    rw [datasetScoreOf, h.weightedScores_eq, datasetScoreOf]
  have h_coverage : datasetCoverageOf policy.dimensionWeights rs reqDims =
      datasetCoverageOf policy.dimensionWeights rs' reqDims := by
    rw [datasetCoverageOf, h.weightedCoverages_eq, datasetCoverageOf]
  unfold qualityGateStatus isEvidenceInsufficient gateInputOf
  rw [h_score, h_coverage, h.failure_eq, h.unmeasured_eq, h.critical_eq, h.measured_eq]

/-- **The headline is a function of the evidence**, for each set of required
dimensions and each run status. -/
theorem headline_eq (h : SameEvidence policy rs rs') (upper : String → String)
    (reqDims : Finset String) (runStatus : String) :
    (summaryOf upper rs policy reqDims runStatus).headline =
      (summaryOf upper rs' policy reqDims runStatus).headline := by
  simp only [ScoreSummaryDTO.headline, summaryOf, publicationInputOf, datasetScoreOf,
    datasetCoverageOf, h.weightedScores_eq, h.weightedCoverages_eq, h.failure_eq,
    h.unmeasured_eq, h.qualityGate_eq, h.scoredDims_eq]

end SameEvidence

end Presence

/-! ### Sources of agreement -/

/-- Reordering the results changes no evidence. -/
theorem SameEvidence.of_perm {rs rs' : List (QualityRuleResult α)} (h : rs.Perm rs')
    (policy : ScoringPolicy α) : SameEvidence policy rs rs' where
  score_eq dim := by
    have h_dim : (rulesOf rs dim).Perm (rulesOf rs' dim) := h.filter _
    exact weightedMean_perm ((h_dim.filter _).map _)
  coverage_eq dim := by
    have h_dim : (rulesOf rs dim).Perm (rulesOf rs' dim) := h.filter _
    exact weightedMean_perm ((h_dim.filter _).map _)
  failure_eq := h.any_eq
  unmeasured_eq := h.any_eq
  critical_eq := h.any_eq
  measured_eq := List.toFinset_eq_of_perm _ _ ((h.filter _).map _)

/-- A result is **inert** when it is in no class that the scorer, the gate or the
publication check reads. -/
structure IsInert (policy : ScoringPolicy α) (r : QualityRuleResult α) : Prop where
  not_expected : isDimensionExpectedRule r = false
  not_gateMeasured : isGateMeasuredRule r = false
  not_required : r.isRequired = false
  not_critical : isCriticalViolated r policy = false

/-- An inert result measures no dimension. -/
theorem IsInert.not_measured {policy : ScoringPolicy α} {r : QualityRuleResult α}
    (h : IsInert policy r) : isDimensionMeasuredRule r = false := by
  cases h_measured : isDimensionMeasuredRule r with
  | false => rfl
  | true =>
    have h_expected := isDimensionExpectedRule_of_measured h_measured
    rw [h.not_expected] at h_expected
    exact h_expected.symm

/-- Lists that agree on every filter which rejects inert results carry the same
evidence: each reader of the results is such a filter. -/
theorem SameEvidence.of_filter_eq {policy : ScoringPolicy α} {rs rs' : List (QualityRuleResult α)}
    (h : ∀ p : QualityRuleResult α → Bool, (∀ r, IsInert policy r → p r = false) →
      rs.filter p = rs'.filter p) : SameEvidence policy rs rs' := by
  -- a class read within one dimension is a filter, and so is an existential check
  have h_dim : ∀ (inClass : QualityRuleResult α → Bool) (dim : String),
      (∀ r, IsInert policy r → inClass r = false) →
      (rulesOf rs dim).filter inClass = (rulesOf rs' dim).filter inClass := by
    intro inClass dim h_class
    rw [rulesOf, rulesOf, List.filter_filter, List.filter_filter]
    refine h _ fun r hr => ?_
    rw [h_class r hr, Bool.false_and]
  have h_any : ∀ p : QualityRuleResult α → Bool, (∀ r, IsInert policy r → p r = false) →
      rs.any p = rs'.any p := by
    intro p hp
    -- a list has a hit exactly when its filter is not empty
    have h_hit : ∀ l : List (QualityRuleResult α), l.any p = !(l.filter p).isEmpty := by
      intro l
      induction l with
      | nil => rfl
      | cons r l ih => cases hr : p r <;> simp [hr, ih]
    rw [h_hit, h_hit, h p hp]
  exact {
    score_eq := fun dim => by
      rw [scoreOf, scoreOf, dimensionScore, dimensionScore, measuredScores, measuredScores,
        h_dim isDimensionMeasuredRule dim fun r hr => hr.not_measured]
    coverage_eq := fun dim => by
      rw [coverageOf, coverageOf, dimensionCoverage, dimensionCoverage, expectedShares,
        expectedShares, h_dim isDimensionExpectedRule dim fun r hr => hr.not_expected]
    failure_eq := h_any _ fun r hr => by rw [hr.not_required, Bool.false_and]
    unmeasured_eq := h_any _ fun r hr => by rw [hr.not_required, Bool.false_and]
    critical_eq := h_any _ fun r hr => hr.not_critical
    measured_eq := by
      rw [extractMeasuredDimensions, extractMeasuredDimensions,
        h isGateMeasuredRule fun r hr => hr.not_gateMeasured] }

/-- Appending inert results changes no evidence. -/
theorem SameEvidence.append_inert {policy : ScoringPolicy α}
    {rs extra : List (QualityRuleResult α)} (h : ∀ r ∈ extra, IsInert policy r) :
    SameEvidence policy (rs ++ extra) rs := by
  refine SameEvidence.of_filter_eq fun p hp => ?_
  have h_none : extra.filter p = [] := by
    refine List.filter_eq_nil_iff.mpr fun r hr => ?_
    rw [hp r (h r hr)]
    exact Bool.false_ne_true
  rw [List.filter_append, h_none, List.append_nil]

/-- Exchanging inert results for inert results changes no evidence. -/
theorem SameEvidence.of_forall₂ {policy : ScoringPolicy α} {rs rs' : List (QualityRuleResult α)}
    (h : List.Forall₂ (fun r r' => r = r' ∨ IsInert policy r ∧ IsInert policy r') rs rs') :
    SameEvidence policy rs rs' := by
  refine SameEvidence.of_filter_eq fun p hp => filter_eq_of_forall₂ ?_ h
  rintro r r' (rfl | ⟨hr, hr'⟩)
  · exact Or.inl rfl
  · exact Or.inr ⟨hp r hr, hp r' hr'⟩

end DqScoring
