import DqScoring.Queue.Fencing
import DqScoring.Services.ValidationService

/-!
# Validated results in the result table

The validation service turns an output whose counts are not a partition into a
FAILED_TO_MEASURE result, and keeps these counts in the result. The store copies the
counts into the row, where a CHECK constraint refuses them: one such output makes every
save of the assessment fail.

`storedResults_iff` is the exact condition under which the rows of a validated ruleset
meet the constraints of their table.
-/

namespace DqScoring

open Framework

section Constraints

variable {α : Type} [Field α] [LinearOrder α]

/-- The constraints of `canonical_quality_results` on counts and score. -/
structure ResultRow.MeetsConstraints (row : ResultRow α) : Prop where
  partition : row.passedCount + row.failedCount + row.missingCount + row.miscastCount
    + row.notApplicableCount = row.totalObserved
  counts_nonneg : 0 ≤ row.passedCount ∧ 0 ≤ row.failedCount ∧ 0 ≤ row.missingCount ∧
    0 ≤ row.miscastCount ∧ 0 ≤ row.notApplicableCount ∧ 0 ≤ row.totalObserved
  score_mem : ∀ score ∈ row.computedScore, score ∈ Set.Icc (0 : α) 100

omit [Field α] [LinearOrder α] in
/-- The counts of a row are a partition when those of its result are. -/
theorem resultRow_partition_iff (rt : StoreRuntime) (a : ImmutableAssessment α)
    (rulesetId : Option Uuid) (evidence : EvidencePayload) (r : QualityRuleResult α) :
    ((resultRow rt a rulesetId evidence r).passedCount
        + (resultRow rt a rulesetId evidence r).failedCount
        + (resultRow rt a rulesetId evidence r).missingCount
        + (resultRow rt a rulesetId evidence r).miscastCount
        + (resultRow rt a rulesetId evidence r).notApplicableCount
        = (resultRow rt a rulesetId evidence r).totalObserved) ↔
      verifyPartitionIdentity (storedCounts r) = true := by
  rw [verifyPartitionIdentity, beq_iff_eq]
  dsimp only [resultRow]
  omega

/-- A row meets the constraints when its counts are a partition and its score is a
percentage: the counts of a result are not negative. -/
theorem resultRow_meetsConstraints_iff (rt : StoreRuntime) (a : ImmutableAssessment α)
    (rulesetId : Option Uuid) (evidence : EvidencePayload) (r : QualityRuleResult α) :
    (resultRow rt a rulesetId evidence r).MeetsConstraints ↔
      verifyPartitionIdentity (storedCounts r) = true ∧
        ∀ score ∈ r.computedScore, score ∈ Set.Icc (0 : α) 100 := by
  rw [← resultRow_partition_iff rt a rulesetId evidence]
  refine ⟨fun h => ⟨h.partition, h.score_mem⟩, fun h => ⟨h.1, ?_, h.2⟩⟩
  exact ⟨Int.natCast_nonneg _, Int.natCast_nonneg _, Int.natCast_nonneg _,
    Int.natCast_nonneg _, Int.natCast_nonneg _, Int.natCast_nonneg _⟩

/-- A row that the table accepts has a partition. -/
theorem partition_of_passesChecks {storedSize : EvidencePayload → ℕ} {row : ResultRow α}
    (h : row.passesChecks storedSize = true) :
    row.passedCount + row.failedCount + row.missingCount + row.miscastCount
      + row.notApplicableCount = row.totalObserved := by
  rw [ResultRow.passesChecks, Bool.and_eq_true] at h
  exact of_decide_eq_true h.2

end Constraints

section Validated

variable {α : Type} [Field α] [LinearOrder α] [IsStrictOrderedRing α]

/-- What the store needs of a validated result: the counts of its output, and a score
that is a percentage. -/
theorem storedCounts_of_processRuleResult {rule : QualityRule α} {out : RuleExecutionOutput}
    {r : QualityRuleResult α} (h : processRuleResult rule out = .ok r) :
    storedCounts r = out.counts ∧ ∀ score ∈ r.computedScore, score ∈ Set.Icc (0 : α) 100 := by
  obtain ⟨targetColumn, status, score, violations, errorMessage, rfl, h_outcome, -⟩ :=
    processRuleResult_ok h
  exact ⟨rfl, h_outcome.score_mem_Icc⟩

/-- **Validated results in the table.** The rows of a validated ruleset meet the
constraints exactly when the counts used for every rule are a partition. With one
output that is not, no save of the results succeeds. -/
theorem storedResults_iff (rt : StoreRuntime) {rules : List (QualityRule α)}
    {outputs : List RuleExecutionOutput} {results : List (QualityRuleResult α)}
    (h : validateRuleset rules outputs = .ok results) (a : ImmutableAssessment α) :
    ((∀ rulesetId, ∀ row ∈ resultRows rt a rulesetId 0 results, row.MeetsConstraints) ↔
        ∀ rule ∈ rules, verifyPartitionIdentity (outputFor outputs rule.ruleId).counts = true) ∧
      ((∃ rule ∈ rules, verifyPartitionIdentity (outputFor outputs rule.ruleId).counts = false) →
        ∀ catalog db leaseGeneration, ∃ e,
          saveAssessmentAtomic rt catalog db a results leaseGeneration = .error e) := by
  -- the row of the result of a rule
  have h_row : ∀ rule ∈ rules, ∀ rulesetId, ∃ row ∈ resultRows rt a rulesetId 0 results,
      ∃ evidence r, row = resultRow rt a rulesetId evidence r ∧
        storedCounts r = (outputFor outputs rule.ruleId).counts := by
    intro rule h_rule rulesetId
    obtain ⟨r, h_mem, h_result⟩ := exists_of_mapM_ok h h_rule
    obtain ⟨row, h_row, evidence, h_eq⟩ :=
      exists_right_of_mem (forall₂_resultRows rt a rulesetId 0 results) h_mem
    exact ⟨row, h_row, evidence, r, h_eq, (storedCounts_of_processRuleResult h_result).1⟩
  refine ⟨⟨fun h_rows rule h_rule => ?_, fun h_rules rulesetId row h_mem => ?_⟩,
    fun h_broken catalog db leaseGeneration => ?_⟩
  · -- the ruleset of a row does not matter to its constraints
    obtain ⟨row, h_mem, evidence, r, rfl, h_counts⟩ := h_row rule h_rule none
    have h_meets := h_rows none _ h_mem
    rw [resultRow_meetsConstraints_iff, h_counts] at h_meets
    exact h_meets.1
  · obtain ⟨r, h_r, evidence, rfl⟩ :=
      exists_left_of_mem (forall₂_resultRows rt a rulesetId 0 results) h_mem
    obtain ⟨rule, h_rule, h_result⟩ := mem_of_mapM_ok h h_r
    obtain ⟨h_counts, h_score⟩ := storedCounts_of_processRuleResult h_result
    rw [resultRow_meetsConstraints_iff, h_counts]
    exact ⟨h_rules rule h_rule, h_score⟩
  · obtain ⟨rule, h_rule, h_partition⟩ := h_broken
    cases h_save : saveAssessmentAtomic rt catalog db a results leaseGeneration with
    | error e => exact ⟨e, rfl⟩
    | ok db' =>
      -- a save that succeeds has had every row checked
      obtain ⟨run, h_saved⟩ := saveAssessmentAtomic_ok h_save
      obtain ⟨row, h_mem, evidence, r, rfl, h_counts⟩ :=
        h_row rule h_rule (some run.rulesetId)
      have h_sum := partition_of_passesChecks (h_saved.results_checked _ h_mem)
      rw [resultRow_partition_iff, h_counts, h_partition] at h_sum
      cases h_sum

end Validated

/-! ### An output that is not a partition -/

/-- A rule on the values of a column. -/
def validityRule : QualityRule ℚ where
  ruleId := .repeated 8
  ruleCode := "R1"
  dimension := "VALIDITY"
  ruleType := "NON_NULL"
  contributionWeight := 1

/-- Outputs of one measurement of the rule that lost records. -/
def lossyOutputs : List RuleExecutionOutput := [
  { ruleId := .repeated 8, counts := { passed := 90, totalObserved := 100 } }]

/-- The result of the rule. -/
def lossyResult : QualityRuleResult ℚ :=
  resultOf validityRule none
    { ruleId := .repeated 8, counts := { passed := 90, totalObserved := 100 } }
    .failedToMeasure none 0 (some partitionFailureMessage)

theorem lossyResult_refused :
    (validateRuleset [validityRule] lossyOutputs).toOption = some [lossyResult] ∧
      errorOf (saveAssessmentAtomic plainRuntime fullCatalog claimedOne.db assessmentOne
        [lossyResult] 1) = some (.checkViolation "canonical_quality_results") ∧
      errorOf (saveAssessmentAtomic plainRuntime fullCatalog claimedOne.db assessmentOne [] 1) =
        none := by
  decide +kernel

theorem storedResults_iff_lossyResult :
    ∃ e, saveAssessmentAtomic plainRuntime fullCatalog claimedOne.db assessmentOne
      [lossyResult] 1 = .error e := by
  have h_results : validateRuleset [validityRule] lossyOutputs = .ok [lossyResult] := by
    rfl
  exact (storedResults_iff plainRuntime h_results assessmentOne).2
    ⟨validityRule, List.mem_singleton.mpr rfl, by decide⟩ _ _ _

end DqScoring
