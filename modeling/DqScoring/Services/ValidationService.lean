import DqScoring.Common.Pydantic
import DqScoring.Core.Entities
import DqScoring.Core.RuleScoring
import DqScoring.Framework.Traverse

/-!
# The validation service

`services/validation_service.py` joins the rules of a ruleset with the outputs of the
compute engine and turns each pair into a rule result. An output is looked up by its
rule id, the last one of an id counts, and a rule without output is NOT_MEASURABLE.

All branches build their result through `ruleResult`, with a status, a score and a
number of violations. `processRuleResult_ok` lists the four outcomes, and is what the
later modules use; `processRuleResult_isOk` says when a result exists at all.
-/

namespace DqScoring

open Framework

/-! ### Outputs -/

/-- The source's `{out.rule_id: out for out in outputs}`: a later output of an id
replaces an earlier one. -/
def outputMap (outputs : List RuleExecutionOutput) : Uuid → Option RuleExecutionOutput :=
  outputs.foldl (fun m out => Function.update m out.ruleId (some out)) fun _ => none

/-- The output of a rule for which the engine returned none. -/
def missingOutput (ruleId : Uuid) : RuleExecutionOutput where
  ruleId := ruleId
  counts := {}
  status := .notMeasurable

/-- The output the service uses for a rule. -/
def outputFor (outputs : List RuleExecutionOutput) (ruleId : Uuid) : RuleExecutionOutput :=
  (outputMap outputs ruleId).getD (missingOutput ruleId)

theorem outputMap_singleton (out : RuleExecutionOutput) (ruleId : Uuid) :
    outputMap [out] ruleId = if ruleId = out.ruleId then some out else none := by
  rw [outputMap, List.foldl_cons, List.foldl_nil, Function.update_apply]

/-! ### Results -/

/-- The source's `x if x else None` for a list. -/
def noneIfEmpty {β : Type} : List β → Option (List β)
  | [] => none
  | xs => some xs

/-- The source's `text or default` for an optional text. -/
def textOr (text : Option String) (default : String) : Option String :=
  match text with
  | none => some default
  | some s => if s = "" then some default else some s

variable {α : Type}

/-- The source's `getattr(rule, "target_column", None) or ...`; a rule has no such
attribute. -/
def targetColumnValue (rule : QualityRule α) : PyValue :=
  (rule.parameters.get "target_column").orElse (rule.parameters.get "column")

/-- The result every branch of the service builds. The advisory flag of the rule is
not among the fields the service sets. -/
def ruleResult (rule : QualityRule α) (out : RuleExecutionOutput) (status : MeasurementStatus)
    (score : Option α) (violations : ℕ) (errorMessage : Option String) :
    Except PyError (QualityRuleResult α) := do
  -- a target that is no text makes the result raise
  let targetColumn ← validateOptionalStr "target_column" (targetColumnValue rule)
  return {
    ruleId := rule.ruleId.str
    dimension := rule.dimension
    measurementStatus := status
    isRequired := rule.isRequired
    isCritical := rule.isCritical
    gateEnabled := rule.gateEnabled
    scoreEnabled := rule.scoreEnabled
    conflictGroup := rule.conflictGroup
    isPrimaryScoringRule := rule.isPrimaryScoringRule
    contributionWeight := rule.contributionWeight
    acceptanceThreshold := rule.acceptanceThreshold
    computedScore := score
    violationsCount := violations
    counts := some out.counts
    -- an empty list is stored as `None`
    evidenceSamples := noneIfEmpty out.evidenceSamples
    errorMessage
    sourceKind := "RULE"
    targetColumn }

/-- Result of a technical measurement failure. -/
def buildTechnicalFailureResult (rule : QualityRule α) (out : RuleExecutionOutput) :
    Except PyError (QualityRuleResult α) :=
  ruleResult rule out .failedToMeasure none 0 out.errorMessage

/-- Result of an outcome that is neither measured nor a failure. -/
def buildUnscoredResult (rule : QualityRule α) (status : MeasurementStatus)
    (out : RuleExecutionOutput) : Except PyError (QualityRuleResult α) :=
  ruleResult rule out status none 0 out.errorMessage

/-- The violations among the counts of a rule. -/
def violationsOf (rule : QualityRule α) (counts : RuleCounts) : ℕ :=
  counts.failed + counts.miscast + if rule.nullPolicy = "fail" then counts.missing else 0

/-- The message of a result whose counts are not a partition. -/
def partitionFailureMessage : String :=
  "Partition identity check failed: sum of mutually exclusive counts does not match total_observed"

section Process

variable [Field α]

/-- Process an execution output into a rule result. -/
def processRuleResultIn (ar : Arithmetic α) (rule : QualityRule α) (out : RuleExecutionOutput) :
    Except PyError (QualityRuleResult α) := do
  if out.status = .failedToMeasure then
    buildTechnicalFailureResult rule out
  -- every other status keeps its status and has no score
  else if out.status ≠ .measured then
    buildUnscoredResult rule out.status out
  -- the result keeps the counts that are not a partition
  else if !verifyPartitionIdentity out.counts then
    ruleResult rule out .failedToMeasure none (violationsOf rule out.counts)
      (textOr out.errorMessage partitionFailureMessage)
  else
    let (status, score) ← computeRuleScoreIn ar {
      counts := out.counts
      nullPolicy := rule.nullPolicy }
    ruleResult rule out status score (violationsOf rule out.counts) out.errorMessage

/-- The rule result in exact arithmetic. -/
def processRuleResult (rule : QualityRule α) (out : RuleExecutionOutput) :
    Except PyError (QualityRuleResult α) :=
  processRuleResultIn (.exact α) rule out

/-- The validated results of a ruleset, given the outputs of the compute engine. -/
def validateRulesetIn (ar : Arithmetic α) (rules : List (QualityRule α))
    (outputs : List RuleExecutionOutput) : Except PyError (List (QualityRuleResult α)) :=
  rules.mapM fun rule => processRuleResultIn ar rule (outputFor outputs rule.ruleId)

/-- The results of a ruleset in exact arithmetic. -/
def validateRuleset (rules : List (QualityRule α)) (outputs : List RuleExecutionOutput) :
    Except PyError (List (QualityRuleResult α)) :=
  validateRulesetIn (.exact α) rules outputs

end Process

/-! ### What a result consists of -/

/-- The result of a rule with a valid target column. -/
def resultOf (rule : QualityRule α) (targetColumn : Option String) (out : RuleExecutionOutput)
    (status : MeasurementStatus) (score : Option α) (violations : ℕ)
    (errorMessage : Option String) : QualityRuleResult α where
  ruleId := rule.ruleId.str
  dimension := rule.dimension
  measurementStatus := status
  isRequired := rule.isRequired
  isCritical := rule.isCritical
  gateEnabled := rule.gateEnabled
  scoreEnabled := rule.scoreEnabled
  conflictGroup := rule.conflictGroup
  isPrimaryScoringRule := rule.isPrimaryScoringRule
  contributionWeight := rule.contributionWeight
  acceptanceThreshold := rule.acceptanceThreshold
  computedScore := score
  violationsCount := violations
  counts := some out.counts
  evidenceSamples := noneIfEmpty out.evidenceSamples
  errorMessage := errorMessage
  sourceKind := "RULE"
  targetColumn := targetColumn

/-- The target column of a rule is a string or absent. -/
def HasValidTarget (rule : QualityRule α) : Prop :=
  ∃ c, validateOptionalStr "target_column" (targetColumnValue rule) = .ok c

theorem ruleResult_of_valid {rule : QualityRule α} {targetColumn : Option String}
    (h : validateOptionalStr "target_column" (targetColumnValue rule) = .ok targetColumn)
    (out : RuleExecutionOutput) (status : MeasurementStatus) (score : Option α)
    (violations : ℕ) (errorMessage : Option String) :
    ruleResult rule out status score violations errorMessage =
      .ok (resultOf rule targetColumn out status score violations errorMessage) := by
  unfold ruleResult
  rw [h]
  rfl

/-- The four outcomes of the service: status, score and violations of a result. -/
inductive Outcome [Field α] (ar : Arithmetic α) (rule : QualityRule α)
    (out : RuleExecutionOutput) : MeasurementStatus → Option α → ℕ → Prop
  | technicalFailure : out.status = .failedToMeasure →
      Outcome ar rule out .failedToMeasure none 0
  | unscored : out.status ≠ .failedToMeasure → out.status ≠ .measured →
      Outcome ar rule out out.status none 0
  | brokenPartition : out.status = .measured → verifyPartitionIdentity out.counts = false →
      Outcome ar rule out .failedToMeasure none (violationsOf rule out.counts)
  | scored {status : MeasurementStatus} {score : Option α} : out.status = .measured →
      verifyPartitionIdentity out.counts = true →
      computeRuleScoreIn ar { counts := out.counts, nullPolicy := rule.nullPolicy } =
        .ok (status, score) →
      Outcome ar rule out status score (violationsOf rule out.counts)

section Spec

variable [Field α] {ar : Arithmetic α}

/-- **What the service builds.** A result carries the rule's own fields and the counts
of the output, with the status, score and violations of one of the four outcomes. -/
theorem processRuleResult_ok {rule : QualityRule α} {out : RuleExecutionOutput}
    {r : QualityRuleResult α} (h : processRuleResultIn ar rule out = .ok r) :
    ∃ targetColumn status score violations errorMessage,
      r = resultOf rule targetColumn out status score violations errorMessage ∧
        Outcome ar rule out status score violations ∧
        validateOptionalStr "target_column" (targetColumnValue rule) = .ok targetColumn := by
  -- every branch ends in `ruleResult`, which raises or builds the result
  have h_build : ∀ {status score violations errorMessage},
      ruleResult rule out status score violations errorMessage = .ok r →
        ∃ c, r = resultOf rule c out status score violations errorMessage ∧
          validateOptionalStr "target_column" (targetColumnValue rule) = .ok c := by
    intro status score violations errorMessage h_result
    cases h_target : validateOptionalStr "target_column" (targetColumnValue rule) with
    | error e =>
      rw [ruleResult, h_target] at h_result
      cases h_result
    | ok c =>
      rw [ruleResult_of_valid h_target] at h_result
      exact ⟨c, (Except.ok.inj h_result).symm, rfl⟩
  unfold processRuleResultIn at h
  by_cases h_failed : out.status = .failedToMeasure
  · rw [if_pos h_failed] at h
    obtain ⟨c, rfl, h_target⟩ := h_build h
    exact ⟨c, _, _, _, _, rfl, .technicalFailure h_failed, h_target⟩
  by_cases h_measured : out.status = .measured
  swap
  · rw [if_neg h_failed, if_pos h_measured] at h
    obtain ⟨c, rfl, h_target⟩ := h_build h
    exact ⟨c, _, _, _, _, rfl, .unscored h_failed h_measured, h_target⟩
  rw [if_neg h_failed, if_neg (not_not.mpr h_measured)] at h
  -- the partition identity is checked before the score
  cases h_partition : verifyPartitionIdentity out.counts with
  | false =>
    rw [h_partition, Bool.not_false, if_pos rfl] at h
    obtain ⟨c, rfl, h_target⟩ := h_build h
    exact ⟨c, _, _, _, _, rfl, .brokenPartition h_measured h_partition, h_target⟩
  | true =>
    rw [h_partition, if_neg (by decide)] at h
    cases h_score : computeRuleScoreIn ar
        { counts := out.counts, nullPolicy := rule.nullPolicy } with
    | error e =>
      rw [h_score] at h
      cases h
    | ok p =>
      rw [h_score] at h
      obtain ⟨c, rfl, h_target⟩ := h_build h
      exact ⟨c, _, _, _, _, rfl, .scored h_measured h_partition h_score, h_target⟩

/-- Without a valid target column there is no result. -/
theorem processRuleResult_of_invalid {rule : QualityRule α} (h : ¬ HasValidTarget rule)
    (out : RuleExecutionOutput) : ∃ e, processRuleResultIn ar rule out = .error e := by
  cases h_result : processRuleResultIn ar rule out with
  | error e => exact ⟨e, rfl⟩
  | ok r =>
    obtain ⟨c, _, _, _, _, -, -, h_target⟩ := processRuleResult_ok h_result
    exact absurd ⟨c, h_target⟩ h

/-- The output has counts that are scored. -/
def IsScored (out : RuleExecutionOutput) : Prop :=
  out.status = .measured ∧ verifyPartitionIdentity out.counts = true

/-- A valid target column gives a result, if a null policy that is read is supported. -/
theorem processRuleResult_isOk_of_scored {rule : QualityRule α} {out : RuleExecutionOutput}
    (h_target : HasValidTarget rule)
    (h_policy : IsScored out → SupportedNullPolicy rule.nullPolicy) :
    ∃ r, processRuleResultIn ar rule out = .ok r := by
  obtain ⟨c, h_target⟩ := h_target
  unfold processRuleResultIn buildTechnicalFailureResult buildUnscoredResult
  simp only [ruleResult_of_valid h_target]
  split
  · exact ⟨_, rfl⟩
  split
  · exact ⟨_, rfl⟩
  next h_measured =>
    split
    · exact ⟨_, rfl⟩
    next h_partition =>
      -- the denominator is all that can raise besides the target column
      have h_scored : IsScored out := ⟨not_not.mp h_measured, by simpa using h_partition⟩
      obtain ⟨n, hn⟩ := calculateDenominator_supported (h_policy h_scored) out.counts
      rw [computeRuleScoreIn_of_denominator ar hn]
      exact ⟨_, rfl⟩

/-- A supported null policy and a valid target column always give a result. -/
theorem processRuleResult_isOk {rule : QualityRule α} (h_target : HasValidTarget rule)
    (h_policy : SupportedNullPolicy rule.nullPolicy) (out : RuleExecutionOutput) :
    ∃ r, processRuleResultIn ar rule out = .ok r :=
  processRuleResult_isOk_of_scored h_target fun _ => h_policy

end Spec

/-- A result that has a score has a percentage. -/
theorem Outcome.score_mem_Icc [Field α] [LinearOrder α] [IsStrictOrderedRing α]
    {rule : QualityRule α} {out : RuleExecutionOutput} {status : MeasurementStatus}
    {score : Option α} {violations : ℕ} (h : Outcome (.exact α) rule out status score violations) :
    ∀ s ∈ score, s ∈ Set.Icc (0 : α) 100 := by
  intro s hs
  cases h with
  | technicalFailure h_failed => cases hs
  | unscored h_failed h_measured => cases hs
  | brokenPartition h_measured h_partition => cases hs
  | scored h_measured h_partition h_score =>
    obtain rfl := Option.mem_def.mp hs
    exact computeRuleScore_mem_Icc h_score

end DqScoring
