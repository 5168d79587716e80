import DqScoring.Services.SameEvidence
import DqScoring.Services.ValidationService

/-!
# Advisory rules and the scorecard

The database keeps advisory rules out of the score and out of the required rules, and
the gate skips results that carry the advisory flag. The validation service, however,
never sets that flag on a result, so that the gate treats a critical, gate-enabled
advisory rule like any other.

`advisory_isolated_iff` states exactly when the outputs of advisory rules do not show
in the headline: when no advisory rule can raise (its null policy is supported) or
violate the gate (`CannotViolate`). The direction that such rules are harmless goes
through `SameEvidence.of_forall₂`; for the other one, an advisory rule that is not
harmless is given one failed record, once as its only output and once not at all.
-/

namespace DqScoring

open Framework

variable {α : Type} [Field α] [LinearOrder α]

/-- The headline of a ruleset, from the outputs of the compute engine. -/
def evaluateOutputs (upper : String → String) (rules : List (QualityRule α))
    (policy : ScoringPolicy α) (outputs : List RuleExecutionOutput) :
    Except PyError (Headline α) := do
  let results ← validateRuleset rules outputs
  let summary ← aggregate upper results policy (some (requiredDimensions results)) "SUCCEEDED"
  return summary.headline

/-- Two lists of outputs that differ only in the outputs of advisory rules. -/
def AgreeOffAdvisory (rules : List (QualityRule α)) (outputs outputs' : List RuleExecutionOutput) :
    Prop :=
  ∀ rule ∈ rules, rule.isAdvisory = false →
    outputMap outputs rule.ruleId = outputMap outputs' rule.ruleId

/-- The outputs of advisory rules do not show in the headline. -/
def AdvisoryIsolated (upper : String → String) (rules : List (QualityRule α))
    (policy : ScoringPolicy α) : Prop :=
  ∀ outputs outputs', AgreeOffAdvisory rules outputs outputs' →
    (evaluateOutputs upper rules policy outputs).toOption =
      (evaluateOutputs upper rules policy outputs').toOption

/-- An advisory rule whose id no scored rule shares. -/
def IsAdvisoryAlone (rules : List (QualityRule α)) (rule : QualityRule α) : Prop :=
  ∀ rule' ∈ rules, rule'.ruleId = rule.ruleId → rule'.isAdvisory = true

/-- No output of the rule is a critical violation: it is not critical, not gate-enabled,
or its effective threshold accepts every score. -/
def CannotViolate (policy : ScoringPolicy α) (rule : QualityRule α) : Prop :=
  rule.isCritical = false ∨ rule.gateEnabled = false ∨
    ∃ t ∈ rule.acceptanceThreshold.or policy.criticalAcceptanceThreshold, t ≤ 0

/-- What the database guarantees of an advisory rule. -/
def AdvisoryUnscored (rules : List (QualityRule α)) : Prop :=
  ∀ rule ∈ rules, rule.isAdvisory = true → rule.scoreEnabled = false ∧ rule.isRequired = false

/-- Validated outputs are evaluated to their summary. -/
theorem evaluateOutputs_of_ok {rules : List (QualityRule α)}
    {outputs : List RuleExecutionOutput} {results : List (QualityRuleResult α)}
    (upper : String → String) (policy : ScoringPolicy α)
    (h : validateRuleset rules outputs = .ok results) :
    evaluateOutputs upper rules policy outputs =
      .ok (summaryOf upper results policy (requiredDimensions results) "SUCCEEDED").headline := by
  unfold evaluateOutputs
  rw [h]
  simp only [aggregate_eq, bind, Except.bind, pure, Except.pure, Option.getD_some]

/-- An error of the validation ends the evaluation. -/
theorem evaluateOutputs_of_error {rules : List (QualityRule α)}
    {outputs : List RuleExecutionOutput} {e : PyError} (upper : String → String)
    (policy : ScoringPolicy α) (h : validateRuleset rules outputs = .error e) :
    evaluateOutputs upper rules policy outputs = .error e := by
  unfold evaluateOutputs
  rw [h]
  rfl

/-- A rule with an invalid target column makes validation raise under all outputs. -/
theorem evaluateOutputs_of_invalid {rules : List (QualityRule α)}
    (h : ∃ rule ∈ rules, ¬ HasValidTarget rule) (upper : String → String)
    (policy : ScoringPolicy α) (outputs : List RuleExecutionOutput) :
    (evaluateOutputs upper rules policy outputs).toOption = none := by
  obtain ⟨rule, h_rule, h_invalid⟩ := h
  obtain ⟨e, he⟩ : ∃ e, validateRuleset rules outputs = .error e :=
    mapM_error_of_mem h_rule (processRuleResult_of_invalid h_invalid _)
  rw [evaluateOutputs_of_error upper policy he]
  rfl

section Isolation

variable [IsStrictOrderedRing α] {policy : ScoringPolicy α}

/-! ### Harmless rules -/

/-- The result of an unscored rule that cannot violate the gate is inert. -/
theorem isInert_of_cannotViolate {rule : QualityRule α} {out : RuleExecutionOutput}
    {r : QualityRuleResult α} (h_unscored : rule.scoreEnabled = false ∧ rule.isRequired = false)
    (h_harmless : CannotViolate policy rule) (h : processRuleResult rule out = .ok r) :
    IsInert policy r := by
  obtain ⟨c, status, score, violations, message, rfl, h_outcome, -⟩ := processRuleResult_ok h
  obtain ⟨h_score_enabled, h_required⟩ := h_unscored
  refine ⟨?_, ?_, h_required, ?_⟩
  · simp [isDimensionExpectedRule, resultOf, h_score_enabled]
  · simp [isGateMeasuredRule, resultOf, h_score_enabled]
  · rcases h_harmless with h_critical | h_gate | ⟨t, ht, h_nonpos⟩
    · simp [isCriticalViolated, resultOf, h_critical]
    · simp [isCriticalViolated, resultOf, h_gate]
    · -- no score lies below a threshold that is not positive
      have h_not_below : score.any (· < t) = false := by
        cases h_score : score with
        | none => rfl
        | some s =>
          have hs := h_outcome.score_mem_Icc s h_score
          exact decide_eq_false (not_lt.mpr (h_nonpos.trans hs.1))
      have h_threshold : rule.acceptanceThreshold.or policy.criticalAcceptanceThreshold =
          some t := ht
      unfold isCriticalViolated
      simp only [resultOf, h_threshold, h_not_below, ite_self]

/-- Harmless advisory rules do not show in the headline. -/
theorem headline_eq_of_harmless {rules : List (QualityRule α)} (h_db : AdvisoryUnscored rules)
    (h_harmless : ∀ rule ∈ rules, rule.isAdvisory = true → IsAdvisoryAlone rules rule →
      SupportedNullPolicy rule.nullPolicy ∧ CannotViolate policy rule)
    (h_target : ∀ rule ∈ rules, HasValidTarget rule) {outputs outputs' : List RuleExecutionOutput}
    (h_agree : AgreeOffAdvisory rules outputs outputs') (upper : String → String) :
    (evaluateOutputs upper rules policy outputs).toOption =
      (evaluateOutputs upper rules policy outputs').toOption := by
  -- rule by rule, the two results are the same or both without effect
  have h_rel : ∀ rule ∈ rules,
      (∃ e e', processRuleResult rule (outputFor outputs rule.ruleId) = .error e ∧
        processRuleResult rule (outputFor outputs' rule.ruleId) = .error e') ∨
      ∃ r r', processRuleResult rule (outputFor outputs rule.ruleId) = .ok r ∧
        processRuleResult rule (outputFor outputs' rule.ruleId) = .ok r' ∧
        (r = r' ∨ IsInert policy r ∧ IsInert policy r') := by
    intro rule h_rule
    by_cases h_alone : IsAdvisoryAlone rules rule
    · -- the outputs may differ: both results exist and are inert
      have h_advisory : rule.isAdvisory = true := h_alone rule h_rule rfl
      obtain ⟨h_policy, h_violate⟩ := h_harmless rule h_rule h_advisory h_alone
      obtain ⟨r, hr⟩ := processRuleResult_isOk (h_target rule h_rule) h_policy
        (outputFor outputs rule.ruleId)
      obtain ⟨r', hr'⟩ := processRuleResult_isOk (h_target rule h_rule) h_policy
        (outputFor outputs' rule.ruleId)
      have h_unscored := h_db rule h_rule h_advisory
      exact Or.inr ⟨r, r', hr, hr', Or.inr ⟨isInert_of_cannotViolate h_unscored h_violate hr,
        isInert_of_cannotViolate h_unscored h_violate hr'⟩⟩
    · -- a scored rule has this id: the outputs are the same
      unfold IsAdvisoryAlone at h_alone
      push Not at h_alone
      obtain ⟨rule', h_rule', h_id, h_scored⟩ := h_alone
      have h_same : outputFor outputs rule.ruleId = outputFor outputs' rule.ruleId := by
        rw [← h_id, outputFor, outputFor,
          h_agree rule' h_rule' (Bool.eq_false_of_not_eq_true h_scored)]
      rw [h_same]
      cases h_result : processRuleResult rule (outputFor outputs' rule.ruleId) with
      | error e => exact Or.inl ⟨e, e, rfl, rfl⟩
      | ok r => exact Or.inr ⟨r, r, rfl, rfl, Or.inl rfl⟩
  -- so both validations raise, or their results differ in inert ones only
  rcases mapM_rel h_rel with ⟨e, e', h_error, h_error'⟩ | ⟨rs, rs', h_ok, h_ok', h_forall⟩
  · rw [evaluateOutputs_of_error upper policy h_error,
      evaluateOutputs_of_error upper policy h_error']
    rfl
  · have h_same : SameEvidence policy rs rs' := SameEvidence.of_forall₂ h_forall
    rw [evaluateOutputs_of_ok upper policy h_ok, evaluateOutputs_of_ok upper policy h_ok',
      h_same.requiredDimensions_eq, h_same.headline_eq]

/-! ### Rules that show -/

/-- Every record failed, and there is one. -/
def violatingOutput (ruleId : Uuid) : RuleExecutionOutput where
  ruleId := ruleId
  counts := { failed := 1, totalObserved := 1 }

/-- With the violating output for one id and none for the others, each rule has the
violating output or none. -/
theorem outputFor_violatingOutput (id ruleId : Uuid) :
    outputFor [violatingOutput id] ruleId =
      if ruleId = id then violatingOutput ruleId else missingOutput ruleId := by
  have h_id : (violatingOutput id).ruleId = id := rfl
  rw [outputFor, outputMap_singleton, h_id]
  by_cases h : ruleId = id
  · subst h
    rw [if_pos rfl, if_pos rfl, Option.getD_some]
  · rw [if_neg h, if_neg h, Option.getD_none]

/-- Whatever the supported null policy, one failed row alone gives the denominator one. -/
theorem calculateDenominator_violating {nullPolicy : String}
    (h : SupportedNullPolicy nullPolicy) :
    calculateDenominator { failed := 1, totalObserved := 1 } nullPolicy = .ok 1 := by
  unfold calculateDenominator
  by_cases h_fail : nullPolicy = "fail"
  · exact if_pos h_fail
  · exact (if_neg h_fail).trans (if_pos (h.resolve_left h_fail))

omit [LinearOrder α] [IsStrictOrderedRing α] in
/-- A result of the violating output means that the null policy is supported, and is a
measured zero with a violation. -/
theorem result_of_violatingOutput {rule : QualityRule α} {r : QualityRuleResult α}
    (h : processRuleResult rule (violatingOutput rule.ruleId) = .ok r) :
    SupportedNullPolicy rule.nullPolicy ∧
      ∃ c violations message, violations > 0 ∧
        r = resultOf rule c (violatingOutput rule.ruleId) .measured (some 0) violations
          message := by
  obtain ⟨c, status, score, violations, message, rfl, h_outcome, -⟩ := processRuleResult_ok h
  cases h_outcome with
  | technicalFailure h_failed => cases h_failed
  | unscored h_failed h_measured => exact absurd rfl h_measured
  | brokenPartition h_measured h_partition => cases h_partition
  | scored h_measured h_partition h_score =>
    by_cases h_policy : SupportedNullPolicy rule.nullPolicy
    · have h_den : calculateDenominator (violatingOutput rule.ruleId).counts rule.nullPolicy =
          .ok 1 := calculateDenominator_violating h_policy
      have h_zero : ((violatingOutput rule.ruleId).counts.passed : α) / (1 : ℕ) * 100 = 0 := by
        simp [violatingOutput]
      have h_violations : violationsOf rule (violatingOutput rule.ruleId).counts > 0 := by
        simp [violationsOf, violatingOutput]
      have h_score : computeRuleScore _ = .ok (status, score) := h_score
      rw [computeRuleScore_of_denominator h_den, if_neg Nat.one_ne_zero, h_zero] at h_score
      obtain ⟨rfl, rfl⟩ := Prod.mk.inj (Except.ok.inj h_score)
      exact ⟨h_policy, c, _, message, h_violations, rfl⟩
    · rw [computeRuleScoreIn, calculateDenominator_unsupported h_policy] at h_score
      cases h_score

omit [LinearOrder α] [IsStrictOrderedRing α] in
/-- The result of a rule without output is not measurable. -/
theorem result_of_missingOutput {rule : QualityRule α} {r : QualityRuleResult α}
    (h : processRuleResult rule (missingOutput rule.ruleId) = .ok r) :
    r.measurementStatus = .notMeasurable := by
  obtain ⟨c, status, score, violations, message, rfl, h_outcome, -⟩ := processRuleResult_ok h
  cases h_outcome with
  | technicalFailure h_failed => cases h_failed
  | unscored h_failed h_measured => rfl
  | brokenPartition h_measured h_partition => cases h_measured
  | scored h_measured h_partition h_score => cases h_measured

/-- Without any measured result the gate sees insufficient evidence. -/
theorem qualityGate_of_unmeasured {rs : List (QualityRuleResult α)}
    (h : ∀ r ∈ rs, r.measurementStatus = .notMeasurable) (reqDims : Finset String) :
    qualityGateStatus (gateInputOf rs policy reqDims) = .insufficientEvidence := by
  have h_failure : hasRequiredTechnicalFailure rs = false := by
    refine List.any_eq_false.mpr fun r hr => ?_
    simp [h r hr]
  have h_critical : rs.any (isCriticalViolated · policy) = false := by
    refine List.any_eq_false.mpr fun r hr => ?_
    simp [isCriticalViolated, h r hr]
  -- no dimension has a score, so the dataset has none
  have h_scores : ∀ dim, (scoreOf rs dim).isSome = false := by
    intro dim
    rw [Bool.eq_false_iff, ne_eq, scoreOf, dimensionScore_isSome_iff]
    rintro ⟨r, hr, h_measured⟩
    simp [isDimensionMeasuredRule, h r (mem_rulesOf.mp hr).1] at h_measured
  have h_dataset : datasetScoreOf policy.dimensionWeights rs reqDims = none := by
    rw [datasetScoreOf, weightedScores, List.filter_eq_nil_iff.mpr fun dim _ => by
      simp [h_scores dim]]
    simp [weightedMean]
  have h_evidence : isEvidenceInsufficient (gateInputOf rs policy reqDims) = true := by
    simp [isEvidenceInsufficient, gateInputOf, h_dataset]
  rw [qualityGateStatus, h_evidence]
  simp only [gateInputOf, h_failure, h_critical]
  rfl

omit [LinearOrder α] in
/-- Without outputs every rule with a valid target column is not measurable. -/
theorem validateRuleset_nil {rules : List (QualityRule α)}
    (h_target : ∀ rule ∈ rules, HasValidTarget rule) :
    ∃ rs, validateRuleset rules [] = .ok rs ∧ ∀ r ∈ rs, r.measurementStatus = .notMeasurable := by
  cases h_rs : validateRuleset rules [] with
  | error e =>
    have h_ok : ∀ rule ∈ rules, ∃ r, processRuleResult rule (outputFor [] rule.ruleId) = .ok r := by
      intro rule h_rule
      obtain ⟨c, h_c⟩ := h_target rule h_rule
      exact ⟨_, ruleResult_of_valid h_c (missingOutput rule.ruleId) .notMeasurable none 0 none⟩
    obtain ⟨rs, h_all⟩ := mapM_isOk_of_forall h_ok
    exact absurd (h_rs.symm.trans h_all) (by simp)
  | ok rs =>
    refine ⟨rs, rfl, fun r hr => ?_⟩
    obtain ⟨rule, -, h_r⟩ := mem_of_mapM_ok h_rs hr
    exact result_of_missingOutput h_r

omit [LinearOrder α] [IsStrictOrderedRing α] in
/-- The violating output causes no technical failure. -/
theorem no_failure_of_violatingOutput {rules : List (QualityRule α)} {id : Uuid}
    {rs : List (QualityRuleResult α)} (h : validateRuleset rules [violatingOutput id] = .ok rs) :
    hasRequiredTechnicalFailure rs = false := by
  refine List.any_eq_false.mpr fun r hr => ?_
  obtain ⟨rule, -, h_r⟩ := mem_of_mapM_ok h hr
  rw [outputFor_violatingOutput] at h_r
  by_cases h_id : rule.ruleId = id
  · rw [if_pos h_id] at h_r
    obtain ⟨-, c, violations, message, -, rfl⟩ := result_of_violatingOutput h_r
    simp [resultOf]
  · rw [if_neg h_id] at h_r
    simp [result_of_missingOutput h_r]

omit [IsStrictOrderedRing α] in
/-- A measured zero with a violation violates the gate unless the rule cannot. -/
theorem isCriticalViolated_of_violating {rule : QualityRule α} {out : RuleExecutionOutput}
    {c : Option String} {violations : ℕ} {message : Option String} (h_pos : violations > 0)
    (h : ¬ CannotViolate policy rule) :
    isCriticalViolated (resultOf rule c out .measured (some 0) violations message) policy =
      true := by
  unfold CannotViolate at h
  push Not at h
  obtain ⟨h_critical, h_enabled, h_threshold⟩ := h
  unfold isCriticalViolated
  simp only [resultOf, h_critical, h_enabled]
  cases h_t : rule.acceptanceThreshold.or policy.criticalAcceptanceThreshold with
  | none => simpa using h_pos
  | some t => simpa using h_threshold t h_t

/-- An advisory rule that shows in no headline is harmless. -/
theorem harmless_of_headline_eq {rules : List (QualityRule α)}
    (h_target : ∀ rule ∈ rules, HasValidTarget rule) (upper : String → String)
    (h_same : AdvisoryIsolated upper rules policy)
    {rule : QualityRule α} (h_rule : rule ∈ rules) (h_alone : IsAdvisoryAlone rules rule) :
    SupportedNullPolicy rule.nullPolicy ∧ CannotViolate policy rule := by
  -- the two lists differ in the output of an advisory rule alone
  have h_agree : AgreeOffAdvisory rules [violatingOutput rule.ruleId] [] := by
    intro rule' h_rule' h_scored
    have h_id : rule'.ruleId ≠ rule.ruleId := by
      intro h_id
      rw [h_alone rule' h_rule' h_id] at h_scored
      cases h_scored
    rw [outputMap_singleton]
    exact if_neg h_id
  obtain ⟨rs, h_rs, h_unmeasured⟩ := validateRuleset_nil h_target
  have h_eq := h_same _ _ h_agree
  rw [evaluateOutputs_of_ok upper policy h_rs] at h_eq
  cases h_violating : validateRuleset rules [violatingOutput rule.ruleId] with
  | error e =>
    -- without the output there is a headline
    rw [evaluateOutputs_of_error upper policy h_violating] at h_eq
    cases h_eq
  | ok rs' =>
    rw [evaluateOutputs_of_ok upper policy h_violating] at h_eq
    have h_gate : qualityGateStatus (gateInputOf rs' policy (requiredDimensions rs')) =
        .insufficientEvidence :=
      (congrArg Headline.qualityGate (Option.some.inj h_eq)).trans
        (qualityGate_of_unmeasured h_unmeasured (requiredDimensions rs))
    -- the rule has a result, so its null policy is supported
    obtain ⟨r, hr, h_r⟩ := exists_of_mapM_ok h_violating h_rule
    rw [outputFor_violatingOutput, if_pos rfl] at h_r
    obtain ⟨h_policy, c, violations, message, h_pos, rfl⟩ := result_of_violatingOutput h_r
    refine ⟨h_policy, ?_⟩
    by_contra h_violate
    -- the gate would fail on this result
    have h_any : rs'.any (isCriticalViolated · policy) = true :=
      List.any_eq_true.mpr ⟨_, hr, isCriticalViolated_of_violating h_pos h_violate⟩
    have h_fail : qualityGateStatus (gateInputOf rs' policy (requiredDimensions rs')) = .fail := by
      simp [qualityGateStatus, gateInputOf, no_failure_of_violatingOutput h_violating, h_any]
    exact absurd (h_fail.symm.trans h_gate) (by decide)

/-- **When advisory rules do not show.** For every ruleset the database accepts and every
policy, outputs that differ only in advisory rules have the same headline exactly when
validation always raises, or every advisory rule has a supported null policy and cannot
violate the gate. -/
theorem advisory_isolated_iff (upper : String → String) (rules : List (QualityRule α))
    (policy : ScoringPolicy α) (h_db : AdvisoryUnscored rules) :
    AdvisoryIsolated upper rules policy ↔
    (∃ rule ∈ rules, ¬ HasValidTarget rule) ∨
      ∀ rule ∈ rules, rule.isAdvisory = true → IsAdvisoryAlone rules rule →
        SupportedNullPolicy rule.nullPolicy ∧ CannotViolate policy rule := by
  by_cases h_target : ∃ rule ∈ rules, ¬ HasValidTarget rule
  · -- both sides hold: there is no headline to differ in
    refine iff_of_true (fun outputs outputs' _ => ?_) (Or.inl h_target)
    rw [evaluateOutputs_of_invalid h_target, evaluateOutputs_of_invalid h_target]
  · have h_valid : ∀ rule ∈ rules, HasValidTarget rule := by
      intro rule h_rule
      by_contra h_invalid
      exact h_target ⟨rule, h_rule, h_invalid⟩
    constructor
    · intro h_same
      exact Or.inr fun rule h_rule _ h_alone =>
        harmless_of_headline_eq h_valid upper h_same h_rule h_alone
    · intro h_harmless outputs outputs' h_agree
      exact headline_eq_of_harmless h_db (h_harmless.resolve_left h_target) h_valid h_agree upper

end Isolation

/-! ### An advisory rule that fails the gate -/

/-- A scored rule and a critical, gate-enabled advisory rule, as the database accepts
them. -/
def advisoryRuleset : List (QualityRule ℚ) := [
  { ruleId := .repeated 1, ruleCode := "R1", dimension := "VALIDITY", ruleType := "NON_NULL"
    parameters := [("column", .str "age")], contributionWeight := 1 },
  { ruleId := .repeated 2, ruleCode := "R2", dimension := "VALIDITY", ruleType := "NON_NULL"
    parameters := [("column", .str "pay")], contributionWeight := 0
    isCritical := true, scoreEnabled := false, isAdvisory := true }]

/-- The outputs of the ruleset: the scored rule passes ten records, the advisory rule
has the given counts. -/
def advisoryOutputs (counts : RuleCounts) : List RuleExecutionOutput := [
  { ruleId := .repeated 1, counts := { passed := 10, totalObserved := 10 } },
  { ruleId := .repeated 2, counts := counts }]

theorem advisoryRuleset_unscored : AdvisoryUnscored advisoryRuleset := by
  intro rule h_rule h_advisory
  simp only [advisoryRuleset, List.mem_cons, List.not_mem_nil, or_false] at h_rule
  rcases h_rule with rfl | rfl
  · cases h_advisory
  · exact ⟨rfl, rfl⟩

/-- One failed record of the advisory rule turns the gate from PASS to FAIL. -/
theorem advisory_shows :
    AdvisoryUnscored advisoryRuleset ∧
    (evaluateOutputs id advisoryRuleset ScoringPolicy.ofDefaults
      (advisoryOutputs { passed := 1, totalObserved := 1 })).toOption.map
        Headline.qualityGate = some .pass ∧
    (evaluateOutputs id advisoryRuleset ScoringPolicy.ofDefaults
      (advisoryOutputs { failed := 1, totalObserved := 1 })).toOption.map
        Headline.qualityGate = some .fail ∧
    ¬ AdvisoryIsolated id advisoryRuleset ScoringPolicy.ofDefaults := by
  have h_pass : (evaluateOutputs id advisoryRuleset ScoringPolicy.ofDefaults
      (advisoryOutputs { passed := 1, totalObserved := 1 })).toOption.map
        Headline.qualityGate = some .pass := by decide +kernel
  have h_fail : (evaluateOutputs id advisoryRuleset ScoringPolicy.ofDefaults
      (advisoryOutputs { failed := 1, totalObserved := 1 })).toOption.map
        Headline.qualityGate = some .fail := by decide +kernel
  refine ⟨advisoryRuleset_unscored, h_pass, h_fail, fun h_isolated => ?_⟩
  have h_agree : AgreeOffAdvisory advisoryRuleset
      (advisoryOutputs { passed := 1, totalObserved := 1 })
      (advisoryOutputs { failed := 1, totalObserved := 1 }) := by
    intro rule h_rule h_scored
    simp only [advisoryRuleset, List.mem_cons, List.not_mem_nil, or_false] at h_rule
    rcases h_rule with rfl | rfl
    · decide +kernel
    · cases h_scored
  rw [h_isolated _ _ h_agree, h_fail] at h_pass
  exact absurd h_pass (by decide)

/-- The same ruleset with the advisory rule not critical. -/
def harmlessRuleset : List (QualityRule ℚ) :=
  advisoryRuleset.map fun rule => { rule with isCritical := false }

theorem advisory_isolated_harmlessRuleset :
    AdvisoryIsolated id harmlessRuleset ScoringPolicy.ofDefaults := by
  have h_db : AdvisoryUnscored harmlessRuleset := by
    intro rule h_rule h_advisory
    obtain ⟨rule', h_rule', rfl⟩ := List.mem_map.mp h_rule
    exact advisoryRuleset_unscored rule' h_rule' h_advisory
  refine (advisory_isolated_iff id harmlessRuleset ScoringPolicy.ofDefaults h_db).mpr (Or.inr ?_)
  intro rule h_rule _ _
  obtain ⟨rule', h_rule', rfl⟩ := List.mem_map.mp h_rule
  simp only [advisoryRuleset, List.mem_cons, List.not_mem_nil, or_false] at h_rule'
  refine ⟨?_, Or.inl rfl⟩
  rcases h_rule' with rfl | rfl <;> exact Or.inl rfl

end DqScoring
