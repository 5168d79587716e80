import DqScoring.Compute.Partition
import DqScoring.Core.QualityGate
import DqScoring.Framework.Binary64
import DqScoring.Presentation.RulesetSchemas
import DqScoring.Services.ValidationService

/-!
# Violations, denominators and the gate

The service counts the violations of a rule and its score is a share of the denominator, each
with its own treatment of missing values. They add up for every null policy
(`violationsOf_add_passed`), so a score is 100 exactly when there are no violations, and the gate
may look at one or the other.

The score is a quotient of floats, which is rounded to 100 when less than one in `2 ^ 54` records is
a violation (`percent_eq_hundred_iff`), and a rule without a result leaves the whole ruleset
without results. `validation_results_iff` has both conditions.
-/

namespace DqScoring

open Framework

/-! ### Counts -/

/-- The records in a denominator have passed or are violations. -/
theorem violationsOf_add_passed {α : Type} {rule : QualityRule α} {counts : RuleCounts} {n : ℕ}
    (h : calculateDenominator counts rule.nullPolicy = .ok n) :
    violationsOf rule counts + counts.passed = n := by
  unfold calculateDenominator at h
  unfold violationsOf
  by_cases h_fail : rule.nullPolicy = "fail"
  · rw [if_pos h_fail] at h
    rw [if_pos h_fail]
    have h_n := Except.ok.inj h
    omega
  · rw [if_neg h_fail] at h
    rw [if_neg h_fail]
    split at h
    case isTrue =>
      have h_n := Except.ok.inj h
      omega
    case isFalse => cases h

/-! ### Scores -/

/-- The score of `p` passed records among `n` in the source's floats. -/
def percent (p n : ℕ) : ℚ :=
  Arithmetic.binary64.mul (Arithmetic.binary64.ratio p n) 100

/-- A share of records lies between zero and one. -/
theorem share_mem_Icc {p n : ℕ} (h : p ≤ n) : (p : ℚ) / n ∈ Set.Icc (0 : ℚ) 1 := by
  refine ⟨by positivity, div_le_one_of_le₀ ?_ (Nat.cast_nonneg n)⟩
  exact_mod_cast h

/-- A percentage is rounded to a percentage. -/
theorem nearest_percentage_le {y : ℚ} (h_nonneg : 0 ≤ y) (h : y ≤ 100) :
    Binary64.nearest y ≤ 100 := by
  rcases h_nonneg.eq_or_lt with rfl | h_pos
  · decide +kernel
  have h_exp : Binary64.ulpExponent y ≤ 0 := by
    refine Binary64.ulpExponent_le h_pos.ne' ?_ (by decide)
    rw [abs_of_pos h_pos]
    exact h.trans_lt (by norm_num)
  have h_le : Binary64.nearest y ≤ (100 : ℤ) * 2 ^ (0 : ℤ) :=
    Binary64.nearest_le h_exp (by simpa using h)
  simpa using h_le

/-- A percentage of a share below one is rounded to less than 100. -/
theorem nearest_percentage_lt {x : ℚ} (h_nonneg : 0 ≤ x) (h : x ≤ 1 - 1 / 2 ^ 53) :
    Binary64.nearest (x * 100) < 100 := by
  rcases h_nonneg.eq_or_lt with rfl | h_pos
  · decide +kernel
  have h_x : 0 < x * 100 := by positivity
  have h_exp : Binary64.ulpExponent (x * 100) ≤ -46 := by
    refine Binary64.ulpExponent_le h_x.ne' ?_ (by decide)
    rw [abs_of_pos h_x]
    norm_num at h ⊢
    linarith
  -- half a unit is less than a hundred times the distance to one
  refine Binary64.nearest_lt h_exp ?_
  norm_num at h ⊢
  linarith

/-- A part is at most 100 percent. -/
theorem percent_le {p n : ℕ} (h : p ≤ n) : percent p n ≤ 100 := by
  obtain ⟨h_nonneg, h_le⟩ := share_mem_Icc h
  have h_ratio : Binary64.nearest ((p : ℚ) / n) ≤ (1 : ℤ) * 2 ^ (0 : ℤ) := by
    rcases lt_or_ge ((p : ℚ) / n) (1 - 1 / 2 ^ 54) with h_far | h_near
    · refine (Binary64.nearest_le_pred_one h_nonneg h_far).trans ?_
      norm_num
    · rw [Binary64.nearest_eq_one h_le h_near]
      norm_num
  have h_pos := Binary64.nearest_nonneg h_nonneg
  norm_num at h_ratio
  have h_hundred : Binary64.nearest ((p : ℚ) / n) * 100 ≤ 100 := by linarith
  exact nearest_percentage_le (by positivity) h_hundred

/-- A score is rounded to 100 when less than one in `2 ^ 54` records has not passed. -/
theorem percent_eq_hundred_iff {p n : ℕ} (h : p ≤ n) (hn : n ≠ 0) :
    percent p n = 100 ↔ 2 ^ 54 * (n - p) ≤ n := by
  obtain ⟨h_nonneg, h_le⟩ := share_mem_Icc h
  have h_pos : (0 : ℚ) < n := Nat.cast_pos.mpr (Nat.pos_of_ne_zero hn)
  have h_near : 2 ^ 54 * (n - p) ≤ n ↔ 1 - 1 / 2 ^ 54 ≤ (p : ℚ) / n := by
    rw [le_div_iff₀ h_pos, ← Nat.cast_le (α := ℚ), Nat.cast_mul, Nat.cast_sub h]
    push_cast
    constructor <;> intro h_far <;> linarith
  rw [h_near]
  constructor
  · intro h_score
    by_contra h_far
    rw [not_le] at h_far
    refine (nearest_percentage_lt (Binary64.nearest_nonneg h_nonneg)
      (Binary64.nearest_le_pred_one h_nonneg h_far)).ne h_score
  · intro h_far
    have h_one : Binary64.nearest ((p : ℚ) / n) = 1 := Binary64.nearest_eq_one h_le h_far
    show Binary64.nearest (Binary64.nearest ((p : ℚ) / n) * 100) = 100
    rw [h_one]
    decide +kernel

/-! ### Measured results -/

/-- The gate says the same of the result with a threshold of 100, its own or that of the
policy, as without any. -/
structure ZeroToleranceAgrees (r : QualityRuleResult ℚ) : Prop where
  verdict : ∀ (policy policy' : ScoringPolicy ℚ) (threshold threshold' : Option ℚ),
    policy.minCriticalConfidence = policy'.minCriticalConfidence →
    threshold.or policy.criticalAcceptanceThreshold = some 100 →
    threshold'.or policy'.criticalAcceptanceThreshold = none →
    isCriticalViolated { r with acceptanceThreshold := threshold } policy =
      isCriticalViolated { r with acceptanceThreshold := threshold' } policy'

/-- The violations of a measured result are what its denominator has besides the passed
records, and it has the score 100 if there are none. -/
structure MeasuredCounts (rule : QualityRule ℚ) (counts : RuleCounts) (r : QualityRuleResult ℚ) :
    Prop where
  violations : ∃ n, calculateDenominator counts rule.nullPolicy = .ok n ∧ counts.passed ≤ n ∧
    r.violationsCount = n - counts.passed
  perfect : r.computedScore = some 100 ↔ r.violationsCount = 0
  gate : ZeroToleranceAgrees r

/-- The records of a denominator that have not passed. -/
def notPassed (nullPolicy : String) (counts : RuleCounts) : ℕ :=
  if nullPolicy = "fail" then counts.failed + counts.miscast + counts.missing
  else counts.failed + counts.miscast

/-- Records that have not passed are more than one in `2 ^ 54`. -/
def RoundsBelow (nullPolicy : String) (counts : RuleCounts) : Prop :=
  0 < notPassed nullPolicy counts →
    counts.passed + notPassed nullPolicy counts < 2 ^ 54 * notPassed nullPolicy counts

/-- The violations are what did not pass under the null policy. -/
theorem violationsOf_eq (rule : QualityRule ℚ) (counts : RuleCounts) :
    violationsOf rule counts = notPassed rule.nullPolicy counts := by
  unfold violationsOf notPassed
  split <;> omega

/-- A perfect score without violations is what the gate looks at. -/
theorem zeroToleranceAgrees_of_score {r : QualityRuleResult ℚ} {x : ℚ}
    (h_score : r.computedScore = some x) (h_le : x ≤ 100)
    (h_perfect : x = 100 ↔ r.violationsCount = 0) : ZeroToleranceAgrees r := by
  constructor
  intro policy policy' threshold threshold' h_confidence h_hundred h_none
  have h_verdict : r.computedScore.any (· < (100 : ℚ)) = decide (r.violationsCount > 0) := by
    rw [h_score, Option.any_some, decide_eq_decide, h_le.lt_iff_ne, ne_eq, h_perfect]
    omega
  simp only [isCriticalViolated, h_confidence, h_hundred, h_none, h_verdict]

/-- A result of scored counts: measured if there are any records, with the violations and the
score of its counts. -/
structure ScoredCounts (rule : QualityRule ℚ) (counts : RuleCounts) (r : QualityRuleResult ℚ)
    (n : ℕ) : Prop where
  denominator : calculateDenominator counts rule.nullPolicy = .ok n
  violations : r.violationsCount = violationsOf rule counts
  measured : r.measurementStatus = .measured ↔ n ≠ 0
  score : n ≠ 0 → r.computedScore = some (percent counts.passed n)

/-- A result is measured only on counts that are scored. -/
theorem scoredCounts_of_ok {rule : QualityRule ℚ} {out : RuleExecutionOutput}
    {r : QualityRuleResult ℚ} (h : processRuleResultIn .binary64 rule out = .ok r) :
    IsScored out ∧ (∃ n, ScoredCounts rule out.counts r n) ∨
      ¬ IsScored out ∧ r.measurementStatus ≠ .measured := by
  obtain ⟨targetColumn, status, score, violations, errorMessage, rfl, h_outcome, -⟩ :=
    processRuleResult_ok h
  cases h_outcome with
  | technicalFailure h_failed =>
    refine Or.inr ⟨?_, nofun⟩
    rintro ⟨h_status, -⟩
    rw [h_failed] at h_status
    cases h_status
  | unscored _ h_status => exact Or.inr ⟨fun h_scored => h_status h_scored.1, h_status⟩
  | brokenPartition _ h_broken =>
    refine Or.inr ⟨?_, nofun⟩
    rintro ⟨-, h_partition⟩
    rw [h_broken] at h_partition
    cases h_partition
  | scored h_status h_partition h_score =>
    refine Or.inl ⟨⟨h_status, h_partition⟩, ?_⟩
    cases h_den : calculateDenominator out.counts rule.nullPolicy with
    | error e =>
      rw [computeRuleScoreIn, h_den] at h_score
      cases h_score
    | ok n =>
      rw [computeRuleScoreIn_of_denominator _ h_den] at h_score
      by_cases hn : n = 0
      · rw [if_pos hn] at h_score
        cases h_score
        exact ⟨n, h_den, rfl, ⟨nofun, fun h_ne => absurd hn h_ne⟩, fun h_ne => absurd hn h_ne⟩
      · rw [if_neg hn] at h_score
        cases h_score
        exact ⟨n, h_den, rfl, ⟨fun _ => hn, fun _ => rfl⟩, fun _ => rfl⟩

/-- A measured result has the counts of its denominator exactly if its score is not rounded up
to 100. -/
theorem ScoredCounts.measuredCounts_iff {rule : QualityRule ℚ} {counts : RuleCounts}
    {r : QualityRuleResult ℚ} {n : ℕ} (h : ScoredCounts rule counts r n) :
    (r.measurementStatus = .measured → MeasuredCounts rule counts r) ↔
      RoundsBelow rule.nullPolicy counts := by
  have h_le := passed_le_denominator h.denominator
  have h_sum := violationsOf_add_passed h.denominator
  have h_violations := h.violations
  rw [h.measured, RoundsBelow, ← violationsOf_eq]
  constructor
  · intro h_counts h_some
    have hn : n ≠ 0 := by omega
    have h_perfect := (h_counts hn).perfect
    rw [h.score hn, Option.some_inj, percent_eq_hundred_iff h_le hn] at h_perfect
    by_contra h_far
    have h_none := h_perfect.mp (by
      have h_rest : n - counts.passed = violationsOf rule counts := by omega
      rw [h_rest]
      omega)
    omega
  · intro h_round hn
    have h_perfect : percent counts.passed n = 100 ↔ r.violationsCount = 0 := by
      rw [percent_eq_hundred_iff h_le hn]
      omega
    refine ⟨⟨n, h.denominator, h_le, by omega⟩, ?_,
      zeroToleranceAgrees_of_score (h.score hn) (percent_le h_le) h_perfect⟩
    rw [h.score hn, Option.some_inj]
    exact h_perfect

/-! ### One result for each rule -/

section Results

variable {α : Type} [Field α] {ar : Arithmetic α}

/-- A processed result keeps the id of its rule. -/
theorem ruleId_of_ok {rule : QualityRule α} {out : RuleExecutionOutput} {r : QualityRuleResult α}
    (h : processRuleResultIn ar rule out = .ok r) : r.ruleId = rule.ruleId.str := by
  obtain ⟨_, _, _, _, _, rfl, _⟩ := processRuleResult_ok h
  rfl

/-- The results are those of the rules, in their order, whatever the outputs are. -/
theorem validateRuleset_ok {rules : List (QualityRule α)} {outputs : List RuleExecutionOutput}
    {results : List (QualityRuleResult α)} (h : validateRulesetIn ar rules outputs = .ok results) :
    List.Forall₂ (fun rule r => r.ruleId = rule.ruleId.str ∧
      processRuleResultIn ar rule (outputFor outputs rule.ruleId) = .ok r) rules results :=
  (mapM_eq_ok_iff.mp h).imp fun _ _ h_ok => ⟨ruleId_of_ok h_ok, h_ok⟩

end Results

/-- The service has one result for each rule, in their order, and the measured ones have the
counts of their denominators. -/
def CountsAgree (rules : List (QualityRule ℚ)) (outputs : List RuleExecutionOutput) : Prop :=
  ∃ results, validateRulesetIn .binary64 rules outputs = .ok results ∧
    List.Forall₂ (fun rule r => r.ruleId = rule.ruleId.str ∧ (r.measurementStatus = .measured →
      MeasuredCounts rule (outputFor outputs rule.ruleId).counts r)) rules results

/-- A rule and its output: a text or nothing for a target column and, if the counts are scored, a
supported null policy and a score that is not rounded up to 100. -/
def RuleCountsAgree (rule : QualityRule ℚ) (out : RuleExecutionOutput) : Prop :=
  HasValidTarget rule ∧ (IsScored out →
    SupportedNullPolicy rule.nullPolicy ∧ RoundsBelow rule.nullPolicy out.counts)

/-- The condition of one rule. -/
theorem ruleCountsAgree_iff (rule : QualityRule ℚ) (out : RuleExecutionOutput) :
    RuleCountsAgree rule out ↔ ∃ r, processRuleResultIn .binary64 rule out = .ok r ∧
      (r.measurementStatus = .measured → MeasuredCounts rule out.counts r) := by
  constructor
  · rintro ⟨h_target, h_scored⟩
    obtain ⟨r, h_ok⟩ : ∃ r, processRuleResultIn .binary64 rule out = .ok r :=
      processRuleResult_isOk_of_scored h_target fun h_is => (h_scored h_is).1
    refine ⟨r, h_ok, ?_⟩
    rcases scoredCounts_of_ok h_ok with ⟨h_is, n, h_counts⟩ | ⟨-, h_not⟩
    · exact h_counts.measuredCounts_iff.mpr (h_scored h_is).2
    · exact fun h_measured => absurd h_measured h_not
  · rintro ⟨r, h_ok, h_measured⟩
    obtain ⟨c, _, _, _, _, -, -, h_target⟩ := processRuleResult_ok h_ok
    refine ⟨⟨c, h_target⟩, fun h_is => ?_⟩
    rcases scoredCounts_of_ok h_ok with ⟨-, n, h_counts⟩ | ⟨h_not, -⟩
    · refine ⟨?_, h_counts.measuredCounts_iff.mp h_measured⟩
      by_contra h_policy
      have h_den := h_counts.denominator
      rw [calculateDenominator_unsupported h_policy] at h_den
      cases h_den
    · exact absurd h_is h_not

/-- **Violations and scores count the same records**, and each rule has its result, exactly for
rules with a text or nothing for a target column, a supported null policy and counts whose score
is not rounded up to 100. -/
theorem validation_results_iff (rules : List (QualityRule ℚ)) (outputs : List RuleExecutionOutput) :
    CountsAgree rules outputs ↔
      ∀ rule ∈ rules, RuleCountsAgree rule (outputFor outputs rule.ruleId) := by
  constructor
  · rintro ⟨results, h_ok, h_each⟩ rule h_rule
    obtain ⟨r, -, h_result, h_measured⟩ := exists_right_of_mem
      (List.Forall₂.mp (fun _ _ h_ok h_counts => And.intro h_ok.2 h_counts.2)
        (validateRuleset_ok h_ok) h_each) h_rule
    exact (ruleCountsAgree_iff _ _).mpr ⟨r, h_result, h_measured⟩
  · intro h_rules
    obtain ⟨results, h_each⟩ := exists_forall₂ fun rule h_rule =>
      (ruleCountsAgree_iff _ _).mp (h_rules rule h_rule)
    exact ⟨results, mapM_eq_ok_iff.mpr (h_each.imp fun _ _ h => h.1),
      h_each.imp fun _ _ h => ⟨ruleId_of_ok h.1, h.2⟩⟩

/-! ### A target column that is no text -/

/-- A rule for the column 5. -/
def numberedColumn : CreateQualityRuleInput ℚ where
  ruleCode := "FIVE_PRESENT"
  dimension := "COMPLETENESS"
  ruleType := "NON_NULL"
  parameters := [("column", .int 5)]
  contributionWeight := 1

/-- The API accepts the rule, and the service raises on every list of outputs. -/
theorem numberedColumn_raises :
    numberedColumn.modelValidate literalPython = .ok numberedColumn ∧
      ∀ outputs, ∃ e, validateRulesetIn .binary64
        [numberedColumn.toRule (Uuid.repeated 1)] outputs = .error e := by
  refine ⟨rfl, fun outputs => ?_⟩
  refine mapM_error_of_mem List.mem_cons_self (processRuleResult_of_invalid ?_ _)
  rintro ⟨c, ⟨⟩⟩

end DqScoring
