import DqScoring.Compute.Partition

/-!
# Rule fault containment

`execute_rules` is to measure every rule as if the faulty ones were not in the list. It
checks each rule by itself for this, but the rules that pass share one query, and what
the checks miss stops the query for all of them. `faultsContained_iff` says what that is:
a rule that makes the query raise (`NoneRaises`). The pattern of a JSON field rule is
tried before the query (`PassesChecks.not_startFault`); the pattern of a DOMAIN_RANGE
rule is not (`domainPattern_stopsRun`).
-/

namespace DqScoring

variable {α δ : Type} [LinearOrder δ] {rt : Runtime δ} {snapshot : Snapshot}

/-- The parameters of a rule are invalid on a snapshot: the rule does not compile, one of
its columns is missing, or the query cannot start with its pattern, format or values. -/
def HasInvalidParameters (rt : Runtime δ) (snapshot : Snapshot) (rule : QualityRule α) : Prop :=
  (∃ e, compileRule rt rule = .error e) ∨
    (∃ cr, compileRule rt rule = .ok cr ∧
      ∃ c ∈ cr.referencedColumns, c ∉ snapshot.data.columns) ∨
    StartFault rt rule

/-- The rules of a list other than one. -/
def otherRules (rules : List (QualityRule α)) (rule : QualityRule α) : List (QualityRule α) :=
  rules.filter fun r => r.ruleId ≠ rule.ruleId

/-- Every rule has one output, a rule with invalid parameters is not measured, and the
other outputs are those of a run without it. -/
def FaultsContained (rt : Runtime δ) (snapshot : Snapshot) (rules : List (QualityRule α))
    (sampleLimit : ℕ) : Prop :=
  ∃ outputs, executeRules rt snapshot rules sampleLimit = .ok outputs ∧
    outputs.map (·.ruleId) = rules.map (·.ruleId) ∧
    ∀ rule ∈ rules, HasInvalidParameters rt snapshot rule →
      (∀ out ∈ outputs, out.ruleId = rule.ruleId → out.status = .failedToMeasure) ∧
      executeRules rt snapshot (otherRules rules rule) sampleLimit =
        .ok (outputs.filter fun out => out.ruleId ≠ rule.ruleId)

/-- A rule with invalid parameters that does not make the query raise is refused by its
check. -/
theorem checkRule_of_invalid {rules : List (QualityRule α)} {rule : QualityRule α}
    (h_rule : rule ∈ rules) (h_quiet : NoneRaises rt snapshot rules)
    (h_invalid : HasInvalidParameters rt snapshot rule) :
    ∃ message, checkRule rt snapshot rule = .error message := by
  cases h_check : checkRule rt snapshot rule with
  | error message => exact ⟨message, rfl⟩
  | ok cr =>
    have h_passes : PassesChecks rt snapshot rule cr := checkRule_ok_iff.mp h_check
    rcases h_invalid with ⟨e, h_e⟩ | ⟨cr', h_compile, c, h_c, h_absent⟩ | h_start
    · rw [h_passes.compiles] at h_e
      cases h_e
    · -- the compiled form is the one whose columns were checked
      obtain rfl := Except.ok.inj (h_passes.compiles.symm.trans h_compile)
      exact absurd (h_passes.columns c h_c) h_absent
    · exact absurd h_start (h_quiet rule h_rule cr h_passes).1

/-- A refused rule is not part of the query. -/
theorem measuredRules_otherRules {rules : List (QualityRule α)} {rule : QualityRule α}
    {message : String} (h_ids : (rules.map (·.ruleId)).Nodup) (h_rule : rule ∈ rules)
    (h_check : checkRule rt snapshot rule = .error message) :
    measuredRules rt snapshot (otherRules rules rule) = measuredRules rt snapshot rules := by
  rw [measuredRules, otherRules, List.filterMap_filter]
  refine List.filterMap_congr fun r h_r => ?_
  by_cases h_same : r.ruleId = rule.ruleId
  -- the rule that is left out is refused, and the others are kept
  · obtain rfl := List.inj_on_of_nodup_map h_ids h_r h_rule h_same
    simp [h_check, Except.toOption]
  · simp [h_same]

theorem nodup_otherRules {rules : List (QualityRule α)} (rule : QualityRule α)
    (h_ids : (rules.map (·.ruleId)).Nodup) : ((otherRules rules rule).map (·.ruleId)).Nodup :=
  h_ids.sublist (List.filter_sublist.map _)

/-- Where no rule makes the query raise, faults are contained. -/
theorem faultsContained_of_quiet {rules : List (QualityRule α)} {sampleLimit : ℕ}
    (h_rows : snapshot.totalRows ≠ 0) (h_ids : (rules.map (·.ruleId)).Nodup)
    (h_quiet : NoneRaises rt snapshot rules) :
    FaultsContained rt snapshot rules sampleLimit := by
  have h_fault := queryFault_eq_none.mpr h_quiet
  let output := ruleOutput (α := α) rt snapshot sampleLimit (queryRows rt snapshot rules)
  have h_ruleId : ∀ r, (output r).ruleId = r.ruleId := ruleOutput_ruleId sampleLimit _
  have h_run : executeRules rt snapshot rules sampleLimit = .ok (rules.map output) := by
    rw [executeRules_eq h_rows h_ids, h_fault]
    rfl
  refine ⟨_, h_run, ?_, fun rule h_rule h_invalid => ⟨?_, ?_⟩⟩
  · rw [List.map_map]
    exact List.map_congr_left fun r _ => h_ruleId r
  · obtain ⟨message, h_check⟩ := checkRule_of_invalid h_rule h_quiet h_invalid
    have h_output : output rule = failedOutput rule.ruleId message := by
      simp only [output, ruleOutput, h_check]
    intro out h_out h_id
    obtain ⟨r, h_r, rfl⟩ := List.mem_map.mp h_out
    -- ids are distinct, so this is the output of the rule
    obtain rfl := List.inj_on_of_nodup_map h_ids h_r h_rule ((h_ruleId r).symm.trans h_id)
    rw [h_output]
    rfl
  · -- a refused rule is not in the query, so without it the query is the same
    obtain ⟨message, h_check⟩ := checkRule_of_invalid h_rule h_quiet h_invalid
    have h_measured := measuredRules_otherRules h_ids h_rule h_check
    rw [executeRules_eq h_rows (nodup_otherRules rule h_ids), h_measured, h_fault, List.filter_map]
    refine congrArg (fun l => Except.ok (l.map output)) (List.filter_congr fun r _ => ?_)
    rw [Function.comp_apply, h_ruleId]

/-- **When faults are contained**: exactly when no rule that passes the checks makes the
query raise; on an empty snapshot, where nothing is measured, when no rule is faulty. -/
theorem faultsContained_iff {rules : List (QualityRule α)} {sampleLimit : ℕ}
    (h_ids : (rules.map (·.ruleId)).Nodup) :
    FaultsContained rt snapshot rules sampleLimit ↔
      (snapshot.totalRows = 0 → ∀ rule ∈ rules, ¬ HasInvalidParameters rt snapshot rule) ∧
      (snapshot.totalRows ≠ 0 → NoneRaises rt snapshot rules) := by
  by_cases h_empty : snapshot.totalRows = 0
  · have h_run : executeRules rt snapshot rules sampleLimit = .ok _ :=
      executeRules_of_noRows h_empty
    simp only [h_empty, forall_const, ne_eq, not_true_eq_false, false_implies, and_true]
    constructor
    -- a faulty rule would be NOT_MEASURABLE instead of FAILED_TO_MEASURE
    · rintro ⟨outputs, h_outputs, _, h_contained⟩ rule h_rule h_invalid
      obtain rfl := Except.ok.inj (h_run.symm.trans h_outputs)
      have h_status := (h_contained rule h_rule h_invalid).1 _ (List.mem_map_of_mem h_rule) rfl
      cases h_status
    · intro h_valid
      refine ⟨_, h_run, ?_, fun rule h_rule h_invalid => absurd h_invalid (h_valid rule h_rule)⟩
      rw [List.map_map]
      exact List.map_congr_left fun r _ => rfl
  · simp only [h_empty, false_implies, true_and, ne_eq, not_false_eq_true, forall_const]
    constructor
    · rintro ⟨outputs, h_outputs, _⟩
      rw [executeRules_eq h_empty h_ids] at h_outputs
      rw [← queryFault_eq_none]
      cases h_fault : queryFault (measuredRules rt snapshot rules)
          (evalRows (measuredRules rt snapshot rules) snapshot.data.rows) with
      | none => rfl
      | some fault =>
        rw [h_fault] at h_outputs
        cases h_outputs
    · exact faultsContained_of_quiet h_empty h_ids

/-! ### A pattern that stops a run -/

/-- A request for a rule whose pattern is not a regular expression. -/
def patternInput : CreateQualityRuleInput ℚ where
  ruleCode := "STATUS_FORMAT"
  dimension := "VALIDITY"
  ruleType := "DOMAIN_RANGE"
  parameters := [("column", .str "status"), ("pattern", .str "(")]
  contributionWeight := 1

/-- The rules of the two requests. -/
def patternRules : List (QualityRule ℚ) :=
  [patternInput.toRule (Uuid.repeated 1), (filledInput "status").toRule (Uuid.repeated 2)]

/-- A rule on a column that the dataset lacks, beside one on a column that it has. -/
def missingColumnRules : List (QualityRule ℚ) :=
  [(filledInput "state").toRule (Uuid.repeated 1), (filledInput "status").toRule (Uuid.repeated 2)]

/-- The fault of the first rule is contained. -/
theorem faultsContained_missingColumn :
    HasInvalidParameters literalRuntime oneRow ((filledInput "state").toRule (Uuid.repeated 1)) ∧
      FaultsContained literalRuntime oneRow missingColumnRules 50 := by
  refine ⟨.inr (.inl ⟨_, rfl, "state", List.mem_cons_self, by decide⟩),
    (faultsContained_iff (by decide)).mpr ⟨fun h_empty => absurd h_empty (by decide), fun _ => ?_⟩⟩
  refine noneRaises_of_filled fun rule h_rule => ?_
  rcases List.mem_pair.mp h_rule with rfl | rfl <;> rfl

/-- The API accepts both rules, the second alone is measured, and together neither is. -/
theorem domainPattern_stopsRun :
    (patternInput.modelValidate literalPython).map (·.toRule (Uuid.repeated 1)) =
        .ok (patternInput.toRule (Uuid.repeated 1)) ∧
      ((filledInput "status").modelValidate literalPython).map (·.toRule (Uuid.repeated 2)) =
        .ok ((filledInput "status").toRule (Uuid.repeated 2)) ∧
      executeRules literalRuntime oneRow [(filledInput "status").toRule (Uuid.repeated 2)] 50 =
        .ok [{ ruleId := Uuid.repeated 2, counts := { passed := 1, totalObserved := 1 } }] ∧
      executeRules literalRuntime oneRow patternRules 50 = .error .regexInvalid ∧
      ¬ FaultsContained literalRuntime oneRow patternRules 50 := by
  have h_run : executeRules literalRuntime oneRow patternRules 50 = .error .regexInvalid := by
    decide +kernel
  refine ⟨rfl, rfl, by decide +kernel, h_run, ?_⟩
  rintro ⟨outputs, h_outputs, _⟩
  rw [h_run] at h_outputs
  cases h_outputs

end DqScoring
