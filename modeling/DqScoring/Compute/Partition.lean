import DqScoring.Compute.Execution
import DqScoring.Presentation.RulesetSchemas

/-!
# Every row is counted once

The five conditions that are summed for a rule exclude each other, and together they hold
on every row, unless a guard is NULL. `countsEachRowOnce_iff` says when `execute_rules`
counts every row of the dataset in exactly one bucket of a rule: the query must not
raise, the rule must be measured, and no row may be lost. A row is lost to a rule with
allowed values when NULL is among the values and the cell is none of them: the row
neither passes nor fails.
-/

namespace DqScoring

open Framework.Kleene

variable {α δ : Type} [LinearOrder δ] {rt : Runtime δ} {snapshot : Snapshot}

/-- The five counts, in the order of the buckets. -/
def RuleCounts.toList (counts : RuleCounts) : List ℕ :=
  [counts.notApplicable, counts.missing, counts.miscast, counts.failed, counts.passed]

theorem CompiledRule.counts_toList (cr : CompiledRule) (rows : List Row) :
    (cr.counts rows).toList = cr.buckets.map fun b => b.count rows := rfl

/-- The rows over which the query of some rules runs. -/
def queryRows (rt : Runtime δ) (snapshot : Snapshot) (rules : List (QualityRule α)) : List Row :=
  evalRows (measuredRules rt snapshot rules) snapshot.data.rows

/-- The output of a rule counts every row of the dataset in exactly one of its buckets. -/
def CountsEachRowOnce (rt : Runtime δ) (snapshot : Snapshot) (rules : List (QualityRule α))
    (sampleLimit : ℕ) (rule : QualityRule α) (cr : CompiledRule) : Prop :=
  ∃ outputs, executeRules rt snapshot rules sampleLimit = .ok outputs ∧
    ∃ out ∈ outputs, out.ruleId = rule.ruleId ∧
      out.counts.toList = cr.buckets.map (fun b => b.count (queryRows rt snapshot rules)) ∧
      (∀ row ∈ queryRows rt snapshot rules,
        (cr.buckets.countP fun b => b.value row = some true) = 1) ∧
      out.counts.toList.sum = snapshot.data.rows.length

/-- On a row on which no guard fails, exactly one bucket counts it unless it is lost. -/
theorem countP_buckets {rule : QualityRule α} {cr : CompiledRule} {row : Row}
    (h_compile : compileRule rt rule = .ok cr)
    (h_quiet : ¬ CellFault rt rule (row.cell cr.targetColumn)) :
    (cr.buckets.countP fun b => b.value row = some true) = 1 ↔
      ¬ LosesCell rt rule (row.cell cr.targetColumn) := by
  have h_behaves := (compileRule_behaves h_compile).behaves
  have h_values : (cr.buckets.countP fun b => b.value row = some true) =
      (cascade (cr.guards.map (·.value row))).countP (· = some true) := by
    rw [CompiledRule.buckets_eq, ← Column.values_cascade, List.countP_map]
    rfl
  rw [h_values, countP_cascade_eq_one_iff]
  exact h_behaves.decided_iff row h_quiet

/-- The output of a rule among those of an execution. -/
theorem exists_output_iff {rules : List (QualityRule α)} {rule : QualityRule α}
    {output : QualityRule α → RuleExecutionOutput} (h_ids : (rules.map (·.ruleId)).Nodup)
    (h_rule : rule ∈ rules) (h_output : ∀ r, (output r).ruleId = r.ruleId)
    (p : RuleExecutionOutput → Prop) :
    (∃ out ∈ rules.map output, out.ruleId = rule.ruleId ∧ p out) ↔ p (output rule) := by
  constructor
  · rintro ⟨out, h_out, h_id, h_p⟩
    obtain ⟨r, h_r, rfl⟩ := List.mem_map.mp h_out
    have h_same : r = rule :=
      List.inj_on_of_nodup_map h_ids h_r h_rule ((h_output r).symm.trans h_id)
    exact h_same ▸ h_p
  · exact fun h_p => ⟨_, List.mem_map_of_mem h_rule, h_output rule, h_p⟩

/-- A rule without counts counts every row only where there are none. -/
theorem unmeasured_iff {rules : List (QualityRule α)} (cr : CompiledRule) :
    (({} : RuleCounts).toList = cr.buckets.map (fun b => b.count (queryRows rt snapshot rules)) ∧
      (∀ row ∈ queryRows rt snapshot rules,
        (cr.buckets.countP fun b => b.value row = some true) = 1) ∧
      ({} : RuleCounts).toList.sum = snapshot.data.rows.length) ↔ snapshot.data.rows = [] := by
  constructor
  · rintro ⟨_, _, h_sum⟩
    exact List.length_eq_zero_iff.mp h_sum.symm
  · intro h_rows
    have h_query : queryRows rt snapshot rules = [] := by
      rw [← List.length_eq_zero_iff, queryRows, length_evalRows, h_rows]
      rfl
    simp [h_query, h_rows, RuleCounts.toList, CompiledRule.buckets, Column.count]

/-- A measured rule counts every row once when it loses none. -/
theorem measured_iff {rules : List (QualityRule α)} {rule : QualityRule α} {cr : CompiledRule}
    (h_rule : rule ∈ rules) (h_passes : PassesChecks rt snapshot rule cr)
    (h_quiet : NoneRaises rt snapshot rules) :
    ((cr.counts (queryRows rt snapshot rules)).toList =
        cr.buckets.map (fun b => b.count (queryRows rt snapshot rules)) ∧
      (∀ row ∈ queryRows rt snapshot rules,
        (cr.buckets.countP fun b => b.value row = some true) = 1) ∧
      (cr.counts (queryRows rt snapshot rules)).toList.sum = snapshot.data.rows.length) ↔
    ∀ row ∈ snapshot.data.rows, ¬ LosesCell rt rule (row.cell cr.targetColumn) := by
  have h_cells := (h_quiet rule h_rule cr h_passes).2
  -- the query reads the same cells as the dataset
  have h_query_cells : ∀ row ∈ queryRows rt snapshot rules,
      ¬ CellFault rt rule (row.cell cr.targetColumn) :=
    (forall_evalRows _ _ fun cell => ¬ CellFault rt rule (cell cr.targetColumn)).mpr h_cells
  have h_once : (∀ row ∈ queryRows rt snapshot rules,
      (cr.buckets.countP fun b => b.value row = some true) = 1) ↔
        ∀ row ∈ snapshot.data.rows, ¬ LosesCell rt rule (row.cell cr.targetColumn) := by
    rw [← forall_evalRows (measuredRules rt snapshot rules) snapshot.data.rows
      fun cell => ¬ LosesCell rt rule (cell cr.targetColumn)]
    exact forall₂_congr fun row h_row => countP_buckets h_passes.compiles (h_query_cells row h_row)
  rw [h_once]
  refine ⟨fun h => h.2.1, fun h => ⟨cr.counts_toList _, h, ?_⟩⟩
  -- one condition a row, so the sums of the conditions count the rows
  rw [CompiledRule.counts_toList]
  exact (sum_countP_of_one (h_once.mpr h)).trans (length_evalRows ..)

/-- **When every row is counted once**: exactly when no rule of the list makes the query
raise, and the rule is measured and loses no row, or there are no rows. -/
theorem countsEachRowOnce_iff {rules : List (QualityRule α)} {sampleLimit : ℕ}
    {rule : QualityRule α} {cr : CompiledRule} (h_ids : (rules.map (·.ruleId)).Nodup)
    (h_rule : rule ∈ rules) (h_compile : compileRule rt rule = .ok cr) :
    CountsEachRowOnce rt snapshot rules sampleLimit rule cr ↔
      (snapshot.totalRows ≠ 0 → NoneRaises rt snapshot rules) ∧
      (snapshot.totalRows ≠ 0 ∧ PassesChecks rt snapshot rule cr →
        ∀ row ∈ snapshot.data.rows, ¬ LosesCell rt rule (row.cell cr.targetColumn)) ∧
      (¬ (snapshot.totalRows ≠ 0 ∧ PassesChecks rt snapshot rule cr) →
        snapshot.data.rows = []) := by
  unfold CountsEachRowOnce
  by_cases h_empty : snapshot.totalRows = 0
  · -- nothing is measured
    simp only [executeRules_of_noRows h_empty, Except.ok.injEq, exists_eq_left', h_empty]
    rw [exists_output_iff h_ids h_rule (fun r => rfl), unmeasured_iff]
    simp
  · have h_iff : PassesChecks rt snapshot rule cr ↔ checkRule rt snapshot rule = .ok cr :=
      checkRule_ok_iff.symm
    rw [executeRules_eq h_empty h_ids]
    cases h_fault : queryFault (measuredRules rt snapshot rules)
        (evalRows (measuredRules rt snapshot rules) snapshot.data.rows) with
    | some fault =>
      -- there are no outputs, and the condition fails by its first part
      have h_raises : ¬ NoneRaises rt snapshot rules := by
        rw [← queryFault_eq_none, h_fault]
        exact Option.some_ne_none fault
      simp [h_empty, h_raises]
    | none =>
      have h_quiet : NoneRaises rt snapshot rules := queryFault_eq_none.mp h_fault
      simp only [Except.ok.injEq, exists_eq_left']
      rw [exists_output_iff h_ids h_rule (ruleOutput_ruleId sampleLimit _), ruleOutput]
      cases h_check : checkRule rt snapshot rule with
      | error message =>
        -- the output of a refused rule counts nothing
        have h_refused : ¬ PassesChecks rt snapshot rule cr := by simp [h_iff, h_check]
        exact (unmeasured_iff cr).trans (by simp [h_quiet, h_refused])
      | ok cr' =>
        -- the check compiles the rule to the same conditions
        have h_same : cr' = cr :=
          Except.ok.inj ((checkRule_ok_iff.mp h_check).compiles.symm.trans h_compile)
        have h_passes : PassesChecks rt snapshot rule cr := h_same ▸ checkRule_ok_iff.mp h_check
        subst h_same
        exact (measured_iff h_rule h_passes h_quiet).trans (by simp [h_empty, h_quiet, h_passes])

/-! ### A row that is lost -/

/-- Python on the texts below. -/
def literalPython : Python ℚ where
  upper := id
  lower := id
  repr := fun _ => ""
  errorText := fun _ => ""
  parseInt := fun _ => none
  parseFloat := fun _ => none
  ofRat := .ok
  decimal := fun _ => none

/-- Spark on the texts below: a lone parenthesis is not a regular expression. -/
def literalSpark : Spark ℚ where
  validRegex := fun p => p != "("
  rlike := fun _ _ => false
  validDatetimePattern := fun _ => true
  tryToTimestamp := fun _ _ => none
  year := id
  tryCastDouble := fun _ => none
  tryCastBigint := fun _ => none
  -- a literal is a text or a null
  hasLiteral := fun v => v.isNone || v.text?.isSome
  comparable := fun values => values.all fun v => v.isNone || v.text?.isSome
  castable := fun _ _ => true
  equalsLiteral := fun _ s v => v.text?.any fun t => decide (s = t)
  text_comparison := by
    intro values h_texts
    refine ⟨?_, fun s => ⟨rfl, fun t => rfl⟩⟩
    rw [List.all_eq_true]
    intro v h_v
    rcases h_texts v h_v with h_none | ⟨s, rfl⟩
    · rw [h_none, Bool.true_or]
    · rfl
  validRegex_controlCharacter := by decide
  validRegex_mojibake := by decide

/-- The two, without dictionaries. -/
def literalRuntime : Runtime ℚ where
  python := literalPython
  spark := literalSpark
  parse := fun _ => .error (.structured "INVALID_JSON")
  spelling :=
    { normalize := id, category := fun _ => 'L', fromFiles := fun _ => .ok fun _ => .ok true }
  dictionaries := { configured := false, revision := none, verifiedFiles := [] }

/-- A request for a rule with NULL among its allowed values. -/
def allowedInput : CreateQualityRuleInput ℚ where
  ruleCode := "STATUS_KNOWN"
  dimension := "VALIDITY"
  ruleType := "DOMAIN_RANGE"
  parameters := [("column", .str "status"), ("allowed_values", .list [.str "active", .none])]
  contributionWeight := 1

/-- The rule of the request. -/
def allowedRule : QualityRule ℚ := allowedInput.toRule (Uuid.repeated 1)

/-- A snapshot of one row, whose status is another. -/
def oneRow : Snapshot where
  totalRows := 1
  data := { columns := ["status"], rows := [{ cell := fun _ => some "closed" }] }

/-- A request for a rule that every filled cell meets. -/
def filledInput (column : String) : CreateQualityRuleInput ℚ where
  ruleCode := "STATUS_FILLED"
  dimension := "COMPLETENESS"
  ruleType := "NON_NULL"
  parameters := [("column", .str column)]
  contributionWeight := 1

/-- A NON_NULL rule never makes the query raise. -/
theorem noneRaises_of_filled {snapshot : Snapshot} {rules : List (QualityRule ℚ)}
    (h : ∀ rule ∈ rules, ruleKind literalRuntime.python rule = some .nonNull) :
    NoneRaises literalRuntime snapshot rules := by
  intro rule h_rule cr _
  unfold StartFault CellFault
  rw [h rule h_rule]
  exact ⟨not_false, fun _ _ => not_false⟩

/-- The row of the snapshot is counted once by a rule that its cell passes. -/
theorem countsEachRowOnce_filledRule :
    ∃ cr, compileRule literalRuntime ((filledInput "status").toRule (Uuid.repeated 2)) = .ok cr ∧
      CountsEachRowOnce literalRuntime oneRow [(filledInput "status").toRule (Uuid.repeated 2)] 50
        ((filledInput "status").toRule (Uuid.repeated 2)) cr := by
  refine ⟨_, rfl, (countsEachRowOnce_iff (by decide) List.mem_cons_self rfl).mpr
    ⟨fun _ => noneRaises_of_filled fun rule h_rule => ?_, fun _ row _ h_loses => ?_,
      fun h_not => ?_⟩⟩
  · obtain rfl := List.mem_singleton.mp h_rule
    rfl
  · -- only a rule with allowed values loses a cell
    cases h_loses.1
  · exact absurd ⟨by decide, checkRule_ok_iff.mp rfl⟩ h_not

/-- The API accepts the rule, it compiles, its column is in the dataset, and no bucket
counts the row. -/
theorem allowedRule_losesRow :
    (allowedInput.modelValidate literalPython).map (·.toRule (Uuid.repeated 1)) =
        .ok allowedRule ∧
      ∃ cr, compileRule literalRuntime allowedRule = .ok cr ∧
        (∀ c ∈ cr.referencedColumns, c ∈ oneRow.data.columns) ∧
        ¬ CountsEachRowOnce literalRuntime oneRow [allowedRule] 50 allowedRule cr := by
  refine ⟨rfl, _, rfl, by decide, ?_⟩
  have h_run : executeRules literalRuntime oneRow [allowedRule] 50 =
      .ok [{ ruleId := Uuid.repeated 1, counts := {}, status := .notApplicable }] := by
    decide +kernel
  -- all counts are 0, so their sum is not the number of rows
  rintro ⟨outputs, h_outputs, out, h_out, _, _, _, h_sum⟩
  rw [h_run] at h_outputs
  cases h_outputs
  obtain rfl := List.mem_singleton.mp h_out
  cases h_sum

end DqScoring
