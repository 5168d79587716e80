import DqScoring.Compute.Containment
import DqScoring.Queue.RunSpecs

/-!
# The columns of an admitted run

`trigger_run` refuses a run whose rules name a column that the snapshot does not have, so
that no rule fails on a missing column. It collects the names under four keys of the
parameters, and `compile_rule` has a list of its own: the column that a CROSS_FIELD rule
compares with is under keys that are not among the four.

`ReadsSchemaOnly` is what the check is for. `admitted_iff` says when an admitted run has
it: when the compared columns (`Compares`), which nothing has checked, are columns too.
-/

namespace DqScoring

open Framework

variable {α δ : Type}

/-! ### What the compiler references -/

/-- The column that a CROSS_FIELD rule compares with, under the two spellings. -/
def comparedColumn (parameters : PyDict) : PyValue :=
  (parameters.get "comparison_column").orElse (parameters.get "compare_to")

/-- The rule compiles to a comparison with the column. -/
structure QualityRule.Compares (python : Python δ) (rule : QualityRule α) (other : String) :
    Prop where
  kind : ruleKind python rule = some .crossField
  target : ∃ name, name ≠ "" ∧ ruleTargetColumn rule = .str name
  operator : (comparators.lookup (python.upper (python.str
    (rule.parameters.getD "operator" (.str ">="))))).isSome = true
  other_ne : other ≠ ""
  other_eq : comparedColumn rule.parameters = .str other

/-- What a compiled comparison has established. -/
theorem fieldComparison_ok {python : Python δ} {ruleCode : String} {params : PyDict}
    {comparison : FieldComparison} (h : fieldComparison python ruleCode params = .ok comparison) :
    comparison.column = comparedColumn params ∧ (comparedColumn params).truthy = true ∧
      (comparators.lookup (python.upper (python.str
        (params.getD "operator" (.str ">="))))).isSome = true := by
  unfold fieldComparison at h
  simp only at h
  split at h
  case isTrue => cases h
  case isFalse h_truthy =>
    split at h
    case h_1 => cases h
    case h_2 comparator h_lookup =>
      cases h
      exact ⟨rfl, Bool.eq_true_of_not_eq_false h_truthy, by rw [h_lookup]; rfl⟩

section Compiler

variable [LinearOrder δ] {rt : Runtime δ} {rule : QualityRule α} {cr : CompiledRule}

/-- A compiled comparison names two columns and an operator that exists. -/
theorem compileCrossField_columns {target : PyValue}
    (h : compileCrossField rt rule target = .ok cr) :
    ∃ name other, target = .str name ∧ comparedColumn rule.parameters = .str other ∧ other ≠ "" ∧
      (comparators.lookup (rt.python.upper (rt.python.str
        (rule.parameters.getD "operator" (.str ">="))))).isSome = true ∧
      cr.referencedColumns = [name, other] := by
  obtain ⟨comparison, h_comparison, h⟩ := ok_of_bind h
  obtain ⟨name, h_name, h⟩ := ok_of_bind h
  obtain ⟨other, h_other, h⟩ := ok_of_bind h
  cases h
  obtain ⟨h_column, h_truthy, h_operator⟩ := fieldComparison_ok h_comparison
  have h_compared : comparedColumn rule.parameters = .str other :=
    h_column.symm.trans (quotedCol_ok h_other)
  rw [h_compared] at h_truthy
  exact ⟨name, other, quotedCol_ok h_name, h_compared, PyValue.truthy_str.mp h_truthy,
    h_operator, rfl⟩

/-- The other compilers reference the target only. -/
theorem compile_columns {kind : RuleKind} {target : PyValue} (h_kind : kind ≠ .crossField)
    (h : kind.compile rt rule target = .ok cr) :
    ∃ name, target = .str name ∧ cr.referencedColumns = [name] := by
  -- every compiler but that of two columns quotes the target and reads no other
  cases kind with
  | crossField => exact absurd rfl h_kind
  | nonNull =>
    obtain ⟨name, h_name, h⟩ := ok_of_bind h
    cases h
    exact ⟨name, quotedCol_ok h_name, rfl⟩
  | uniqueness =>
    obtain ⟨name, h_name, h⟩ := ok_of_bind h
    cases h
    exact ⟨name, quotedCol_ok h_name, rfl⟩
  | typeParse =>
    obtain ⟨name, h_name, h⟩ := ok_of_bind h
    cases h
    exact ⟨name, quotedCol_ok h_name, rfl⟩
  | domainRange =>
    obtain ⟨name, h_name, h⟩ := ok_of_bind h
    obtain ⟨check, _, h⟩ := ok_of_bind h
    cases h
    exact ⟨name, quotedCol_ok h_name, rfl⟩
  | textQuality =>
    obtain ⟨params, _, h⟩ := ok_of_bind h
    obtain ⟨name, h_name, h⟩ := ok_of_bind h
    obtain ⟨_, _, h⟩ := ok_of_bind h
    cases h
    exact ⟨name, quotedCol_ok h_name, rfl⟩
  | jsonField =>
    obtain ⟨params, _, h⟩ := ok_of_bind h
    obtain ⟨name, h_name, h⟩ := ok_of_bind h
    -- a range is evaluated in Python, on the same column
    by_cases h_range : params.check = .range
    · rw [if_pos h_range] at h
      cases h
      exact ⟨name, quotedCol_ok h_name, rfl⟩
    · rw [if_neg h_range] at h
      cases h
      exact ⟨name, quotedCol_ok h_name, rfl⟩
  | jsonArray =>
    obtain ⟨params, _, h⟩ := ok_of_bind h
    obtain ⟨name, h_name, h⟩ := ok_of_bind h
    cases h
    exact ⟨name, quotedCol_ok h_name, rfl⟩
  | spelling =>
    obtain ⟨params, _, h⟩ := ok_of_bind h
    obtain ⟨bundle, _, h⟩ := ok_of_bind h
    obtain ⟨name, h_name, h⟩ := ok_of_bind h
    cases h
    exact ⟨name, quotedCol_ok h_name, rfl⟩

/-- **What a compiled rule references**: its target column, and the column that it compares
with. -/
theorem mem_referencedColumns_iff (h : compileRule rt rule = .ok cr) (c : String) :
    c ∈ cr.referencedColumns ↔ ruleTargetColumn rule = .str c ∨ rule.Compares rt.python c := by
  simp only [compileRule] at h
  split at h
  case isTrue => cases h
  case isFalse h_truthy =>
    split at h
    case h_1 => cases h
    case h_2 kind h_kind =>
      by_cases h_cross : kind = .crossField
      · subst h_cross
        obtain ⟨name, other, h_target, h_other, h_ne, h_operator, h_columns⟩ :=
          compileCrossField_columns h
        rw [h_target] at h_truthy
        have h_name : name ≠ "" := PyValue.truthy_str.mp (Bool.eq_true_of_not_eq_false h_truthy)
        rw [h_columns, List.mem_pair, h_target, PyValue.str.injEq]
        refine or_congr eq_comm ⟨?_, fun h_compares => ?_⟩
        · rintro rfl
          exact ⟨h_kind, ⟨name, h_name, h_target⟩, h_operator, h_ne, h_other⟩
        · exact PyValue.str.inj (h_compares.other_eq.symm.trans h_other)
      · obtain ⟨name, h_target, h_columns⟩ := compile_columns h_cross h
        rw [h_columns, List.mem_singleton, h_target, PyValue.str.injEq, eq_comm]
        refine (or_iff_left fun h_compares => ?_).symm
        exact h_cross (Option.some.inj (h_kind.symm.trans h_compares.kind))

/-- A rule that compares with a column compiles. -/
theorem QualityRule.Compares.compiles {other : String} (h : rule.Compares rt.python other) :
    ∃ cr, compileRule rt rule = .ok cr := by
  obtain ⟨name, h_name, h_target⟩ := h.target
  obtain ⟨comparator, h_comparator⟩ := Option.isSome_iff_exists.mp h.operator
  have h_truthy : (comparedColumn rule.parameters).truthy = true := by
    rw [h.other_eq]
    exact PyValue.truthy_str.mpr h.other_ne
  have h_comparison : ∃ comparison,
      fieldComparison rt.python rule.ruleCode rule.parameters = .ok comparison ∧
        comparison.column = .str other := by
    unfold fieldComparison
    rw [comparedColumn] at h_truthy
    simp only [h_truthy, Bool.true_eq_false, if_false, h_comparator]
    exact ⟨_, rfl, h.other_eq⟩
  obtain ⟨comparison, h_ok, h_column⟩ := h_comparison
  have h_target_truthy : (ruleTargetColumn rule).truthy = true := by
    rw [h_target]
    exact PyValue.truthy_str.mpr h_name
  unfold compileRule
  simp only [h_target_truthy, Bool.true_eq_false, if_false, h.kind, RuleKind.compile]
  unfold compileCrossField
  rw [h_ok, h_target]
  simp only [bind, Except.bind, h_column, quotedCol]
  exact ⟨_, rfl⟩

end Compiler

/-! ### The check of `trigger_run` -/

/-- The column under a key that `trigger_run` looks at is one that it has collected. -/
theorem mem_referencedBy {parameters : PyDict} {key c : String}
    (h_key : key ∈ ["column", "target_column", "left_column", "right_column"])
    (h : parameters.get key = .str c) : c ∈ referencedBy parameters := by
  unfold PyDict.get at h
  cases h_found : parameters.lookup key with
  | none =>
    rw [h_found] at h
    cases h
  | some v =>
    rw [h_found, Option.getD_some] at h
    subst h
    obtain ⟨before, after, h_entries, -⟩ := List.lookup_eq_some_iff.mp h_found
    refine List.mem_filterMap.mpr ⟨(key, .str c), List.mem_filter.mpr ⟨?_, ?_⟩, rfl⟩
    · rw [h_entries]
      exact List.mem_append_right before List.mem_cons_self
    · exact List.contains_iff_mem.mpr h_key

/-- The target column of a rule is among the columns that its parameters name. -/
theorem ruleTargetColumn_mem {rule : QualityRule α} {c : String}
    (h : ruleTargetColumn rule = .str c) : c ∈ referencedBy rule.parameters := by
  unfold ruleTargetColumn PyValue.orElse at h
  split at h
  · exact mem_referencedBy (by simp) h
  · exact mem_referencedBy (by simp) h

variable [Field α] [LinearOrder α]

/-- The schema of the snapshot has the column. -/
def ExecutionSpec.HasColumn (spec : ExecutionSpec α) (c : String) : Prop :=
  ∃ columns, schemaColumns spec.snapshot.schemaDefinition = .ok columns ∧ c ∈ columns

/-- The target column of every rule of an admitted run is a column of the snapshot. -/
theorem TriggeredFor.hasColumn {req : TriggerRunRequest} {currentUser : AuthenticatedUser}
    {runId : Uuid} {spec : ExecutionSpec α} (h : TriggeredFor req currentUser runId spec)
    {rule : QualityRule α} (h_rule : rule ∈ spec.rules) {c : String}
    (h_target : ruleTargetColumn rule = .str c) : spec.HasColumn c := by
  obtain ⟨columns, h_columns, -, h_checked⟩ := h.columns
  refine ⟨columns, h_columns, h_checked c (List.mem_append_left _ ?_)⟩
  exact List.mem_flatMap.mpr ⟨rule, h_rule, ruleTargetColumn_mem h_target⟩

/-! ### Admitted runs -/

section Admitted

variable [LinearOrder δ]

/-- The rule fails because the data lacks a column that it references. -/
def FailsOnMissingColumn (rt : Runtime δ) (snapshot : Snapshot) (rule : QualityRule α) : Prop :=
  ∃ cr, compileRule rt rule = .ok cr ∧ ∃ c ∈ cr.referencedColumns, c ∉ snapshot.data.columns

/-- The compiled rules reference columns of the schema only, and none fails on a missing
column of data with the columns of the schema. -/
structure ReadsSchemaOnly (rt : Runtime δ) (spec : ExecutionSpec α) : Prop where
  referenced : ∀ rule ∈ spec.rules, ∀ cr, compileRule rt rule = .ok cr →
    ∀ c ∈ cr.referencedColumns, spec.HasColumn c
  never_missing : ∀ snapshot : Snapshot, (∀ c, spec.HasColumn c → c ∈ snapshot.data.columns) →
    ∀ rule ∈ spec.rules, ¬ FailsOnMissingColumn rt snapshot rule

/-- **The columns of an admitted run** are columns of the snapshot exactly if the compared
columns of its CROSS_FIELD rules are. -/
theorem admitted_iff [IsStrictOrderedRing α] {reading : FloatReading α}
    {order : RowOrder (QualityRuleRow α)} {db : ConfigurationDb α} {req : TriggerRunRequest}
    {currentUser : AuthenticatedUser} {runId : Uuid} {spec : ExecutionSpec α} (rt : Runtime δ)
    (h : triggerRun reading order db req currentUser runId = .ok spec) :
    ReadsSchemaOnly rt spec ↔
      ∀ rule ∈ spec.rules, ∀ other, rule.Compares rt.python other → spec.HasColumn other := by
  have h_triggered := triggeredFor_of_ok h
  constructor
  · intro h_reads rule h_rule other h_compares
    obtain ⟨cr, h_compile⟩ := h_compares.compiles
    have h_mem := (mem_referencedColumns_iff h_compile other).mpr (Or.inr h_compares)
    exact h_reads.referenced rule h_rule cr h_compile other h_mem
  · intro h_compared
    have h_referenced : ∀ rule ∈ spec.rules, ∀ cr, compileRule rt rule = .ok cr →
        ∀ c ∈ cr.referencedColumns, spec.HasColumn c := by
      intro rule h_rule cr h_compile c h_c
      -- the target has been checked, and the condition is about the rest
      rcases (mem_referencedColumns_iff h_compile c).mp h_c with h_target | h_compares
      · exact h_triggered.hasColumn h_rule h_target
      · exact h_compared rule h_rule c h_compares
    refine ⟨h_referenced, fun snapshot h_data rule h_rule => ?_⟩
    rintro ⟨cr, h_compile, c, h_c, h_absent⟩
    exact h_absent (h_data c (h_referenced rule h_rule cr h_compile c h_c))

end Admitted

/-- A run whose rule compares nothing reads columns of its snapshot. -/
theorem admitted_iff_emailDb :
    ∃ spec, triggerRun exactReading storedOrder (emailDb true) emailRequest emailUser
        (Uuid.repeated 8) = .ok spec ∧ ReadsSchemaOnly literalRuntime spec := by
  obtain ⟨spec, h_spec⟩ := triggerRun_emailDb true
  obtain ⟨_, _, h_from⟩ := triggeredFrom_of_ok h_spec
  refine ⟨spec, h_spec, (admitted_iff literalRuntime h_spec).mpr fun rule h_rule other h_compares =>
    ?_⟩
  rw [h_from.rules_eq] at h_rule
  obtain rfl := List.mem_singleton.mp h_rule
  have h_kind : ruleKind literalRuntime.python _ = some .crossField := h_compares.kind
  cases h_kind

/-! ### A comparison with a column that is not there -/

/-- A rule that compares the column `email` with another one. -/
def confirmedRule : QualityRuleRow ℚ :=
  { emailRule true with
    ruleType := .crossField
    parameters := .dict [("column", .str "email"), ("operator", .str "=="),
      ("comparison_column", .str "confirmed_email")] }

theorem nodup_confirmedRule : ([confirmedRule].map QualityRuleRow.ruleId).Nodup :=
  List.nodup_singleton _

theorem confirmedRule_owned : ∀ r ∈ [confirmedRule], ∃ ruleset,
    (emailDb true).rulesets.find? r.rulesetId = some ruleset ∧ ruleset.tenantId = r.tenantId := by
  intro r h_r
  obtain rfl := List.mem_singleton.mp h_r
  exact ⟨_, rfl, rfl⟩

/-- The configuration with the column `email`, and that rule. -/
def confirmedDb : ConfigurationDb ℚ :=
  { emailDb true with
    rules := ⟨[confirmedRule], nodup_confirmedRule⟩
    rules_owned := confirmedRule_owned }

/-- The rule that the run executes. -/
def confirmedQualityRule : QualityRule ℚ := confirmedRule.triggered confirmedRule.parameterDict

/-- The sample database has a spec to trigger. -/
theorem triggerRun_confirmedDb :
    ∃ spec, triggerRun exactReading storedOrder confirmedDb emailRequest emailUser
        (Uuid.repeated 8) = .ok spec ∧
      spec.rules = [confirmedQualityRule] ∧ ∀ c, spec.HasColumn c ↔ c = "email" := by
  have h_some : (triggerRun exactReading storedOrder confirmedDb emailRequest emailUser
      (Uuid.repeated 8)).toOption.isSome = true := by decide +kernel
  cases h : triggerRun exactReading storedOrder confirmedDb emailRequest emailUser
      (Uuid.repeated 8) with
  | error e =>
    rw [h] at h_some
    cases h_some
  | ok spec =>
    obtain ⟨snapRow, polRow, h_from⟩ := triggeredFrom_of_ok h
    refine ⟨spec, rfl, h_from.rules_eq, fun c => ?_⟩
    obtain rfl := Option.some.inj h_from.snapshot_found
    have h_schema := PyValue.dict.inj h_from.schema_dict
    unfold ExecutionSpec.HasColumn
    rw [← h_schema]
    constructor
    · rintro ⟨columns, h_columns, h_c⟩
      obtain rfl := Except.ok.inj h_columns
      exact List.mem_singleton.mp h_c
    · rintro rfl
      exact ⟨["email"], rfl, List.mem_singleton_self _⟩

/-- The run is admitted, and its rule fails on the data of its snapshot. -/
theorem confirmedDb_missesColumn :
    ∃ spec, triggerRun exactReading storedOrder confirmedDb emailRequest emailUser
        (Uuid.repeated 8) = .ok spec ∧
      ¬ ReadsSchemaOnly literalRuntime spec ∧
      executeRules literalRuntime
          { totalRows := 1, data := { columns := ["email"], rows := [{ cell := fun _ => none }] } }
          spec.rules 50 =
        .ok [failedOutput (Uuid.repeated 1)
          "Target column 'confirmed_email' not found in dataset"] := by
  obtain ⟨spec, h_spec, h_rules, h_hasColumn⟩ := triggerRun_confirmedDb
  refine ⟨spec, h_spec, fun h_reads => ?_, by rw [h_rules]; decide +kernel⟩
  have h_referenced := h_reads.referenced confirmedQualityRule (by rw [h_rules]; simp) _ rfl
    "confirmed_email" (by simp)
  exact absurd ((h_hasColumn _).mp h_referenced) (by decide)

end DqScoring
