import DqScoring.Compute.Evidence
import DqScoring.Compute.RowOrder
import DqScoring.Services.TemplatePacks

/-!
# The validator of template packs

`presentation/cli/template_pack.py` runs the rules of a template on the input of an example, as a
dataset of one row, and compares what it finds with what the example expects. It has a copy of the
aggregation query of `execute_rules` and makes one outcome of the five counts.

`validated_example_counts`: what the engine counts in one pass over a dataset is the tally of the
outcomes that the validator gives to the rows one by one, and the rows that agree with an example on
the columns of the rule have the outcome that it expects. Inputs are texts and nulls here, as the
cells of a dataset are.
-/

namespace DqScoring

open Framework Framework.Kleene

variable {α δ : Type}

/-! ### Outcomes -/

/-- The condition of an outcome. -/
def CompiledRule.bucket (cr : CompiledRule) : ExampleOutcome → Column Bool
  | .passed => cr.passedBucket
  | .failed => cr.failedBucket
  | .missing => cr.missingBucket
  | .miscast => cr.miscastBucket
  | .notApplicable => cr.naBucket

/-- The count of an outcome. -/
def RuleCounts.ofOutcome (counts : RuleCounts) : ExampleOutcome → ℕ
  | .passed => counts.passed
  | .failed => counts.failed
  | .missing => counts.missing
  | .miscast => counts.miscast
  | .notApplicable => counts.notApplicable

/-- The outcomes in the order in which `_evaluate_row_outcome` asks for them. -/
def outcomeOrder : List ExampleOutcome := [.failed, .miscast, .missing, .notApplicable, .passed]

/-- The outcome of some counts; where nothing is counted it is unknown. -/
def outcomeOf (counts : RuleCounts) : Option ExampleOutcome :=
  outcomeOrder.find? fun o => decide (0 < counts.ofOutcome o)

/-- `_evaluate_row_outcome`. -/
def evaluateRowOutcome (cr : CompiledRule) (rows : List Row) :
    Except SparkFault (Option ExampleOutcome) :=
  -- the query is that of `execute_rules` for one rule
  match queryFault [cr] (evalRows [cr] rows) with
  | some fault => .error fault
  | none => .ok (outcomeOf (cr.counts (evalRows [cr] rows)))

/-! ### Examples -/

/-- The input of an example. -/
structure ExampleInput where
  fields : List (String × Option String)

/-- What Spark does with the names of columns: `resolve columns name` is the one of the columns that
the name means, by default up to case, and nothing where it is none or several of them. -/
abbrev ColumnResolver := List String → String → Option String

variable {resolve : ColumnResolver}

namespace ExampleInput

/-- The columns of the schema that `_infer_schema` makes. -/
def columns (input : ExampleInput) : List String := input.fields.map (·.1)

/-- The row of the data frame, with its cells under the names that mean them. -/
def row (resolve : ColumnResolver) (input : ExampleInput) : Row where
  cell := fun name => (resolve input.columns name).bind fun column =>
    (input.fields.lookup column).join

end ExampleInput

/-- How the validation of an example fails. -/
inductive ExampleFailure where
  /-- An exception of the compiler. -/
  | refused (text : String)
  /-- A column of the rule that the input lacks. -/
  | unresolved (column : String)
  | query (fault : SparkFault)
  /-- A `ValueError` of the validator. -/
  | mismatch (text : String)
  deriving DecidableEq

/-- An example of a template, with the rules that `bind_rules` makes for it and what the example
expects of each. -/
structure PackExample (α : Type) where
  templateCode : String
  exIdx : ℕ
  input : ExampleInput
  rules : List (QualityRule α × Option ExampleOutcome)

/-- What `_evaluate_row_outcome` returns. -/
def outcomeText (outcome : Option ExampleOutcome) : String :=
  (outcome.map ExampleOutcome.value).getD "unknown"

/-- The text for an outcome that the example does not expect. -/
def PackExample.mismatchText (ex : PackExample α) (rule : QualityRule α)
    (expected : ExampleOutcome) (actual : Option ExampleOutcome) : String :=
  "Template '" ++ ex.templateCode ++ "' example " ++ toString (ex.exIdx + 1) ++ " rule '" ++
    rule.ruleCode ++ "': expected outcome '" ++ expected.value ++ "', got '" ++
    outcomeText actual ++ "'"

/-- The rows that the validator makes of an input: a repeated value needs a second row. -/
def exampleRows (cr : CompiledRule) (expected : ExampleOutcome) (row : Row) : List Row :=
  if cr.isUniqueness = true ∧ expected = .failed then [row, row] else [row]

/-- The turn of a rule in the loop of `validate_pack_file`. -/
def validateExampleRule [LinearOrder δ] (rt : Runtime δ) (resolve : ColumnResolver)
    (ex : PackExample α) (entry : QualityRule α × Option ExampleOutcome) :
    Except ExampleFailure Unit :=
  match entry.2 with
  -- the example says nothing of the rule
  | none => .ok ⟨⟩
  | some expected =>
    match compileRule rt entry.1 with
    | .error e => .error (.refused (rt.python.errorText e))
    | .ok cr =>
      match cr.referencedColumns.find? fun column => (resolve ex.input.columns column).isNone with
      | some column => .error (.unresolved column)
      | none =>
        match evaluateRowOutcome cr (exampleRows cr expected (ex.input.row resolve)) with
        | .error fault => .error (.query fault)
        | .ok actual =>
          if actual = some expected then .ok ⟨⟩
          else .error (.mismatch (ex.mismatchText entry.1 expected actual))

/-- The turn of an example. -/
def validateExample [LinearOrder δ] (rt : Runtime δ) (resolve : ColumnResolver)
    (ex : PackExample α) : Except ExampleFailure Unit :=
  ex.rules.forM (validateExampleRule rt resolve ex)

/-- The loops of `validate_pack_file` over the examples of all templates. -/
def validateExamples [LinearOrder δ] (rt : Runtime δ) (resolve : ColumnResolver)
    (examples : List (PackExample α)) : Except ExampleFailure Unit :=
  examples.forM (validateExample rt resolve)

/-! ### One row -/

section Rows

variable {cr : CompiledRule} {row : Row} {o o' : ExampleOutcome}

/-- The count of an outcome is the count of its bucket. -/
theorem ofOutcome_counts (cr : CompiledRule) (rows : List Row) (o : ExampleOutcome) :
    (cr.counts rows).ofOutcome o = (cr.bucket o).count rows := by
  cases o <;> rfl

/-- A row has one outcome at most. -/
theorem bucket_unique (h : (cr.bucket o).value row = some true)
    (h' : (cr.bucket o').value row = some true) : o = o' := by
  have h_and : ∀ a b : Column Bool, (a.and b).value row = and3 (a.value row) (b.value row) :=
    fun _ _ => rfl
  have h_not : ∀ a : Column Bool, a.not.value row = not3 (a.value row) := fun _ => rfl
  -- each condition fixes the guards before it as false, and its own as true
  cases o <;> cases o' <;>
    first
    | rfl
    | simp_all [CompiledRule.bucket, CompiledRule.naBucket, CompiledRule.missingBucket,
        CompiledRule.miscastBucket, CompiledRule.failedBucket, CompiledRule.passedBucket,
        and3_eq_true_iff, not3_eq_true_iff]

/-- A single row has the outcome whose bucket it is in. -/
theorem outcomeOf_counts_singleton :
    outcomeOf (cr.counts [row]) = some o ↔ (cr.bucket o).value row = some true := by
  have h_count : ∀ o, 0 < (cr.counts [row]).ofOutcome o ↔ (cr.bucket o).value row = some true := by
    intro o
    rw [ofOutcome_counts, Column.count, List.countP_pos_iff]
    simp
  have h_holds : ∀ o, outcomeOf (cr.counts [row]) = some o →
      (cr.bucket o).value row = some true := by
    intro o h
    unfold outcomeOf at h
    have h_pos := List.find?_some h
    exact (h_count o).mp (of_decide_eq_true h_pos)
  constructor
  · exact h_holds o
  · intro h
    have h_mem : o ∈ outcomeOrder := by cases o <;> decide
    obtain ⟨o', h_o'⟩ : ∃ o', outcomeOf (cr.counts [row]) = some o' := by
      rw [← Option.isSome_iff_exists, outcomeOf, List.find?_isSome]
      exact ⟨o, h_mem, decide_eq_true ((h_count o).mpr h)⟩
    -- what is found holds, and only one outcome does
    rw [h_o', bucket_unique (h_holds o' h_o') h]

/-- Without a window the rows stay as they are. -/
theorem evalRows_of_each (h : cr.isUniqueness = false) (rows : List Row) :
    evalRows [cr] rows = rows := by
  unfold evalRows
  rw [List.foldl_cons, List.foldl_nil]
  cases cr.uniquenessColumn with
  | none => rfl
  | some column =>
    dsimp only
    rw [if_neg (by rw [h]; exact Bool.false_ne_true)]

theorem bucket_mem (cr : CompiledRule) (o : ExampleOutcome) : cr.bucket o ∈ cr.buckets := by
  cases o <;> simp [CompiledRule.bucket, CompiledRule.buckets]

end Rows

/-! ### The engine and the validator -/

section Tally

variable [LinearOrder δ] {rt : Runtime δ} {snapshot : Snapshot} {rule : QualityRule α}
  {cr : CompiledRule}

/-- A snapshot with other rows. -/
def Snapshot.withRows (snapshot : Snapshot) (rows : List Row) : Snapshot :=
  { snapshot with data := { snapshot.data with rows := rows } }

/-- The checks of a rule do not look at the rows. -/
theorem passesChecks_withRows (rows : List Row) :
    PassesChecks rt (snapshot.withRows rows) rule cr ↔ PassesChecks rt snapshot rule cr :=
  ⟨fun h => ⟨h.compiles, h.columns, h.matched, h.regex⟩,
    fun h => ⟨h.compiles, h.columns, h.matched, h.regex⟩⟩

/-- A query over a dataset that does not raise does not raise on one of its rows. -/
theorem queryFault_singleton {rules : List (QualityRule α)} (h_rule : rule ∈ rules)
    (h_passes : PassesChecks rt snapshot rule cr) (h_quiet : NoneRaises rt snapshot rules)
    {row : Row} (h_row : row ∈ snapshot.data.rows) :
    queryFault [cr] (evalRows [cr] [row]) = none := by
  have h_alone : PassesChecks rt (snapshot.withRows [row]) rule cr :=
    (passesChecks_withRows [row]).mpr h_passes
  have h_measured : measuredRules rt (snapshot.withRows [row]) [rule] = [cr] := by
    unfold measuredRules
    rw [List.filterMap_cons, checkRule_ok_iff.mpr h_alone]
    rfl
  -- what makes a query raise is a condition on the rules or on one row
  have h_none : NoneRaises rt (snapshot.withRows [row]) [rule] := by
    intro r h_r cr' h_cr'
    obtain rfl := List.mem_singleton.mp h_r
    obtain ⟨h_start, h_cells⟩ := h_quiet r h_rule cr' ((passesChecks_withRows [row]).mp h_cr')
    refine ⟨h_start, fun row' h_row' => ?_⟩
    obtain rfl := List.mem_singleton.mp h_row'
    exact h_cells _ h_row
  have h_fault := queryFault_eq_none.mpr h_none
  rw [h_measured] at h_fault
  exact h_fault

/-- A single row is reported under the bucket it is in. -/
theorem evaluateRowOutcome_singleton (h_unique : cr.isUniqueness = false) {row : Row}
    (h_fault : queryFault [cr] (evalRows [cr] [row]) = none) (o : ExampleOutcome) :
    evaluateRowOutcome cr [row] = .ok (some o) ↔ (cr.bucket o).value row = some true := by
  unfold evaluateRowOutcome
  rw [h_fault, evalRows_of_each h_unique]
  dsimp only
  rw [Except.ok.injEq]
  exact outcomeOf_counts_singleton

/-- What an execution counts for a rule that passed its checks. -/
theorem exists_counts {rules : List (QualityRule α)} {sampleLimit : ℕ}
    {outputs : List RuleExecutionOutput} (h_ids : (rules.map (·.ruleId)).Nodup)
    (h_rule : rule ∈ rules) (h_passes : PassesChecks rt snapshot rule cr)
    (h_rows : snapshot.totalRows ≠ 0)
    (h_run : executeRules rt snapshot rules sampleLimit = .ok outputs) :
    NoneRaises rt snapshot rules ∧ ∃ out ∈ outputs, out.ruleId = rule.ruleId ∧
      out.counts = cr.counts (queryRows rt snapshot rules) := by
  rw [executeRules_eq h_rows h_ids] at h_run
  cases h_fault : queryFault (measuredRules rt snapshot rules)
      (evalRows (measuredRules rt snapshot rules) snapshot.data.rows) with
  | some fault =>
    rw [h_fault] at h_run
    cases h_run
  | none =>
    rw [h_fault] at h_run
    obtain rfl := Except.ok.inj h_run
    refine ⟨queryFault_eq_none.mp h_fault, _, List.mem_map_of_mem h_rule,
      ruleOutput_ruleId .., ?_⟩
    rw [ruleOutput, checkRule_ok_iff.mpr h_passes]
    rfl

/-- **One pass and row by row.** The counts of a rule are the tally of the outcomes of the rows. -/
theorem counts_tally {rules : List (QualityRule α)} (h_rule : rule ∈ rules)
    (h_passes : PassesChecks rt snapshot rule cr) (h_unique : cr.isUniqueness = false)
    (h_quiet : NoneRaises rt snapshot rules) (o : ExampleOutcome) :
    (cr.counts (queryRows rt snapshot rules)).ofOutcome o = snapshot.data.rows.countP
      fun row => decide (evaluateRowOutcome cr [row] = .ok (some o)) := by
  have h_reads := (compileRule_countsCells h_passes.compiles).readsCells h_unique _
    (bucket_mem cr o)
  calc (cr.counts (queryRows rt snapshot rules)).ofOutcome o
      = (cr.bucket o).count (queryRows rt snapshot rules) := ofOutcome_counts ..
    _ = (cr.bucket o).count snapshot.data.rows :=
        -- the row numbers of the query do not show
        h_reads.count_eq (List.Perm.of_eq (cells_evalRows ..))
    _ = _ := by
        refine List.countP_congr fun row h_row => ?_
        rw [decide_eq_true_iff, decide_eq_true_iff]
        exact (evaluateRowOutcome_singleton h_unique
          (queryFault_singleton h_rule h_passes h_quiet h_row) o).symm

end Tally

/-! ### Rules under another identifier -/

section SameCheck

variable {rt : Runtime δ} {rule rule' : QualityRule α} {target : PyValue} {cr : CompiledRule}

/-- The rules check the same: the validator gives a rule a new identifier and no weights. -/
structure QualityRule.SameCheck (rule rule' : QualityRule α) : Prop where
  code : rule'.ruleCode = rule.ruleCode
  type : rule'.ruleType = rule.ruleType
  parameters : rule'.parameters = rule.parameters

/-- The compiled rule under another identifier. -/
def CompiledRule.withId (cr : CompiledRule) (ruleId : Uuid) : CompiledRule := { cr with ruleId }

/-- Rules of one check compile to one result, apart from the id. -/
theorem RuleKind.compile_sameCheck [LinearOrder δ] (h_same : rule.SameCheck rule')
    {kind : RuleKind} (h : kind.compile rt rule target = .ok cr) :
    kind.compile rt rule' target = .ok (cr.withId rule'.ruleId) := by
  -- what a compiler reads succeeded for the first rule, and it reads the same of the second
  cases kind with
  | nonNull =>
    -- the compilers of one column differ in the condition only
    obtain ⟨name, h_name, h⟩ := ok_of_bind h
    cases h
    show (quotedCol target >>= _) = _
    rw [h_name]
    rfl
  | typeParse =>
    obtain ⟨name, h_name, h⟩ := ok_of_bind h
    cases h
    show compileTypeParse rt rule' target = _
    unfold compileTypeParse
    rw [h_same.parameters, h_name]
    rfl
  | domainRange =>
    obtain ⟨name, h_name, h⟩ := ok_of_bind h
    obtain ⟨check, h_check, h⟩ := ok_of_bind h
    cases h
    show compileDomainRange rt rule' target = _
    unfold compileDomainRange
    rw [h_same.parameters, h_name, h_check]
    rfl
  | crossField =>
    -- the other column is read from the comparison
    obtain ⟨comparison, h_comparison, h⟩ := ok_of_bind h
    obtain ⟨name, h_name, h⟩ := ok_of_bind h
    obtain ⟨other, h_other, h⟩ := ok_of_bind h
    cases h
    show compileCrossField rt rule' target = _
    unfold compileCrossField
    -- the code of the rule is in the errors
    rw [h_same.parameters, h_same.code, h_comparison, h_name]
    show (quotedCol comparison.column >>= _) = _
    rw [h_other]
    rfl
  | uniqueness =>
    obtain ⟨name, h_name, h⟩ := ok_of_bind h
    cases h
    show (quotedCol target >>= _) = _
    rw [h_name]
    rfl
  | textQuality =>
    obtain ⟨params, h_params, h⟩ := ok_of_bind h
    -- the literals of the text are checked after the name
    obtain ⟨name, h_name, h⟩ := ok_of_bind h
    obtain ⟨u, h_literals, h⟩ := ok_of_bind h
    cases h
    show compileTextQuality rt rule' target = _
    unfold compileTextQuality
    rw [h_same.parameters, h_params, h_name]
    show (params.literals.forM rt.spark.literal >>= _) = _
    rw [h_literals]
    rfl
  | jsonField =>
    obtain ⟨params, h_params, h⟩ := ok_of_bind h
    obtain ⟨name, h_name, h⟩ := ok_of_bind h
    show compileJsonField rt rule' target = _
    unfold compileJsonField
    rw [h_same.parameters, h_params, h_name]
    -- a range is evaluated in Python, the other checks by Spark
    by_cases h_range : params.check = .range
    · rw [if_pos h_range] at h
      cases h
      show (if params.check = .range then _ else _) = _
      rw [if_pos h_range]
      rfl
    · rw [if_neg h_range] at h
      cases h
      show (if params.check = .range then _ else _) = _
      rw [if_neg h_range]
      rfl
  | jsonArray =>
    obtain ⟨params, h_params, h⟩ := ok_of_bind h
    obtain ⟨name, h_name, h⟩ := ok_of_bind h
    cases h
    show compileJsonArray rt rule' target = _
    unfold compileJsonArray
    rw [h_same.parameters, h_params, h_name]
    rfl
  | spelling =>
    obtain ⟨params, h_params, h⟩ := ok_of_bind h
    -- the dictionaries are pinned before the column is quoted
    obtain ⟨bundle, h_bundle, h⟩ := ok_of_bind h
    obtain ⟨name, h_name, h⟩ := ok_of_bind h
    cases h
    show compileSpelling rt rule' target = _
    unfold compileSpelling
    rw [h_same.parameters, h_params]
    show (orUnavailable (pinnedBundle rt params) >>= _) = _
    rw [h_bundle, h_name]
    rfl

/-- Rules that check the same compile to the same conditions. -/
theorem compileRule_sameCheck [LinearOrder δ] (h_same : rule.SameCheck rule')
    (h : compileRule rt rule = .ok cr) :
    compileRule rt rule' = .ok (cr.withId rule'.ruleId) := by
  have h_target : ruleTargetColumn rule' = ruleTargetColumn rule := by
    unfold ruleTargetColumn
    rw [h_same.parameters]
  have h_kind : ruleKind rt.python rule' = ruleKind rt.python rule := by
    unfold ruleKind
    rw [h_same.type]
  unfold compileRule at h ⊢
  rw [h_target, h_kind]
  dsimp only at h ⊢
  split at h
  · cases h
  next h_truthy =>
    rw [if_neg h_truthy]
    cases h_found : ruleKind rt.python rule with
    | none =>
      rw [h_found] at h
      cases h
    | some kind =>
      rw [h_found] at h
      exact RuleKind.compile_sameCheck h_same h

/-- Without a window the id plays no role in the buckets. -/
theorem bucket_withId (h_unique : cr.isUniqueness = false) (ruleId : Uuid) (o : ExampleOutcome) :
    (cr.withId ruleId).bucket o = cr.bucket o := by
  have h_failed : (cr.withId ruleId).isFailed = cr.isFailed := by
    -- only a rule about repetition reads the row number kept under its identifier
    have h_renamed : (cr.withId ruleId).isUniqueness = false := h_unique
    rw [isFailed_of_not_unique h_unique, isFailed_of_not_unique h_renamed]
    rfl
  cases o with
  | passed =>
    show Column.and _ (Column.not (cr.withId ruleId).isFailed) = _
    rw [h_failed]
    rfl
  | failed =>
    show Column.and _ (cr.withId ruleId).isFailed = _
    rw [h_failed]
    rfl
  | _ => rfl

end SameCheck

/-! ### Examples that are accepted -/

section Accepted

variable [LinearOrder δ] {rt : Runtime δ} {snapshot : Snapshot} {ex : PackExample α}

/-- An accepted example has the outcome it states. -/
theorem validateExampleRule_ok {rule : QualityRule α} {o : ExampleOutcome}
    (h : validateExampleRule rt resolve ex (rule, some o) = .ok ⟨⟩) :
    ∃ cr, compileRule rt rule = .ok cr ∧
      evaluateRowOutcome cr (exampleRows cr o (ex.input.row resolve)) = .ok (some o) := by
  unfold validateExampleRule at h
  dsimp only at h
  cases h_compile : compileRule rt rule with
  | error e =>
    rw [h_compile] at h
    cases h
  | ok cr =>
    rw [h_compile] at h
    dsimp only at h
    split at h
    · cases h
    · cases h_outcome : evaluateRowOutcome cr (exampleRows cr o (ex.input.row resolve)) with
      | error fault =>
        rw [h_outcome] at h
        cases h
      | ok actual =>
        rw [h_outcome] at h
        dsimp only at h
        split at h
        next h_actual => exact ⟨cr, rfl, by rw [h_outcome, h_actual]⟩
        · cases h

/-- **Examples.** For a rule that is not about repetition, the engine counts in one pass what the
validator finds row by row, and the rows that agree with the input of an accepted example on the
columns of the rule have the outcome that the example expects. -/
theorem validated_example_counts {examples : List (PackExample α)}
    {rules : List (QualityRule α)} {sampleLimit : ℕ} {outputs : List RuleExecutionOutput}
    {exampleRule rule : QualityRule α} {o : ExampleOutcome} {cr : CompiledRule}
    (h_valid : validateExamples rt resolve examples = .ok ⟨⟩) (h_ex : ex ∈ examples)
    (h_entry : (exampleRule, some o) ∈ ex.rules) (h_same : exampleRule.SameCheck rule)
    (h_ids : (rules.map (·.ruleId)).Nodup) (h_rule : rule ∈ rules)
    (h_passes : PassesChecks rt snapshot rule cr) (h_unique : cr.isUniqueness = false)
    (h_rows : snapshot.totalRows ≠ 0)
    (h_run : executeRules rt snapshot rules sampleLimit = .ok outputs) :
    ∃ out ∈ outputs, out.ruleId = rule.ruleId ∧
      (∀ o', out.counts.ofOutcome o' = snapshot.data.rows.countP
        fun row => decide (evaluateRowOutcome cr [row] = .ok (some o'))) ∧
      ∀ row ∈ snapshot.data.rows,
        (∀ column ∈ cr.referencedColumns, row.cell column = (ex.input.row resolve).cell column) →
          evaluateRowOutcome cr [row] = .ok (some o) := by
  obtain ⟨h_quiet, out, h_out, h_id, h_counts⟩ :=
    exists_counts h_ids h_rule h_passes h_rows h_run
  -- the counts, and the bucket of each row
  refine ⟨out, h_out, h_id, fun o' => ?_, fun row h_row h_cells => ?_⟩
  · rw [h_counts]
    exact counts_tally h_rule h_passes h_unique h_quiet o'
  · obtain ⟨cr₀, h_compile, h_outcome⟩ :=
      validateExampleRule_ok (forM_eq_ok_iff.mp (forM_eq_ok_iff.mp h_valid ex h_ex) _ h_entry)
    -- the engine compiled the same conditions
    obtain rfl : cr₀.withId rule.ruleId = cr := by
      have h_engine := compileRule_sameCheck h_same h_compile
      rw [h_passes.compiles] at h_engine
      exact (Except.ok.inj h_engine).symm
    have h_unique₀ : cr₀.isUniqueness = false := h_unique
    -- the input was a single row
    have h_single : exampleRows cr₀ o (ex.input.row resolve) = [ex.input.row resolve] := by
      unfold exampleRows
      rw [if_neg]
      rintro ⟨h_repeated, -⟩
      rw [h_unique₀] at h_repeated
      cases h_repeated
    rw [h_single] at h_outcome
    have h_fault : queryFault [cr₀] (evalRows [cr₀] [ex.input.row resolve]) = none := by
      unfold evaluateRowOutcome at h_outcome
      cases h_query : queryFault [cr₀] (evalRows [cr₀] [ex.input.row resolve]) with
      | none => rfl
      | some fault =>
        rw [h_query] at h_outcome
        cases h_outcome
    have h_input := (evaluateRowOutcome_singleton h_unique₀ h_fault o).mp h_outcome
    have h_reads := (compileRule_countsCells h_compile).readsCells h_unique₀ _ (bucket_mem cr₀ o)
    refine (evaluateRowOutcome_singleton h_unique
      (queryFault_singleton h_rule h_passes h_quiet h_row) o).mpr ?_
    rw [bucket_withId h_unique₀, h_reads row (ex.input.row resolve) h_cells]
    exact h_input

/-- The column with the name up to case, if it is the only one. -/
def resolveByCase : ColumnResolver := fun columns name =>
  let named := columns.filter fun column =>
    column.toList.map Char.toLower = name.toList.map Char.toLower
  if named.length = 1 then named.head? else none

/-- The example of a status that is not allowed: the row of the dataset is counted as failed. -/
theorem validated_example_counts_activeRule :
    ∃ cr out, compileRule literalRuntime activeRule = .ok cr ∧
      executeRules literalRuntime oneRow [activeRule] 50 = .ok [out] ∧
      (∀ o', out.counts.ofOutcome o' = oneRow.data.rows.countP
        fun row => decide (evaluateRowOutcome cr [row] = .ok (some o'))) ∧
      ∀ row ∈ oneRow.data.rows, evaluateRowOutcome cr [row] = .ok (some .failed) := by
  have h_run : executeRules literalRuntime oneRow [activeRule] 50 =
      .ok [{ ruleId := Uuid.repeated 1
             counts := { failed := 1, totalObserved := 1 }
             evidenceSamples := [[("status", some "[REDACTED]")]] }] := by
    decide +kernel
  -- the input names the column with a capital
  have h_valid : validateExamples literalRuntime resolveByCase
      [{ templateCode := "STATUS"
         exIdx := 0
         input := ⟨[("Status", some "closed")]⟩
         rules := [({ activeRule with ruleId := Uuid.repeated 2 }, some .failed)] }] = .ok ⟨⟩ := by
    decide +kernel
  have h_same : QualityRule.SameCheck { activeRule with ruleId := Uuid.repeated 2 } activeRule :=
    ⟨rfl, rfl, rfl⟩
  have h_ids : ([activeRule].map (·.ruleId)).Nodup := by decide
  have h_passes : PassesChecks literalRuntime oneRow activeRule _ := ⟨rfl, by decide, rfl, rfl⟩
  have h_total : oneRow.totalRows ≠ 0 := by decide
  obtain ⟨out, h_out, -, h_tally, h_rows⟩ :=
    validated_example_counts h_valid List.mem_cons_self List.mem_cons_self h_same h_ids
      List.mem_cons_self h_passes rfl h_total h_run
  obtain rfl := List.mem_singleton.mp h_out
  refine ⟨_, _, rfl, h_run, h_tally, fun row h_row => h_rows row h_row fun column h_column => ?_⟩
  obtain rfl := List.mem_singleton.mp h_row
  obtain rfl := List.mem_singleton.mp h_column
  decide +kernel

end Accepted

end DqScoring
