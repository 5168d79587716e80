import DqScoring.Compute.RuleCompiler

/-!
# The compute engine

`execute_rules` of `adapters/compute/spark_compute.py` on a snapshot whose data is
loaded: every rule is compiled and checked by itself, and the rules that pass share one
aggregation query. The query's exception, if it has one, is the only one that
`execute_rules` lets through.

The columns of the dataset are taken to be other than those that the engine adds.
-/

namespace DqScoring

variable {α δ : Type}

/-! ### Snapshots -/

/-- A column of the schema of a snapshot. -/
structure SchemaColumn where
  name : String
  structuralEncoding : Option String := none

/-- A snapshot: what was recorded of it at import, and its data. -/
structure Snapshot where
  totalRows : ℕ
  schemaColumns : List SchemaColumn := []
  data : Dataset

/-- The columns that hold JSON. -/
def Snapshot.structuredColumns (snapshot : Snapshot) : List String :=
  (snapshot.schemaColumns.filter fun c => c.structuralEncoding = some "JSON").map (·.name)

/-! ### Checks on one rule -/

/-- The types that read plain columns only. -/
def plainTypes : List String :=
  ["TYPE_PARSE", "DOMAIN_RANGE", "CROSS_FIELD", "TEXT_QUALITY", "SPELLING"]

/-- The rule reads a column that its type cannot read. -/
def isStructuralMismatch (snapshot : Snapshot) (kind : String) (compiled : CompiledRule) :
    Bool :=
  (["JSON_FIELD", "JSON_ARRAY"].contains kind &&
      !snapshot.structuredColumns.contains compiled.targetColumn) ||
    (plainTypes.contains kind &&
      compiled.referencedColumns.any snapshot.structuredColumns.contains)

/-- The pattern of a JSON field rule is tried on one synthetic row. -/
def isRegexRefused (spark : Spark δ) (kind : String) (params : PyDict) : Bool :=
  kind == "JSON_FIELD" && (params.get "check").text? == some "REGEX" &&
    !(params.get "pattern").text?.any spark.validRegex

/-- The first loop of `execute_rules` on one rule: its compiled form, or the text of its
failure. -/
def checkRule [LinearOrder δ] (rt : Runtime δ) (snapshot : Snapshot) (rule : QualityRule α) :
    Except String CompiledRule :=
  match compileRule rt rule with
  -- every exception of a compiler is contained
  | .error e => .error (rt.python.errorText e)
  | .ok compiled =>
    match compiled.referencedColumns.find? fun c => !snapshot.data.columns.contains c with
    | some c => .error ("Target column '" ++ c ++ "' not found in dataset")
    | none =>
      let kind := rt.python.upper rule.ruleType
      if isStructuralMismatch snapshot kind compiled then
        .error "STRUCTURED_COLUMN_REQUIRES_JSON_RULE"
      else if isRegexRefused rt.spark kind rule.parameters then .error "REGEX_INVALID"
      else .ok compiled

/-- `_failed_output`. -/
def failedOutput (ruleId : Uuid) (message : String) : RuleExecutionOutput where
  ruleId
  counts := {}
  status := .failedToMeasure
  errorMessage := some message

/-- Assignment to a key of a dictionary. -/
def assign {β : Type} (d : List (Uuid × β)) (k : Uuid) (v : β) : List (Uuid × β) :=
  -- a key keeps its place, and a new one comes last
  if d.any fun entry => entry.1 = k then d.map fun entry => if entry.1 = k then (k, v) else entry
  else d ++ [(k, v)]

/-- The dictionaries `compiled_map` and `failed_outputs`. -/
structure CheckedRules where
  compiledMap : List (Uuid × CompiledRule) := []
  failedOutputs : List (Uuid × RuleExecutionOutput) := []

/-- One turn of the first loop. -/
def addRule [LinearOrder δ] (rt : Runtime δ) (snapshot : Snapshot) (acc : CheckedRules)
    (rule : QualityRule α) : CheckedRules :=
  match checkRule rt snapshot rule with
  | .error message =>
    { acc with
      failedOutputs := assign acc.failedOutputs rule.ruleId (failedOutput rule.ruleId message) }
  | .ok compiled => { acc with compiledMap := assign acc.compiledMap rule.ruleId compiled }

/-- The first loop. -/
def checkRules [LinearOrder δ] (rt : Runtime δ) (snapshot : Snapshot)
    (rules : List (QualityRule α)) : CheckedRules :=
  rules.foldl (addRule rt snapshot) {}

/-! ### The aggregation query -/

/-- The rows with the row numbers of the uniqueness rules. -/
def evalRows (compiled : List CompiledRule) (rows : List Row) : List Row :=
  compiled.foldl (fun rows cr =>
    match cr.uniquenessColumn with
    | some column => if cr.isUniqueness then withRowNumber cr.ruleId column rows else rows
    | none => rows) rows

namespace CompiledRule

/-- `F.col(rn_col) > 1`. -/
def isRepeated (cr : CompiledRule) : Column Bool where
  value := fun row => some (decide (row.rowNumber cr.ruleId > 1))

/-- `is_na`. -/
def isNa (cr : CompiledRule) : Column Bool := cr.scopeExpr.getD (.lit false)

/-- `is_failed`. -/
def isFailed (cr : CompiledRule) : Column Bool :=
  if cr.isUniqueness then cr.missingExpr.not.and cr.isRepeated else cr.failedExpr

/-- The condition of `na`. -/
def naBucket (cr : CompiledRule) : Column Bool := cr.isNa

/-- The condition of `missing`. -/
def missingBucket (cr : CompiledRule) : Column Bool := cr.isNa.not.and cr.missingExpr

/-- The condition of `miscast`. -/
def miscastBucket (cr : CompiledRule) : Column Bool :=
  (cr.isNa.not.and cr.missingExpr.not).and cr.miscastExpr

/-- The condition of `failed`. -/
def failedBucket (cr : CompiledRule) : Column Bool :=
  ((cr.isNa.not.and cr.missingExpr.not).and cr.miscastExpr.not).and cr.isFailed

/-- The condition of `passed`. -/
def passedBucket (cr : CompiledRule) : Column Bool :=
  ((cr.isNa.not.and cr.missingExpr.not).and cr.miscastExpr.not).and cr.isFailed.not

/-- The conditions that are summed. -/
def buckets (cr : CompiledRule) : List (Column Bool) :=
  [cr.naBucket, cr.missingBucket, cr.miscastBucket, cr.failedBucket, cr.passedBucket]

/-- The counts of a rule. -/
def counts (cr : CompiledRule) (rows : List Row) : RuleCounts :=
  let passed := cr.passedBucket.count rows
  let failed := cr.failedBucket.count rows
  let missing := cr.missingBucket.count rows
  let miscast := cr.miscastBucket.count rows
  let notApplicable := cr.naBucket.count rows
  -- the total is the sum of the buckets, not the number of rows
  { passed, failed, missing, miscast, notApplicable
    totalObserved := passed + failed + missing + miscast + notApplicable }

/-! ### Evidence -/

/-- The condition of the rows shown as evidence. -/
def evidenceCondition (cr : CompiledRule) : Column Bool :=
  if cr.isUniqueness then cr.missingExpr.not.and cr.isRepeated
  else cr.miscastExpr.or cr.failedExpr

/-- The masked text of a cell. -/
def maskedCell : Option String → Option String
  | none => none
  | some s => if sparkTrim s = "" then some "" else some "[REDACTED]"

/-- The evidence rows: masked, and only of the columns that the rule reads. -/
def evidenceSamples (cr : CompiledRule) (sampleLimit : ℕ) (rows : List Row) :
    List EvidenceSample :=
  -- a failure of this query is swallowed
  if (cr.evidenceCondition.raises rows).isSome then []
  else
    ((rows.filter fun row => cr.evidenceCondition.value row = some true).take sampleLimit).map
      fun row => cr.referencedColumns.dedup.map fun c => (c, maskedCell (row.cell c))

/-- The output of a measured rule. -/
def output (cr : CompiledRule) (ruleId : Uuid) (totalRows sampleLimit : ℕ) (rows : List Row) :
    RuleExecutionOutput :=
  let counts := cr.counts rows
  let status : MeasurementStatus :=
    -- nothing observed: either there were no rows, or none applied
    if counts.totalObserved = 0 then
      if totalRows = 0 then .notMeasurable else .notApplicable
    else .measured
  { ruleId
    counts
    status
    evidenceSamples :=
      -- evidence is collected for violations only
      if (counts.failed > 0 ∨ counts.miscast > 0) ∧ sampleLimit > 0 then
        cr.evidenceSamples sampleLimit rows
      else [] }

end CompiledRule

/-- How the aggregation query fails. -/
def queryFault (compiled : List CompiledRule) (rows : List Row) : Option SparkFault :=
  (compiled.flatMap (·.buckets)).findSome? (·.raises rows)

/-- The output of a rule without entry in `compiled_map`. -/
def unmeasuredOutput (failedOutputs : List (Uuid × RuleExecutionOutput)) (ruleId : Uuid) :
    RuleExecutionOutput :=
  (failedOutputs.lookup ruleId).getD { ruleId, counts := {}, status := .failedToMeasure }

/-- `execute_rules`. -/
def executeRules [LinearOrder δ] (rt : Runtime δ) (snapshot : Snapshot)
    (rules : List (QualityRule α)) (sampleLimit : ℕ) :
    Except SparkFault (List RuleExecutionOutput) :=
  if snapshot.totalRows = 0 then
    .ok (rules.map fun r => { ruleId := r.ruleId, counts := {}, status := .notMeasurable })
  else
    let checked := checkRules rt snapshot rules
    let compiled := checked.compiledMap.map (·.2)
    -- without a compiled rule no query runs
    if compiled.isEmpty then
      .ok (rules.map fun r => unmeasuredOutput checked.failedOutputs r.ruleId)
    else
      let rows := evalRows compiled snapshot.data.rows
      match queryFault compiled rows with
      | some fault => .error fault
      | none => .ok (rules.map fun r =>
          match checked.failedOutputs.lookup r.ruleId, checked.compiledMap.lookup r.ruleId with
          | none, some cr => cr.output r.ruleId snapshot.totalRows sampleLimit rows
          -- a rule has an entry in one of the dictionaries
          | _, _ => unmeasuredOutput checked.failedOutputs r.ruleId)

end DqScoring
