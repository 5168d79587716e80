import DqScoring.Compute.Spark
import DqScoring.Compute.SpellingDictionary
import DqScoring.Core.Entities
import Mathlib.Data.Sum.Order

/-!
# Compilers of the basic rule types

`adapters/compute/sql_rule_compiler.py`: the conditions that a rule is compiled to, and
the compilers of the types NON_NULL, TYPE_PARSE, DOMAIN_RANGE, CROSS_FIELD and
UNIQUENESS. What a compiler reads from the parameters is separate from the conditions it
builds (`DomainCheck`, `FieldComparison`, `parsedType`), so that later modules can speak
of the former.

A parsed value is a DOUBLE on the left or a number or timestamp on the right; the two
sides of a comparison are always parsed alike.
-/

namespace DqScoring

/-- What surrounds the rule compiler. -/
structure Runtime (δ : Type) where
  python : Python δ
  spark : Spark δ
  /-- `parse_structured_json`. -/
  parse : String → Except JsonFailure Json
  spelling : Spelling
  dictionaries : SpellingDictionaryManager

variable {α δ : Type}

/-- The default format of timestamps. -/
def defaultTimestampFormat : String := "yyyy-MM-dd HH:mm:ss"

/-- The types that are parsed as timestamps. -/
def temporalTypes : List String := ["TIMESTAMP", "DATETIME", "DATE"]

/-- The types that are parsed as DOUBLE. -/
def floatingTypes : List String := ["DOUBLE", "FLOAT", "NUMERIC", "DECIMAL"]

/-- Comparison operators of columns. -/
inductive Comparator where
  | ge | le | gt | lt | eq | ne
  deriving DecidableEq, Repr

/-- `_COMPARATORS`. -/
def comparators : List (String × Comparator) := [
  (">=", .ge), ("GTE", .ge), ("<=", .le), ("LTE", .le), (">", .gt), ("GT", .gt), ("<", .lt),
  ("LT", .lt), ("==", .eq), ("=", .eq), ("EQ", .eq), ("!=", .ne), ("<>", .ne), ("NEQ", .ne)]

/-- The comparison of two values. -/
def Comparator.apply {β : Type} [LinearOrder β] : Comparator → β → β → Bool
  | ge, x, y => decide (y ≤ x)
  | le, x, y => decide (x ≤ y)
  | gt, x, y => decide (y < x)
  | lt, x, y => decide (x < y)
  | eq, x, y => decide (x = y)
  | ne, x, y => decide (x ≠ y)

/-- Compiled column expressions of a rule. -/
structure CompiledRule where
  ruleId : Uuid
  targetColumn : String
  referencedColumns : List String
  isUniqueness : Bool := false
  uniquenessColumn : Option String := none
  scopeExpr : Option (Column Bool) := none
  missingExpr : Column Bool
  miscastExpr : Column Bool := .lit false
  failedExpr : Column Bool := .lit false

/-! ### Building blocks -/

/-- The name of a column that is referenced: only a string has the method that
`quoted_col` calls. -/
def quotedCol : PyValue → Except PyError String
  | .str name => .ok name
  | _ => .error (.attributeError "object has no attribute 'replace'")

/-- `F.lit` of a parameter. -/
def Spark.literal (spark : Spark δ) (v : PyValue) : Except PyError Unit :=
  if spark.hasLiteral v then .ok () else .error (.valueError "unsupported literal")

/-- `_is_missing`. -/
def isMissing (name : String) : Column Bool :=
  let col := Column.cell name
  col.isNull.or (col.map fun s => decide (sparkTrim s = ""))

/-- The format a temporal type is parsed with. -/
def temporalFormat (dataType format : String) : String :=
  if dataType = "DATE" ∧ format = defaultTimestampFormat then "yyyy-MM-dd" else format

/-- `_parse`. -/
def parseColumn (spark : Spark δ) (name dataType format : String) : Column (δ ⊕ₗ ℤ) :=
  let col := Column.cell name
  -- a BIGINT and a timestamp are both on the right, but no comparison mixes them
  if dataType ∈ temporalTypes then
    (col.tryToTimestamp spark (temporalFormat dataType format)).map Sum.inrₗ
  else if dataType ∈ floatingTypes then
    col.bind fun s => (spark.tryCastDouble s).map Sum.inlₗ
  else col.bind fun s => (spark.tryCastBigint s).map Sum.inrₗ

/-! ### NON_NULL, UNIQUENESS -/

/-- `_compile_non_null`. -/
def compileNonNull (rule : QualityRule α) (target : PyValue) : Except PyError CompiledRule := do
  let target ← quotedCol target
  return {
    ruleId := rule.ruleId
    targetColumn := target
    referencedColumns := [target]
    missingExpr := isMissing target }

/-- `_compile_uniqueness`. -/
def compileUniqueness (rule : QualityRule α) (target : PyValue) :
    Except PyError CompiledRule := do
  let target ← quotedCol target
  -- duplicates are counted by the engine, not by an expression
  return {
    ruleId := rule.ruleId
    targetColumn := target
    referencedColumns := [target]
    isUniqueness := true
    uniquenessColumn := some target
    missingExpr := isMissing target }

/-! ### TYPE_PARSE -/

/-- The format a rule gives. -/
def formatParameter (python : Python δ) (params : PyDict) : String :=
  python.str (params.getD "format" (.str defaultTimestampFormat))

/-- The type of a TYPE_PARSE rule. -/
def parsedType (python : Python δ) (params : PyDict) : String :=
  python.upper (python.str
    ((params.get "data_type").orElse (params.getD "type" (.str "DOUBLE"))))

/-- `_compile_type_parse`. -/
def compileTypeParse (rt : Runtime δ) (rule : QualityRule α) (target : PyValue) :
    Except PyError CompiledRule := do
  let dataType := parsedType rt.python rule.parameters
  let format := formatParameter rt.python rule.parameters
  let target ← quotedCol target
  let missing := isMissing target
  return {
    ruleId := rule.ruleId
    targetColumn := target
    referencedColumns := [target]
    missingExpr := missing
    -- a value is miscast when it is there and its cast is null
    miscastExpr := missing.not.and (parseColumn rt.spark target dataType format).isNull }

/-! ### DOMAIN_RANGE -/

/-- What a DOMAIN_RANGE rule checks. -/
inductive DomainCheck (δ : Type) where
  | allowedValues (values : List PyValue)
  | pattern (pattern : String)
  | year (year : ℤ) (format : String)
  | bounds (min max : Option δ)

/-- A bound of a DOMAIN_RANGE rule. -/
def boundParameter (python : Python δ) (v : PyValue) : Except PyError (Option δ) :=
  if v.isNone then .ok none else some <$> python.float v

/-- The check that the parameters of a DOMAIN_RANGE rule ask for. -/
def domainCheck (rt : Runtime δ) (params : PyDict) : Except PyError (DomainCheck δ) :=
  if params.has "allowed_values" || params.has "values" then do
    let values ← Python.list
      ((params.get "allowed_values").orElse (params.getD "values" (.list [])))
    -- `isin` makes a literal of each value
    values.forM rt.spark.literal
    return .allowedValues values
  else if params.has "pattern" || params.has "regex" then
    .ok (.pattern (rt.python.str
      ((params.get "pattern").orElse (params.getD "regex" (.str "")))))
  else if params.has "year" then do
    let year ← rt.python.int (params.get "year")
    rt.spark.literal (.int year)
    return .year year (formatParameter rt.python params)
  else do
    -- a key that is present counts even when its value is `None`
    let minVal := if params.has "min_value" then params.get "min_value" else params.get "min"
    let maxVal := if params.has "max_value" then params.get "max_value" else params.get "max"
    let min ← boundParameter rt.python minVal
    let max ← boundParameter rt.python maxVal
    return .bounds min max

variable [LinearOrder δ]

/-- The values that are below the lower bound or above the upper one. -/
def outOfBounds (min max : Option δ) (parsed : Column (δ ⊕ₗ ℤ)) : Column Bool :=
  -- the source's `failed_cond`, which starts as `F.lit(False)`
  let below := match min with
    | some lo => (Column.lit false).or (parsed.map fun x => decide (x < Sum.inlₗ lo))
    | none => .lit false
  match max with
  | some hi => below.or (parsed.map fun x => decide (Sum.inlₗ hi < x))
  | none => below

/-- The conditions `miscast` and `failed` of a DOMAIN_RANGE rule. -/
def DomainCheck.conditions (rt : Runtime δ) (target : String) :
    DomainCheck δ → Column Bool × Column Bool
  | allowedValues values =>
    -- a null in the list makes `isin` null for every other value
    (.lit false, (isMissing target).not.and ((Column.cell target).isin rt.spark values).not)
  | pattern p =>
    (.lit false, (isMissing target).not.and ((Column.cell target).rlike rt.spark p).not)
  | year y format =>
    let parsed := parseColumn rt.spark target "TIMESTAMP" format
    -- the year is read from a timestamp, which may not parse
    let miscast := (isMissing target).not.and parsed.isNull
    let parsedYear := parsed.bind fun x => (ofLex x).getRight?.map rt.spark.year
    (miscast,
      ((isMissing target).not.and miscast.not).and (parsedYear.map fun x => decide (x ≠ y)))
  | bounds min max =>
    -- the bounds compare doubles
    let parsed := parseColumn rt.spark target "DOUBLE" defaultTimestampFormat
    let miscast := (isMissing target).not.and parsed.isNull
    (miscast, ((isMissing target).not.and miscast.not).and (outOfBounds min max parsed))

/-- `_compile_domain_range`. -/
def compileDomainRange (rt : Runtime δ) (rule : QualityRule α) (target : PyValue) :
    Except PyError CompiledRule := do
  let target ← quotedCol target
  let check ← domainCheck rt rule.parameters
  let conditions := check.conditions rt target
  return {
    ruleId := rule.ruleId
    targetColumn := target
    referencedColumns := [target]
    missingExpr := isMissing target
    miscastExpr := conditions.1
    failedExpr := conditions.2 }

/-! ### CROSS_FIELD -/

/-- What a CROSS_FIELD rule compares its target with, and how. -/
structure FieldComparison where
  column : PyValue
  comparator : Comparator
  dataType : String
  format : String

/-- The comparison that the parameters of a CROSS_FIELD rule ask for. -/
def fieldComparison (python : Python δ) (ruleCode : String) (params : PyDict) :
    Except PyError FieldComparison :=
  -- the second name is read when the first is missing or falsy
  let column := (params.get "comparison_column").orElse (params.get "compare_to")
  if column.truthy = false then
    .error (.valueError ("CROSS_FIELD rule " ++ ruleCode ++ " missing comparison_column parameter"))
  else
    let op := python.str (params.getD "operator" (.str ">="))
    match comparators.lookup (python.upper op) with
    | none => .error (.valueError
        ("CROSS_FIELD rule " ++ ruleCode ++ " has unsupported operator '" ++ op ++ "'"))
    | some comparator =>
      let dataType := python.upper (python.str ((params.get "data_type").orElse (.str "DOUBLE")))
      .ok {
        column
        comparator
        -- an unknown type is compared as a double
        dataType := if dataType ∈ temporalTypes then dataType else "DOUBLE"
        format := formatParameter python params }

/-- `_compile_cross_field`. -/
def compileCrossField (rt : Runtime δ) (rule : QualityRule α) (target : PyValue) :
    Except PyError CompiledRule := do
  -- the operator is checked before the names of the columns
  let comparison ← fieldComparison rt.python rule.ruleCode rule.parameters
  let target ← quotedCol target
  let other ← quotedCol comparison.column
  let missing := (isMissing target).or (isMissing other)
  let parsedA := parseColumn rt.spark target comparison.dataType comparison.format
  let parsedB := parseColumn rt.spark other comparison.dataType comparison.format
  let miscast := missing.not.and (parsedA.isNull.or parsedB.isNull)
  let passes := Column.compare comparison.comparator.apply parsedA parsedB
  return {
    ruleId := rule.ruleId
    targetColumn := target
    referencedColumns := [target, other]
    missingExpr := missing
    miscastExpr := miscast
    failedExpr := (missing.not.and miscast.not).and passes.not }

end DqScoring
