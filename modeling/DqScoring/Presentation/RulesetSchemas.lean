import DqScoring.Compute.RuleCompiler

/-!
# Rules that the API accepts

`CreateQualityRuleInput` of `presentation/api/schemas/ruleset_schemas.py`: the validators
of a rule in a request, which also bring it into its canonical form, and the rule that a
run loads once the input is stored. Fields have their types already; the first error is
reported.
-/

namespace DqScoring

variable {α δ : Type}

/-- A rule in a request. -/
structure CreateQualityRuleInput (α : Type) where
  ruleCode : String
  dimension : String
  ruleType : String
  parameters : PyDict := []
  nullPolicy : String := "fail"
  isRequired : Bool := false
  isCritical : Bool := false
  gateEnabled : Bool := true
  scoreEnabled : Bool := true
  contributionWeight : α
  acceptanceThreshold : Option α := none
  isAdvisory : Bool := false

/-! ### Parameters in canonical form -/

/-- The name of a value in a table of names. -/
def nameIn {β : Type} [DecidableEq β] (names : List (String × β)) (b : β) : PyValue :=
  .str (((names.find? fun entry => entry.2 = b).map (·.1)).getD "")

/-- The entries of `model_dump(exclude_none=True)`: fields without value are left out. -/
def dumpFields (fields : List (String × Option PyValue)) : PyDict :=
  fields.filterMap fun field => field.2.map (Prod.mk field.1)

/-- The dump of text quality parameters. -/
def TextQualityParameters.dump (params : TextQualityParameters) : PyDict :=
  dumpFields [
    ("column", some (.str params.column)),
    ("check", some (nameIn textChecks params.check)),
    ("min_length", params.minLength.map fun n => .int n),
    ("max_length", params.maxLength.map fun n => .int n)]

/-- The dump of the digests of dictionaries. -/
def dumpDigests (digests : DictionaryDigests) : PyValue :=
  .dict (digests.map fun entry =>
    (entry.1, .list (entry.2.map fun file => .dict (file.map fun d => (d.1, .str d.2)))))

/-- The dump of spelling parameters. -/
def SpellingParameters.dump (params : SpellingParameters) : PyDict :=
  dumpFields [
    ("column", some (.str params.column)),
    ("language", some (.str params.language)),
    ("dictionary_revision", some (.str params.dictionaryRevision)),
    ("accepted_terms", some (.list (params.acceptedTerms.map .str))),
    ("dictionary_digests", params.dictionaryDigests.map dumpDigests)]

/-- The dump of JSON field parameters. -/
def JsonFieldParameters.dump (params : JsonFieldParameters) : PyDict :=
  dumpFields [
    ("column", some (.str params.column)),
    ("path", some (.str params.path)),
    ("check", some (nameIn jsonChecks params.check)),
    ("expected_type", params.expectedType.map (nameIn expectedTypes)),
    ("min", params.min.map .str),
    ("max", params.max.map .str),
    ("pattern", params.pattern.map .str),
    ("allowed_values", params.allowedValues.map fun values => .list (values.map .str))]

/-- The dump of JSON array parameters. -/
def JsonArrayParameters.dump (params : JsonArrayParameters) : PyDict :=
  dumpFields [
    ("column", some (.str params.column)),
    ("path", some (.str params.path)),
    ("min_items", params.minItems.map fun n => .int n),
    ("max_items", params.maxItems.map fun n => .int n),
    ("unique_items", some (.bool params.uniqueItems))]

/-! ### Validators -/

/-- The canonical rule types. -/
def RuleKind.value : RuleKind → String
  | nonNull => "NON_NULL"
  | typeParse => "TYPE_PARSE"
  | domainRange => "DOMAIN_RANGE"
  | crossField => "CROSS_FIELD"
  | uniqueness => "UNIQUENESS"
  | textQuality => "TEXT_QUALITY"
  | jsonField => "JSON_FIELD"
  | jsonArray => "JSON_ARRAY"
  | spelling => "SPELLING"

/-- `RULE_TYPE_ALIASES`: the names that the compiler understands. -/
def ruleTypeAliases : List (String × String) := compilers.map fun entry => (entry.1, entry.2.value)

/-- The null policies. -/
def nullPolicies : List String := ["fail", "ignore", "separate", "not_applicable"]

/-- The names of the dimensions. -/
def standardDimensionNames : List String :=
  [StandardDimension.accuracy, .completeness, .consistency, .timeliness, .validity,
    .uniqueness].map (·.value)

/-- The validator `_canonical_dimension`. -/
def canonicalDimension (python : Python δ) (value : String) : Except PyError String :=
  let name := python.upper (pyStrip value)
  if standardDimensionNames.contains name then .ok name
  else .error (.valueError ("Unknown dimension '" ++ value ++ "'"))

/-- The validator `_canonical_rule_type`. -/
def canonicalRuleType (python : Python δ) (value : String) : Except PyError String :=
  match ruleTypeAliases.lookup (python.upper (pyStrip value)) with
  | some canonical => .ok canonical
  | none => .error (.valueError ("Unsupported rule type '" ++ value ++ "'. Allowed: " ++
      "['CROSS_FIELD', 'DOMAIN_RANGE', 'JSON_ARRAY', 'JSON_FIELD', 'NON_NULL', 'SPELLING', " ++
      "'TEXT_QUALITY', 'TYPE_PARSE', 'UNIQUENESS']"))

/-- The validator `_known_null_policy`. -/
def knownNullPolicy (python : Python δ) (value : String) : Except PyError String :=
  let policy := python.lower (pyStrip value)
  if nullPolicies.contains policy then .ok policy
  else .error (.valueError ("Unsupported null policy '" ++ value ++ "'. Allowed: " ++
    "['fail', 'ignore', 'not_applicable', 'separate']"))

/-- A parameter that a template left open. -/
def isPlaceholder : PyValue → Bool
  | .str s => s.toList.head? == some '$'
  | _ => false

/-- The parameters of a type in canonical form; the basic types keep what they are given. -/
def extendedParameters (python : Python δ) (ruleType : String) (params : PyDict) :
    Except PyError PyDict :=
  match ruleType with
  | "TEXT_QUALITY" => (·.dump) <$> TextQualityParameters.validate params
  | "SPELLING" => (·.dump) <$> SpellingParameters.validate params
  | "JSON_FIELD" => (·.dump) <$> JsonFieldParameters.validate python params
  | "JSON_ARRAY" => (·.dump) <$> JsonArrayParameters.validate python params
  -- so a pattern or a list of allowed values of a basic type is not looked at here
  | _ => .ok params

namespace CreateQualityRuleInput

variable [Field α] [LinearOrder α]

/-- The validator `_extended_parameters`. -/
def validateExtended (python : Python δ) (input : CreateQualityRuleInput α) :
    Except PyError (CreateQualityRuleInput α) :=
  if ["column", "comparison_column", "allowed_values", "dictionary_revision"].any
      fun key => isPlaceholder (input.parameters.get key) then
    .error (.valueError "UNRESOLVED_TEMPLATE_PLACEHOLDER")
  else do
    let parameters ← extendedParameters python input.ruleType input.parameters
    -- spelling and encoding checks never count, whatever the request says
    let isMojibake := input.ruleType = "TEXT_QUALITY" ∧
      (parameters.get "check").text? = some "MOJIBAKE"
    if input.ruleType = "SPELLING" ∨ isMojibake then
      return { input with
        parameters
        isAdvisory := true
        isRequired := false
        isCritical := false
        scoreEnabled := false
        gateEnabled := false
        contributionWeight := 0 }
    else return { input with parameters }

/-- `CreateQualityRuleInput.model_validate` on typed fields. -/
def modelValidate (python : Python δ) (input : CreateQualityRuleInput α) :
    Except PyError (CreateQualityRuleInput α) := do
  -- the fields in the order of the schema, then the whole
  if input.ruleCode.length < 1 then
    fieldError "rule_code" "String should have at least 1 character"
  if input.ruleCode.length > 100 then
    fieldError "rule_code" "String should have at most 100 characters"
  let dimension ← canonicalDimension python input.dimension
  let ruleType ← canonicalRuleType python input.ruleType
  let nullPolicy ← knownNullPolicy python input.nullPolicy
  if input.contributionWeight < 0 then
    fieldError "contribution_weight" "Input should be greater than or equal to 0"
  if input.acceptanceThreshold.any fun t => decide (t < 0) then
    fieldError "acceptance_threshold" "Input should be greater than or equal to 0"
  if input.acceptanceThreshold.any fun t => decide (t > ((100 : ℕ) : α)) then
    fieldError "acceptance_threshold" "Input should be less than or equal to 100"
  validateExtended python { input with dimension, ruleType, nullPolicy }

/-- The rule that a run loads once the input is stored: advisory rules are stored without
score and weight. -/
def toRule (input : CreateQualityRuleInput α) (ruleId : Uuid) : QualityRule α where
  ruleId
  ruleCode := input.ruleCode
  dimension := input.dimension
  ruleType := input.ruleType
  parameters := input.parameters
  nullPolicy := input.nullPolicy
  isRequired := input.isRequired
  isCritical := input.isCritical
  gateEnabled := input.gateEnabled
  -- an advisory rule is stored without score and weight
  scoreEnabled := !input.isAdvisory && input.scoreEnabled
  contributionWeight := if input.isAdvisory then 0 else input.contributionWeight
  acceptanceThreshold := input.acceptanceThreshold
  isAdvisory := input.isAdvisory

end CreateQualityRuleInput

end DqScoring
