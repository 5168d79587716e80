import DqScoring.Presentation.RulesetSchemas
import DqScoring.Services.TemplatePacks

/-!
# Rules of templates

The checks of `presentation/api/schemas/template_pack_schemas.py` on the rules of a template:
`bind_rules` puts values in the place of placeholders, `validate_bound_rule` checks a rule without
placeholders, and `validate_contract` does both for every example of a template.

Rules are JSON values here. Of a template, `TemplateContract` has the fields that
`validate_contract` reads.
-/

namespace DqScoring

variable {α δ : Type}

/-- Assignment to a key of a dictionary. -/
def PyDict.insert {β : Type} (d : List (String × β)) (key : String) (v : β) : List (String × β) :=
  -- a key keeps its place, and a new one comes last
  if d.any fun e => e.1 = key then d.map fun e => if e.1 = key then (key, v) else e
  else d ++ [(key, v)]

/-- The dictionaries have the same keys. -/
def sameKeys (a b : List String) : Bool := a.all b.contains && b.all a.contains

/-! ### Binding -/

/-- `value.startswith("$")`. -/
def startsWithDollar (s : String) : Bool := s.toList.head? == some '$'

/-- `_binding_text`. -/
def bindingText (value : String) : Except PyError String :=
  if pyStrip value = "" ∨ value.length > 255 ∨ startsWithDollar value = true then
    .error (.valueError
      "Binding values must be non-blank, at most 255 characters and not start with '$'")
  else .ok value

/-- `_placeholder`. -/
def placeholder : PyValue → Option String
  | .str s => if startsWithDollar s then some s else none
  | _ => none

mutual

/-- `_has_placeholder`. -/
def hasPlaceholder : PyValue → Bool
  | .str s => startsWithDollar s
  | .dict entries => anyEntryHasPlaceholder entries
  | .list items => anyItemHasPlaceholder items
  | _ => false

/-- One of the items has a placeholder. -/
def anyItemHasPlaceholder : List PyValue → Bool
  | [] => false
  | v :: items => hasPlaceholder v || anyItemHasPlaceholder items

/-- One of the values has a placeholder; keys are not looked at. -/
def anyEntryHasPlaceholder : List (String × PyValue) → Bool
  | [] => false
  | (_, v) :: entries => hasPlaceholder v || anyEntryHasPlaceholder entries

end

/-- What is bound to placeholders. -/
abbrev Bindings := List (String × BindingValue)

def BindingValue.toPy : BindingValue → PyValue
  | text value => .str value
  | texts items => .list (items.map .str)

/-- `isinstance(value, list)`. -/
def BindingValue.isTexts : BindingValue → Bool
  | text _ => false
  | texts _ => true

/-- A parameter with the bound value in its place, if it is a placeholder with one. -/
def bindValue (bindings : Bindings) (raw : PyValue) : PyValue :=
  match (placeholder raw).bind fun name => bindings.lookup name with
  | some value => value.toPy
  | none => raw

/-- One turn of the loop of `bind_rules`. -/
def bindRule (bindings : Bindings) (rule : PyDict) : Except PyError PyDict :=
  match rule.getD "parameters" (.dict []) with
  | .dict parameters =>
    -- the keys stay as they are
    let resolved := parameters.map fun e => (e.1, bindValue bindings e.2)
    let candidate := PyDict.insert rule "parameters" (.dict resolved)
    -- what is left over was nested, or is not bound
    if hasPlaceholder (.dict candidate) then .error (.valueError "UNRESOLVED_TEMPLATE_PLACEHOLDER")
    else .ok candidate
  | _ => .error (.typeError "Rule parameters must be an object")

/-- `bind_rules`. -/
def bindRules (rules : List PyDict) (bindings : Bindings) : Except PyError (List PyDict) :=
  rules.mapM (bindRule bindings)

/-! ### Rules in a request -/

/-- How values are read as numbers. -/
structure NumberReading (α δ : Type) where
  /-- Pydantic's reading of a value as a finite `float`. -/
  float : PyValue → Option α
  /-- `math.isfinite`. -/
  isFinite : δ → Bool

/-- A field with a default. -/
def defaulted {β : Type} (d : PyDict) (field : String)
    (validate : String → PyValue → Except PyError β) (default : β) : Except PyError β :=
  match d.lookup field with
  | some v => validate field v
  | none => .ok default

/-- A field of type `dict[str, Any]`. -/
def validateObject (field : String) : PyValue → Except PyError PyDict
  | .dict d => .ok d
  | _ => fieldError field "Input should be a valid dictionary"

/-- A field of type `float`. -/
def validateFloat (reading : NumberReading α δ) (field : String) (v : PyValue) :
    Except PyError α :=
  match reading.float v with
  | some x => .ok x
  | none => fieldError field "Input should be a valid number"

/-- The typed fields of `CreateQualityRuleInput` in a JSON object; other keys are ignored. -/
def CreateQualityRuleInput.ofObject [Field α] (python : Python δ) (reading : NumberReading α δ)
    (rule : PyDict) : Except PyError (CreateQualityRuleInput α) := do
  return {
    ruleCode := ← required rule "rule_code" validateStr
    dimension := ← required rule "dimension" validateStr
    ruleType := ← required rule "rule_type" validateStr
    parameters := ← defaulted rule "parameters" validateObject []
    nullPolicy := ← defaulted rule "null_policy" validateStr "fail"
    isRequired := ← defaulted rule "is_required" (validateBool python) false
    isCritical := ← defaulted rule "is_critical" (validateBool python) false
    gateEnabled := ← defaulted rule "gate_enabled" (validateBool python) true
    scoreEnabled := ← defaulted rule "score_enabled" (validateBool python) true
    contributionWeight := ← defaulted rule "contribution_weight" (validateFloat reading) 1
    acceptanceThreshold := ← optional rule "acceptance_threshold" (validateFloat reading)
    isAdvisory := ← defaulted rule "is_advisory" (validateBool python) false }

/-! ### Parameters of the basic types -/

/-- `TYPE_NAMES`. -/
def typeNames : List String := ["INTEGER", "INT", "BIGINT", "DOUBLE", "FLOAT", "NUMERIC",
  "DECIMAL", "DATE", "TIMESTAMP", "DATETIME"]

/-- `OPERATORS`. -/
def operatorNames : List String := [">=", "GTE", "<=", "LTE", ">", "GT", "<", "LT", "==", "=",
  "EQ", "!=", "<>", "NEQ"]

/-- `MAX_BINDING_ITEMS`. -/
def maxBindingItems : ℕ := 1000

/-- `LEGACY_KEYS`. -/
def legacyKeys : List (String × List String) := [
  ("NON_NULL", ["column"]),
  ("UNIQUENESS", ["column"]),
  ("TYPE_PARSE", ["column", "data_type", "type", "format"]),
  ("DOMAIN_RANGE", ["column", "allowed_values", "values", "pattern", "regex", "year", "format",
    "min", "max", "min_value", "max_value"]),
  ("CROSS_FIELD", ["column", "comparison_column", "compare_to", "operator", "data_type",
    "format"])]

/-- `_text`. -/
def isText (limit : ℕ) : PyValue → Bool
  | .str s => decide (pyStrip s ≠ "") && decide (s.length ≤ limit)
  | _ => false

/-- The finite number that `float(value)` gives. -/
def finiteFloat (python : Python δ) (reading : NumberReading α δ) (v : PyValue) :
    Except PyError (Option δ) :=
  match python.float v with
  | .ok x => .ok (if reading.isFinite x then some x else none)
  | .error (.valueError _) => .ok none
  -- the error of an integer that is too large is not caught
  | .error e => .error e

/-- `_number`. -/
def number (python : Python δ) (reading : NumberReading α δ) (v : PyValue) :
    Except PyError (Option δ) :=
  match v with
  | .int _ | .float _ | .str _ => finiteFloat python reading v
  | _ => .ok none

/-- `_alias_pair`: the value under one of two names, or `None`. -/
def aliasPair (params : PyDict) (name other : String) : Except PyError PyValue :=
  if params.has name && params.has other then
    .error (.valueError ("Only one of " ++ name ++ "/" ++ other ++ " may be set"))
  else .ok (if params.has name then params.get name else params.get other)

/-- The value is a text that names one of some things, in any case. -/
def isNameIn (python : Python δ) (names : List String) (v : PyValue) : Bool :=
  v.text?.any fun s => names.contains (python.upper s)

/-- A bound that `_validate_domain_range` looks at, if it is given. -/
def givenNumber (python : Python δ) (reading : NumberReading α δ) (v : PyValue) :
    Except PyError (Option (Option δ)) :=
  if v.isNone then .ok none else some <$> number python reading v

/-- The keys of the bounds of a range. -/
def boundKeys : List String := ["min", "max", "min_value", "max_value"]

/-- `modes` of `_validate_domain_range`. -/
def domainModes (params : PyDict) : List Bool := [
  params.has "allowed_values" || params.has "values", params.has "pattern" || params.has "regex",
  params.has "year", boundKeys.any fun key => params.has key]

/-- `allowed_values` in list mode. -/
def isAllowedValues : PyValue → Bool
  | .list items =>
    decide (1 ≤ items.length) && decide (items.length ≤ maxBindingItems) && items.all (isText 255)
  | _ => false

/-- `year` in year mode. -/
def isYear : PyValue → Bool
  | .int n => decide (1 ≤ n) && decide (n ≤ 9999)
  | _ => false

/-- `_validate_domain_range`. -/
def validateDomainRange [LinearOrder δ] (python : Python δ) (reading : NumberReading α δ)
    (params : PyDict) : Except PyError Unit :=
  let modes := domainModes params
  if modes.countP id ≠ 1 then
    .error (.valueError
      "DOMAIN_RANGE needs exactly one of allowed_values, pattern, year or min/max")
  else if params.has "format" && !params.has "year" then
    .error (.valueError "format is only valid with year")
  else if modes.head? = some true then do
    let values ← aliasPair params "allowed_values" "values"
    if isAllowedValues values then return ()
    else .error (.valueError "allowed_values must be 1..1000 non-blank strings")
  else if modes[1]? = some true then do
    let pattern ← aliasPair params "pattern" "regex"
    if isText 512 pattern then return ()
    else .error (.valueError "pattern must be a non-blank string of at most 512 characters")
  else if modes[2]? = some true then
    if isYear (params.get "year") then .ok ()
    else .error (.valueError "year must be an integer 1..9999")
  else do
    let low ← aliasPair params "min" "min_value"
    let high ← aliasPair params "max" "max_value"
    let low ← givenNumber python reading low
    let high ← givenNumber python reading high
    -- a bound that is given is a finite number, and two of them are in order
    let isRefused := low = some none ∨ high = some none ∨
      (low.bind id).any fun l => (high.bind id).any fun h => decide (h < l)
    if isRefused then .error (.valueError "Range bounds must be finite numbers with min <= max")
    else return ()

/-- The checks of `_validate_legacy_params` for a TYPE_PARSE rule. -/
def validateTypeParse (python : Python δ) (params : PyDict) : Except PyError Unit := do
  let declared ← aliasPair params "data_type" "type"
  if declared.isNone || isNameIn python typeNames declared then return ()
  else .error (.valueError "Unsupported data_type")

/-- The checks of `_validate_legacy_params` for a CROSS_FIELD rule. -/
def validateCrossField (python : Python δ) (params : PyDict) : Except PyError Unit := do
  let other ← aliasPair params "comparison_column" "compare_to"
  -- the value of the one name that is given
  if !isText 255 other || other.text? == (params.get "column").text? then
    .error (.valueError "comparison_column must be a non-blank column different from column")
  else if !isNameIn python operatorNames (params.getD "operator" (.str ">=")) then
    .error (.valueError "Unsupported operator")
  else if !isNameIn python typeNames (params.getD "data_type" (.str "DOUBLE")) then
    .error (.valueError "Unsupported data_type")
  else return ()

/-- `_validate_legacy_params`. -/
def validateLegacyParams [LinearOrder δ] (python : Python δ) (reading : NumberReading α δ)
    (ruleType : String) (params : PyDict) : Except PyError Unit :=
  -- each type has its own keys
  if params.any fun e => !((legacyKeys.lookup ruleType).getD []).contains e.1 then
    .error (.valueError ("Unsupported parameters for " ++ ruleType))
  -- the column first, then what the type needs
  else if !isText 255 (params.get "column") then
    .error (.valueError "column must be a non-blank string")
  else if params.has "format" && !isText 100 (params.get "format") then
    .error (.valueError "format must be a non-blank string")
  else
    match ruleType with
    | "TYPE_PARSE" => validateTypeParse python params
    | "CROSS_FIELD" => validateCrossField python params
    | "DOMAIN_RANGE" => validateDomainRange python reading params
    | _ => .ok ()

/-- `validate_bound_rule`. The message of an invalid model is the one of the model here. -/
def validateBoundRule [Field α] [LinearOrder α] [LinearOrder δ] (python : Python δ)
    (reading : NumberReading α δ) (rule : PyDict) : Except PyError Unit := do
  let input ← CreateQualityRuleInput.ofObject python reading rule
  let model ← input.modelValidate python
  if (legacyKeys.lookup model.ruleType).isSome then
    validateLegacyParams python reading model.ruleType model.parameters

/-! ### Templates -/

/-- `RULE_FIELDS`. -/
def ruleFields : List String := ["rule_code", "dimension", "rule_type", "parameters",
  "null_policy", "is_required", "is_critical", "gate_enabled", "score_enabled",
  "contribution_weight", "acceptance_threshold", "is_advisory"]

/-- `PLACEHOLDER_SLOTS`: the type of the placeholder of a parameter, and the rule types that may
have one. -/
def placeholderSlots : List (String × PlaceholderType × List String) := [
  ("column", .column, ruleTypeAliases.map (·.2)),
  ("comparison_column", .column, ["CROSS_FIELD"]),
  ("allowed_values", .stringArray, ["DOMAIN_RANGE", "JSON_FIELD"]),
  ("dictionary_revision", .string, ["SPELLING"])]

/-- `PLACEHOLDER_NAME.match`. -/
def isPlaceholderName (s : String) : Bool :=
  -- the end of the pattern also matches before a last newline
  let name := if s.toList.getLast? = some '\n' then s.toList.dropLast else s.toList
  match name with
  | '$' :: c :: cs =>
    c.isAlpha && decide (cs.length ≤ 63) &&
      cs.all fun c => c.isAlphanum || c == '_'
  | _ => false

/-- An example of a template. -/
structure BoundExample where
  bindings : Bindings
  expected : List (String × ExampleOutcome)

/-- The fields of a template that `validate_contract` reads. -/
structure TemplateContract where
  rulesPayload : List PyDict
  examples : List BoundExample
  placeholderSchema : List (String × PlaceholderType)

/-- `validate_bindings` of one value. -/
def validateBinding : BindingValue → Except PyError Unit
  | .text value => do
    let _ ← bindingText value
    return ()
  | .texts items =>
    -- a list of texts is limited
    if 1 ≤ items.length ∧ items.length ≤ maxBindingItems then
      items.forM fun item => do
        let _ ← bindingText item
        return ()
    else .error (.valueError "Binding lists must contain 1..1000 items")

/-- The placeholders found so far, with their types. -/
abbrev UsedPlaceholders := List (String × PlaceholderType)

/-- The name of a rule in a message. -/
def payloadEntry (index : ℕ) : String := "rules_payload[" ++ toString index ++ "]"

/-- One turn of the inner loop of `_placeholder_usage`. -/
def parameterUsage (schema : List (String × PlaceholderType)) (index : ℕ)
    (ruleType : Option String) (used : UsedPlaceholders) (entry : String × PyValue) :
    Except PyError UsedPlaceholders :=
  match placeholder entry.2 with
  | none =>
    -- no placeholder, and none inside the value
    if hasPlaceholder entry.2 then
      .error (.valueError (payloadEntry index ++ " has a nested placeholder in '" ++
        entry.1 ++ "'"))
    else .ok used
  | some name =>
    -- the key decides which type may be bound to it
    match placeholderSlots.lookup entry.1 with
    | none => .error (.valueError ("Placeholder not allowed for parameter '" ++ entry.1 ++ "'"))
    | some slot =>
      if !ruleType.any slot.2.contains then
        .error (.valueError ("Placeholder not allowed for parameter '" ++ entry.1 ++ "'"))
      else if !isPlaceholderName name then .error (.valueError "Malformed placeholder name")
      else if schema.lookup name ≠ some slot.1 then
        .error (.valueError
          ("Placeholder '" ++ name ++ "' must be declared as " ++ slot.1.value))
      else .ok (PyDict.insert used name slot.1)

/-- One turn of the outer loop of `_placeholder_usage`. -/
def ruleUsage (python : Python δ) (schema : List (String × PlaceholderType))
    (used : UsedPlaceholders) (entry : PyDict × ℕ) : Except PyError UsedPlaceholders :=
  let rule := entry.1
  -- unknown fields are refused first
  if rule.any fun e => !ruleFields.contains e.1 then
    .error (.valueError (payloadEntry entry.2 ++ " has unsupported fields"))
  else
    match rule.get "parameters", rule.get "rule_code" with
    | .dict parameters, .str _ =>
      -- placeholders stand in the parameters only
      if hasPlaceholder (.dict (rule.filter fun e => e.1 ≠ "parameters")) then
        .error (.valueError (payloadEntry entry.2 ++ " has a placeholder outside parameters"))
      else
        -- the type as its aliases name it
        let ruleType := ruleTypeAliases.lookup
          (python.upper (pyStrip (python.str (rule.getD "rule_type" (.str "")))))
        parameters.foldlM (parameterUsage schema entry.2 ruleType) used
    | _, _ =>
      .error (.typeError (payloadEntry entry.2 ++ " needs rule_code and parameters object"))

namespace TemplateContract

/-- `_placeholder_usage`. -/
def placeholderUsage (python : Python δ) (t : TemplateContract) :
    Except PyError UsedPlaceholders :=
  t.rulesPayload.zipIdx.foldlM (ruleUsage python t.placeholderSchema) []

/-- The codes of the rules. -/
def codes (t : TemplateContract) : List String :=
  t.rulesPayload.map fun rule => ((rule.get "rule_code").text?).getD ""

/-- The outcomes that violate a rule. -/
def violations : List ExampleOutcome := [.failed, .missing, .miscast]

/-- The rule has a passing and a violating example. -/
def isExercised (t : TemplateContract) (code : String) : Bool :=
  let seen := t.examples.filterMap fun e => e.expected.lookup code
  seen.contains .passed && seen.any violations.contains

/-- One turn of the loop over the examples. -/
def checkExample [Field α] [LinearOrder α] [LinearOrder δ] (python : Python δ)
    (reading : NumberReading α δ) (t : TemplateContract) (used : UsedPlaceholders)
    (entry : BoundExample × ℕ) : Except PyError Unit :=
  let bindings := entry.1.bindings
  -- every placeholder is bound, and every rule expected
  if !sameKeys (bindings.map (·.1)) (used.map (·.1)) ||
      !sameKeys (entry.1.expected.map (·.1)) t.codes then
    .error (.valueError ("examples[" ++ toString entry.2 ++
      "] must bind every placeholder and expect every rule"))
  else
    -- lists are bound to lists only
    match bindings.find? fun b => (used.lookup b.1 == some .stringArray) != b.2.isTexts with
    | some b => .error (.valueError ("Binding '" ++ b.1 ++ "' has the wrong type"))
    | none => do
      let bound ← bindRules t.rulesPayload bindings
      bound.forM (validateBoundRule python reading)

/-- `validate_contract`, after the constraints on the lengths and the bindings of the
examples. -/
def validate [Field α] [LinearOrder α] [LinearOrder δ] (python : Python δ)
    (reading : NumberReading α δ) (t : TemplateContract) : Except PyError Unit := do
  -- the schema, the usage, the codes, the examples, in this order
  if t.rulesPayload.length < 1 ∨ t.rulesPayload.length > 100 then
    fieldError "rules_payload" "List should have from 1 to 100 items"
  if t.examples.length < 2 then
    fieldError "examples" "List should have at least 2 items"
  if t.examples.any fun e => e.expected.isEmpty then
    fieldError "expected" "Dictionary should have at least 1 item"
  t.examples.forM fun e => e.bindings.forM fun b => validateBinding b.2
  let used ← t.placeholderUsage python
  -- nothing unused is declared
  if !sameKeys (used.map (·.1)) (t.placeholderSchema.map (·.1)) then
    .error (.valueError "placeholder_schema must declare exactly the placeholders used")
  if ¬ t.codes.Nodup then .error (.valueError "Duplicate rule code")
  t.examples.zipIdx.forM (t.checkExample python reading used)
  -- each rule has an example it passes and one it does not
  if t.codes.any fun code => !t.isExercised code then
    .error (.valueError
      "Each rule needs a passing and a violating (failed/missing/miscast) example")

end TemplateContract

end DqScoring
