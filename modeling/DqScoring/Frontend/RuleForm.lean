import DqScoring.Framework.SplitText
import DqScoring.Presentation.RulesetSchemas

/-!
# The rule form

`ruleForm.ts`: a rule as the texts of a form. `fromRuleInput` loads a rule of the API into a
draft, and `toRuleInput` makes the rule that is sent of a draft. A draft has one field for
all the lower bounds and one for all the lists of a rule, whatever its type.

Numbers are those of the browser, the elements of `α`; a number of a JSON text is the nearest
one. `Number` and `String` are parts of `Js`. The key of a draft and the labels of the types
are left out.
-/

namespace DqScoring

open Framework

variable {α : Type}

/-! ### JavaScript -/

/-- The characters that `trim` removes. -/
def isJsSpace (c : Char) : Bool :=
  let n := c.toNat
  decide (9 ≤ n ∧ n ≤ 13) || n == 0x20 || n == 0xa0 || n == 0x1680
    || decide (0x2000 ≤ n ∧ n ≤ 0x200a) || n == 0x2028 || n == 0x2029 || n == 0x202f
    || n == 0x205f || n == 0x3000 || n == 0xfeff

/-- `text.trim()`. -/
def jsTrim (text : String) : String := String.ofList (trim isJsSpace text.toList)

/-- `items.join(separator)`. -/
def jsJoin (separator : String) (items : List String) : String :=
  String.ofList (separator.toList.intercalate (items.map String.toList))

/-- `text.split(separator).map((v) => v.trim()).filter(Boolean)`. -/
def jsItems (separator : Char) (text : String) : List String :=
  (splitTrimmed isJsSpace separator text.toList).map String.ofList

/-- The numbers of JavaScript. -/
structure Js (α : Type) where
  /-- The number that a number of a JSON text is read as, unless that is infinite. -/
  parse : ℚ → Option α
  /-- `String(x)`. -/
  text : α → String
  /-- `Number(text)`, when it is finite. -/
  number : String → Option α
  /-- The number as Python reads it from the JSON text of a request. -/
  json : α → PyValue
  number_text : ∀ x, number (text x) = some x
  text_ne : ∀ x, jsTrim (text x) ≠ ""

/-- `String` of a number of a JSON text. -/
def Js.numeral (js : Js α) (x : ℚ) : String :=
  match js.parse x with
  | some y => js.text y
  | none => if 0 < x then "Infinity" else "-Infinity"

mutual

/-- `String(v)` of a value of a JSON text. -/
def Js.string (js : Js α) : PyValue → String
  | .none => "null"
  | .bool b => if b then "true" else "false"
  | .int n => js.numeral n
  | .float x => js.numeral x
  | .str s => s
  | .list items => jsJoin "," (js.elements items)
  | .dict _ => "[object Object]"

/-- The texts that the elements of an array are joined from. -/
def Js.elements (js : Js α) : List PyValue → List String
  | [] => []
  | v :: vs => (if v.isNone then "" else js.string v) :: js.elements vs

end

/-- `Boolean(v)`: every array and object is true. -/
def jsTruthy : PyValue → Bool
  | .list _ | .dict _ => true
  | v => v.truthy

/-- `String(d[key] ?? d[key'] ?? … ?? default)`. -/
def Js.textOr (js : Js α) (d : PyDict) (keys : List String) (default : String) : String :=
  match (keys.map d.get).find? (!·.isNone) with
  | some v => js.string v
  | none => default

/-- `Number(text)` in a request: what is not finite is sent as `null`. -/
def Js.sent (js : Js α) (text : String) : PyValue :=
  match js.number text with
  | some x => js.json x
  | none => .none

/-- `isNumber`. -/
def Js.isNumber (js : Js α) (text : String) : Bool :=
  decide (jsTrim text ≠ "") && (js.number text).isSome

/-! ### The draft -/

/-- The kinds of rules in the form. -/
inductive RuleType where
  | notNull | typeParse | range | allowedValues | regex | crossField | unique
  | textQuality | spelling | jsonField | jsonArray
  deriving DecidableEq, Repr

/-- `RULE_TYPES[type].apiType`. -/
def RuleType.apiType : RuleType → String
  | notNull => "NON_NULL"
  | typeParse => "TYPE_PARSE"
  -- the three domain checks are one type of the API
  | range | allowedValues | regex => "DOMAIN_RANGE"
  | crossField => "CROSS_FIELD"
  | unique => "UNIQUENESS"
  | textQuality => "TEXT_QUALITY"
  | spelling => "SPELLING"
  | jsonField => "JSON_FIELD"
  | jsonArray => "JSON_ARRAY"

/-- The null policies of the form. -/
inductive DraftNullPolicy where
  | fail | ignore
  deriving DecidableEq, Repr

/-- The name of a null policy. -/
def DraftNullPolicy.text : DraftNullPolicy → String
  | fail => "fail"
  | ignore => "ignore"

/-- The form of a rule. -/
structure RuleDraft where
  ruleCode : String
  dimension : String
  ruleType : RuleType
  column : String
  min : String
  max : String
  allowed : String
  pattern : String
  dataType : String
  format : String
  comparisonColumn : String
  operator : String
  nullPolicy : DraftNullPolicy
  isRequired : Bool
  isCritical : Bool
  isAdvisory : Bool
  weight : String
  acceptanceThreshold : String
  check : String
  path : String
  language : String
  dictionaryRevision : String
  acceptedTerms : String
  expectedType : String
  uniqueItems : Bool
  deriving DecidableEq, Repr

/-- `isTemporal`. -/
def isTemporal (dataType : String) : Bool := dataType == "DATE" || dataType == "TIMESTAMP"

/-- A number field that is sent when it is not empty. -/
def Js.count (js : Js α) (key text : String) : PyDict :=
  if text = "" then [] else [(key, js.sent text)]

/-- A number field that is sent when it holds a number. -/
def Js.bound (js : Js α) (key text : String) : PyDict :=
  if js.isNumber text then [(key, js.sent text)] else []

/-- A text field that is sent when it is not empty. -/
def textEntry (key text : String) : PyDict := if text = "" then [] else [(key, .str text)]

/-- The format of a temporal type. -/
def formatEntry (r : RuleDraft) : PyDict :=
  if isTemporal r.dataType then [("format", .str r.format)] else []

/-- The parameters of a draft besides its column. -/
def RuleDraft.typeParameters (js : Js α) (r : RuleDraft) : PyDict :=
  match r.ruleType with
  -- the parameters that are not of the check are left out
  | .textQuality => ("check", .str r.check) ::
      if r.check = "LENGTH" then js.count "min_length" r.min ++ js.count "max_length" r.max else []
  | .spelling => [
      ("language", .str r.language),
      ("dictionary_revision", .str r.dictionaryRevision),
      ("accepted_terms", .list ((jsItems '\n' r.acceptedTerms).map .str))]
  | .jsonField => [("path", .str r.path), ("check", .str r.check)] ++
      (if r.check = "TYPE" then [("expected_type", .str r.expectedType)] else []) ++
      (if r.check = "RANGE" then textEntry "min" r.min ++ textEntry "max" r.max else []) ++
      (if r.check = "REGEX" then [("pattern", .str r.pattern)] else []) ++
      (if r.check = "ALLOWED_VALUES" then
        [("allowed_values", .list ((jsItems ',' r.allowed).map .str))] else [])
  -- the switch is always sent, the bounds only when they are filled
  | .jsonArray => ("path", .str r.path) :: (js.count "min_items" r.min ++
      js.count "max_items" r.max ++ [("unique_items", .bool r.uniqueItems)])
  | .typeParse => ("data_type", .str r.dataType) :: formatEntry r
  | .range => js.bound "min_value" r.min ++ js.bound "max_value" r.max
  | .allowedValues => [("allowed_values", .list ((jsItems ',' r.allowed).map .str))]
  | .regex => [("pattern", .str r.pattern)]
  | .crossField => [
      ("comparison_column", .str (jsTrim r.comparisonColumn)),
      ("operator", .str r.operator),
      ("data_type", .str r.dataType)] ++ formatEntry r
  | .notNull | .unique => []

/-- `parameters`. -/
def RuleDraft.parameters (js : Js α) (r : RuleDraft) : PyDict :=
  ("column", .str (jsTrim r.column)) :: r.typeParameters js

/-- A rule as it is sent; a number that is not finite is sent as `null`. -/
structure QualityRuleInput (α : Type) where
  ruleCode : String
  dimension : String
  ruleType : String
  parameters : PyDict
  nullPolicy : String
  isRequired : Bool
  isCritical : Bool
  gateEnabled : Bool
  scoreEnabled : Bool
  contributionWeight : Option α
  acceptanceThreshold : Option α
  isAdvisory : Bool

/-- `toRuleInput`. -/
def toRuleInput [Zero α] (js : Js α) (r : RuleDraft) : QualityRuleInput α :=
  -- spelling and mojibake rules never count
  let forcedAdvisory := decide (r.ruleType = .spelling) ||
    (decide (r.ruleType = .textQuality) && r.check == "MOJIBAKE")
  let advisory := r.isAdvisory || forcedAdvisory
  { ruleCode := jsTrim r.ruleCode
    dimension := r.dimension
    ruleType := r.ruleType.apiType
    parameters := r.parameters js
    nullPolicy := r.nullPolicy.text
    -- an advisory rule neither gates nor scores
    isRequired := !advisory && r.isRequired
    isCritical := !advisory && r.isCritical
    gateEnabled := !advisory
    scoreEnabled := !advisory
    -- a field that is no number becomes `null`
    contributionWeight := if forcedAdvisory then some 0 else js.number r.weight
    acceptanceThreshold :=
      if r.acceptanceThreshold = "" then none else js.number r.acceptanceThreshold
    isAdvisory := advisory }

/-- The kind in the form of a rule of the API. -/
def draftType (rawType : String) (params : PyDict) : RuleType :=
  match rawType with
  | "NON_NULL" => .notNull
  | "UNIQUENESS" => .unique
  | "TYPE_PARSE" => .typeParse
  | "CROSS_FIELD" => .crossField
  | "TEXT_QUALITY" => .textQuality
  | "SPELLING" => .spelling
  | "JSON_FIELD" => .jsonField
  | "JSON_ARRAY" => .jsonArray
  | "DOMAIN_RANGE" =>
    -- the first key that is found decides what the rule is
    if jsTruthy (params.get "pattern") then .regex
    else
      match params.get "allowed_values" with
      | .list _ => .allowedValues
      | _ => .range
  | _ => .notNull

/-- `fromRuleInput`. -/
def fromRuleInput (js : Js α) (input : CreateQualityRuleInput α) : RuleDraft :=
  let params := input.parameters
  let ruleType := draftType input.ruleType params
  { ruleCode := input.ruleCode
    dimension := input.dimension
    ruleType
    check := js.textOr params ["check"]
      -- the same select holds the checks of two types
      (if ruleType = .jsonField then "NON_NULL" else "REPLACEMENT_CHARACTER")
    path := js.textOr params ["path"] ""
    language := js.textOr params ["language"] "vi-en"
    dictionaryRevision := js.textOr params ["dictionary_revision"] ""
    -- lists are shown as lines, or between commas
    acceptedTerms :=
      match params.get "accepted_terms" with
      | .list terms => jsJoin "\n" (js.elements terms)
      | _ => ""
    expectedType := js.textOr params ["expected_type"] "STRING"
    uniqueItems := jsTruthy (params.get "unique_items")
    column := js.textOr params ["column", "target_column"] ""
    min := js.textOr params ["min", "min_items", "min_length", "min_value"] ""
    max := js.textOr params ["max", "max_items", "max_length", "max_value"] ""
    -- a text is shown as it is
    allowed :=
      match params.get "allowed_values" with
      | .list values => jsJoin ", " (js.elements values)
      | .str s => s
      | _ => ""
    pattern := js.textOr params ["pattern"] ""
    dataType := js.textOr params ["data_type"] "DOUBLE"
    format := js.textOr params ["format"] defaultTimestampFormat
    comparisonColumn := js.textOr params ["comparison_column"] ""
    operator := js.textOr params ["operator"] ">="
    -- every other policy is shown as the strict one
    nullPolicy := if input.nullPolicy = "ignore" then .ignore else .fail
    isRequired := input.isRequired
    isCritical := input.isCritical
    isAdvisory := input.isAdvisory
    weight := js.text input.contributionWeight
    acceptanceThreshold := input.acceptanceThreshold.elim "" js.text }

end DqScoring
