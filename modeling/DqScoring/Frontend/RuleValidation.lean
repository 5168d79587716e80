import DqScoring.Frontend.RuleForm
import DqScoring.Presentation.ParameterReads
import DqScoring.Services.BoundRules

/-!
# What the form checks

`validateRule` of `ruleForm.ts`, the options of the select fields of `RuleRow.tsx`, and what the
API does with a rule that the form sends. The fields that every rule has are checked alike on
both sides but for their length and for the dollar sign of a placeholder (`isAccepted_iff`); the
parameters of a type remain.
-/

namespace DqScoring

open Framework

variable {α δ : Type}

/-! ### The options of the form -/

/-- `DIMENSIONS`. -/
def dimensionOptions : List String :=
  ["ACCURACY", "COMPLETENESS", "CONSISTENCY", "TIMELINESS", "VALIDITY", "UNIQUENESS"]

/-- `DATA_TYPES`. -/
def dataTypeOptions : List String := ["DOUBLE", "INTEGER", "DATE", "TIMESTAMP"]

/-- `OPERATORS`. -/
def operatorOptions : List String := [">=", ">", "<=", "<", "==", "!="]

/-- The checks of a text. -/
def textCheckOptions : List String :=
  ["REPLACEMENT_CHARACTER", "CONTROL_CHARACTER", "MOJIBAKE", "LENGTH"]

/-- The checks of a JSON field. -/
def jsonCheckOptions : List String := ["NON_NULL", "TYPE", "RANGE", "REGEX", "ALLOWED_VALUES"]

/-- The types that a JSON field can be checked for. -/
def expectedTypeOptions : List String := ["STRING", "NUMBER", "BOOLEAN", "OBJECT", "ARRAY"]

/-- The languages of a spelling rule. -/
def languageOptions : List String := ["vi", "en", "vi-en"]

/-- The select fields hold offered values, those that the type of the rule shows. -/
structure RuleDraft.Offered (r : RuleDraft) : Prop where
  dimension : r.dimension ∈ dimensionOptions
  textCheck : r.ruleType = .textQuality → r.check ∈ textCheckOptions
  jsonCheck : r.ruleType = .jsonField → r.check ∈ jsonCheckOptions
  expectedType : r.ruleType = .jsonField → r.check = "TYPE" → r.expectedType ∈ expectedTypeOptions
  language : r.ruleType = .spelling → r.language ∈ languageOptions
  dataType : r.ruleType = .typeParse ∨ r.ruleType = .crossField → r.dataType ∈ dataTypeOptions
  operator : r.ruleType = .crossField → r.operator ∈ operatorOptions

/-! ### Validation -/

/-- `errors[field] = message`, on a condition. -/
def report (problem : Bool) (field message : String) : List (String × String) :=
  if problem then [(field, message)] else []

/-- `/^\d+$/.test(text)`. -/
def isDigits (text : String) : Bool := decide (text.toList ≠ []) && text.toList.all Char.isDigit

/-- The path is no JSON pointer. -/
def badPath (path : String) : Bool :=
  (decide (path ≠ "") && path.toList.head? != some '/') || !isJsonPointer.escapesOk path.toList

/-- `isNumber(text)`, and the number meets a condition. -/
def Js.isNumberWith (js : Js α) (p : α → Bool) (text : String) : Bool :=
  js.isNumber text && (js.number text).any p

section validateRule

variable [Field α] [LinearOrder α]

/-- `validateRule`: the problems of a draft by field. A later one of a field takes the place of
an earlier one. -/
def validateRule (js : Js α) (r : RuleDraft) : List (String × String) :=
  let isType := fun t => decide (r.ruleType = t)
  let isLength := isType .textQuality && r.check == "LENGTH"
  let isFieldCheck := fun check => isType .jsonField && r.check == check
  let isMojibake := isType .textQuality && r.check == "MOJIBAKE"
  report (jsTrim r.ruleCode == "") "rule_code" "Required" ++
  report (jsTrim r.column == "") "column" "Required" ++
  report (isType .range && !js.isNumber r.min && !js.isNumber r.max)
    "min" "Set a minimum, a maximum, or both" ++
  report (isType .range && js.isNumberWith (fun lo =>
      js.isNumberWith (fun hi => decide (lo > hi)) r.max) r.min) "max" "Must be ≥ minimum" ++
  report (isType .allowedValues && (jsItems ',' r.allowed).isEmpty)
    "allowed" "List at least one value" ++
  report (isType .regex && r.pattern == "") "pattern" "Required" ++
  report (isType .crossField && jsTrim r.comparisonColumn == "") "comparison_column" "Required" ++
  report ((isType .jsonField || isType .jsonArray) && badPath r.path)
    "path" "Invalid JSON Pointer" ++
  report (isType .spelling && jsTrim r.dictionaryRevision == "")
    "dictionary_revision" "Required" ++
  report (isType .jsonArray && r.min == "" && r.max == "" && !r.uniqueItems)
    "min" "Set a bound or unique items" ++
  report (isType .jsonArray && r.min != "" && !isDigits r.min)
    "min" "Nonnegative integer required" ++
  report (isType .jsonArray && r.max != "" && !isDigits r.max)
    "max" "Nonnegative integer required" ++
  report ((isLength || isFieldCheck "RANGE") && r.min == "" && r.max == "")
    "min" "Set a minimum or maximum" ++
  report (isFieldCheck "REGEX" && r.pattern == "") "pattern" "Required" ++
  -- a text of commas is not empty, although no value is in it
  report (isFieldCheck "ALLOWED_VALUES" && jsTrim r.allowed == "") "allowed" "Required" ++
  report (!isType .spelling && !isMojibake && !js.isNumberWith (fun x => decide (0 ≤ x)) r.weight)
    "weight" "Must be ≥ 0" ++
  report (r.acceptanceThreshold != "" && !js.isNumberWith
      (fun x => decide (0 ≤ x) && decide (x ≤ ((100 : ℕ) : α))) r.acceptanceThreshold)
    "acceptance_threshold" "0–100"

end validateRule

/-! ### The request -/

/-- A rule as the API reads it from the request. A weight that is sent as `null` is no float. -/
def QualityRuleInput.received (rule : QualityRuleInput α) : Option (CreateQualityRuleInput α) :=
  -- a weight of `null` is refused by the schema
  rule.contributionWeight.map fun contributionWeight => {
    ruleCode := rule.ruleCode
    dimension := rule.dimension
    ruleType := rule.ruleType
    parameters := rule.parameters
    nullPolicy := rule.nullPolicy
    isRequired := rule.isRequired
    isCritical := rule.isCritical
    gateEnabled := rule.gateEnabled
    scoreEnabled := rule.scoreEnabled
    contributionWeight
    acceptanceThreshold := rule.acceptanceThreshold
    isAdvisory := rule.isAdvisory }

variable [Field α] [LinearOrder α]

/-- The API accepts a rule. -/
def CreateQualityRuleInput.IsAccepted (python : Python δ) (input : CreateQualityRuleInput α) :
    Prop :=
  ∃ rule, input.modelValidate python = .ok rule

/-- The API accepts what the form sends. -/
def QualityRuleInput.IsAccepted (python : Python δ) (rule : QualityRuleInput α) : Prop :=
  ∃ input ∈ rule.received, input.IsAccepted python

/-! ### The fields of every rule -/

/-- The fields that the API reads before the parameters are in canonical form and in bounds, but
for the length of the code. -/
structure CreateQualityRuleInput.IsCanonical (python : Python δ)
    (input : CreateQualityRuleInput α) : Prop where
  code : input.ruleCode ≠ ""
  dimension : canonicalDimension python input.dimension = .ok input.dimension
  ruleType : canonicalRuleType python input.ruleType = .ok input.ruleType
  nullPolicy : knownNullPolicy python input.nullPolicy = .ok input.nullPolicy
  weight : 0 ≤ input.contributionWeight
  threshold : ∀ t ∈ input.acceptanceThreshold, 0 ≤ t ∧ t ≤ ((100 : ℕ) : α)

/-- The parameters that may not hold a placeholder. -/
def placeholderKeys : List String :=
  ["column", "comparison_column", "allowed_values", "dictionary_revision"]

omit [LinearOrder α] in
/-- The extended validation accepts a rule without placeholders whose parameters parse. -/
theorem validateExtended_ok_iff {python : Python δ} {input : CreateQualityRuleInput α} :
    (∃ rule, input.validateExtended python = .ok rule) ↔
      (∀ key ∈ placeholderKeys, isPlaceholder (input.parameters.get key) = false) ∧
        ∃ params, extendedParameters python input.ruleType input.parameters = .ok params := by
  have h_any : (["column", "comparison_column", "allowed_values", "dictionary_revision"].any
      fun key => isPlaceholder (input.parameters.get key)) = false ↔
      ∀ key ∈ placeholderKeys, isPlaceholder (input.parameters.get key) = false := by
    rw [List.any_eq_false]
    simp only [Bool.not_eq_true]
    rfl
  unfold CreateQualityRuleInput.validateExtended
  by_cases h_open : (["column", "comparison_column", "allowed_values", "dictionary_revision"].any
      fun key => isPlaceholder (input.parameters.get key)) = true
  · rw [if_pos h_open]
    refine iff_of_false nofun fun h => ?_
    rw [h_any.mpr h.1] at h_open
    cases h_open
  · rw [if_neg h_open, and_iff_right (h_any.mp (Bool.eq_false_of_not_eq_true h_open))]
    cases h_params : extendedParameters python input.ruleType input.parameters with
    | error e => exact iff_of_false nofun nofun
    | ok params =>
      refine iff_of_true ?_ ⟨params, rfl⟩
      by_cases h_advisory : input.ruleType = "SPELLING" ∨
          (input.ruleType = "TEXT_QUALITY" ∧ (params.get "check").text? = some "MOJIBAKE")
      · exact ⟨_, if_pos h_advisory⟩
      · exact ⟨_, if_neg h_advisory⟩

/-- A rule in canonical spelling is accepted when its code is short enough and the extended
validation accepts it. -/
theorem isAccepted_iff {python : Python δ} {input : CreateQualityRuleInput α}
    (h : input.IsCanonical python) :
    input.IsAccepted python ↔ input.ruleCode.length ≤ 100 ∧
      (∀ key ∈ placeholderKeys, isPlaceholder (input.parameters.get key) = false) ∧
        ∃ params, extendedParameters python input.ruleType input.parameters = .ok params := by
  have h_some : ¬ input.ruleCode.length < 1 := by
    rw [Nat.lt_one_iff, String.length_eq_zero_iff]
    exact h.code
  have h_low : ¬ (input.acceptanceThreshold.any fun t => decide (t < 0)) = true := by
    cases h_t : input.acceptanceThreshold with
    | none => exact Bool.false_ne_true
    | some t => simpa using (h.threshold t h_t).1
  have h_high : ¬ (input.acceptanceThreshold.any fun t => decide (t > ((100 : ℕ) : α))) = true := by
    cases h_t : input.acceptanceThreshold with
    | none => exact Bool.false_ne_true
    | some t => simpa using (h.threshold t h_t).2
  unfold CreateQualityRuleInput.IsAccepted CreateQualityRuleInput.modelValidate
  dsimp only
  rw [if_neg h_some, h.dimension, h.ruleType, h.nullPolicy]
  by_cases h_long : input.ruleCode.length > 100
  · rw [if_pos h_long]
    exact iff_of_false nofun fun h_fits => Nat.not_le.mpr h_long h_fits.1
  · rw [if_neg h_long, and_iff_right (Nat.le_of_not_lt h_long)]
    show (∃ rule, (if input.contributionWeight < 0 then _ else _) = Except.ok rule) ↔ _
    rw [if_neg (not_lt.mpr h.weight), if_neg h_low, if_neg h_high]
    exact validateExtended_ok_iff

/-! ### What the form sends -/

/-- What is known of a draft without problems. -/
structure RuleDraft.Valid (js : Js α) (r : RuleDraft) : Prop where
  ruleCode : jsTrim r.ruleCode ≠ ""
  column : jsTrim r.column ≠ ""
  dictionaryRevision : r.ruleType = .spelling → jsTrim r.dictionaryRevision ≠ ""
  path : r.ruleType = .jsonField ∨ r.ruleType = .jsonArray → isJsonPointer r.path = true
  bounds : r.ruleType = .textQuality ∧ r.check = "LENGTH" ∨
    r.ruleType = .jsonField ∧ r.check = "RANGE" → r.min ≠ "" ∨ r.max ≠ ""
  pattern : r.ruleType = .jsonField → r.check = "REGEX" → r.pattern ≠ ""
  weight : r.ruleType ≠ .spelling → ¬ (r.ruleType = .textQuality ∧ r.check = "MOJIBAKE") →
    ∃ w, js.number r.weight = some w ∧ 0 ≤ w
  threshold : r.acceptanceThreshold ≠ "" →
    ∃ t, js.number r.acceptanceThreshold = some t ∧ 0 ≤ t ∧ t ≤ ((100 : ℕ) : α)

/-- No message means no problem. -/
theorem report_eq_nil {problem : Bool} {field message : String} :
    report problem field message = [] ↔ problem = false := by
  cases problem <;> simp [report]

omit [Field α] [LinearOrder α] in
/-- A text that passes is a number with the property. -/
theorem Js.isNumberWith_ok {js : Js α} {p : α → Bool} {text : String}
    (h : js.isNumberWith p text = true) : ∃ x, js.number text = some x ∧ p x = true :=
  Option.any_eq_true _ _ |>.mp (Bool.and_eq_true_iff.mp h).2

/-- The form's test of a path is the backend's. -/
theorem badPath_eq (path : String) : badPath path = !isJsonPointer path := by
  rw [badPath, isJsonPointer]
  by_cases h : path = "" <;> cases h_head : path.toList.head? == some '/' <;>
    simp [h, bne, h_head]

/-- A draft without messages satisfies every condition of the form. -/
theorem valid_of_validateRule {js : Js α} {r : RuleDraft} (h : validateRule js r = []) :
    r.Valid js := by
  simp only [validateRule, List.append_eq_nil_iff, report_eq_nil] at h
  obtain ⟨⟨⟨⟨⟨⟨⟨⟨⟨⟨⟨⟨⟨⟨⟨⟨h_code, h_column⟩, -⟩, -⟩, -⟩, -⟩, -⟩, h_path⟩, h_revision⟩, -⟩, -⟩, -⟩,
    h_bounds⟩, h_pattern⟩, -⟩, h_weight⟩, h_threshold⟩ := h
  refine ⟨by simpa using h_code, by simpa using h_column, ?_, ?_, ?_, ?_, ?_, ?_⟩
  · intro h_type
    simpa [h_type] using h_revision
  · rintro (h_type | h_type) <;> simpa [h_type, badPath_eq] using h_path
  · rintro (⟨h_type, h_check⟩ | ⟨h_type, h_check⟩)
    · simpa [h_type, h_check, imp_iff_not_or] using h_bounds
    · simpa [h_type, h_check, imp_iff_not_or] using h_bounds
  · intro h_type h_check
    simpa [h_type, h_check] using h_pattern
  · intro h_type h_check
    have h_number : js.isNumberWith (fun x => decide (0 ≤ x)) r.weight = true := by
      by_cases h_text : r.ruleType = .textQuality
      · have h_ne : r.check ≠ "MOJIBAKE" := fun h_moji => h_check ⟨h_text, h_moji⟩
        simpa [h_text, h_ne] using h_weight
      · simpa [h_type, h_text] using h_weight
    obtain ⟨w, h_w, h_pos⟩ := Js.isNumberWith_ok h_number
    exact ⟨w, h_w, of_decide_eq_true h_pos⟩
  · intro h_given
    have h_number : js.isNumberWith
        (fun x => decide (0 ≤ x) && decide (x ≤ ((100 : ℕ) : α))) r.acceptanceThreshold = true := by
      simpa [h_given] using h_threshold
    obtain ⟨t, h_t, h_range⟩ := Js.isNumberWith_ok h_number
    rw [Bool.and_eq_true_iff, decide_eq_true_iff, decide_eq_true_iff] at h_range
    exact ⟨t, h_t, h_range⟩

/-- A name in upper case without blanks around it. -/
def isPlainName (s : String) : Bool :=
  pyStrip s == s && (s.toList.all fun c => decide (c.toNat < 128)) &&
    s.toList.map Char.toUpper == s.toList

/-- A plain upper-case name is its own canonical spelling. -/
theorem Python.UppersAscii.upper_pyStrip {python : Python δ} (h : python.UppersAscii) {s : String}
    (h_plain : isPlainName s = true) : python.upper (pyStrip s) = s := by
  simp only [isPlainName, Bool.and_eq_true, beq_iff_eq] at h_plain
  rw [h_plain.1.1]
  exact h.eq_self h_plain.1.2 h_plain.2

/-- The dimensions that the form offers are canonical. -/
theorem canonicalDimension_option {python : Python δ} (h_upper : python.UppersAscii)
    {dimension : String} (h : dimension ∈ dimensionOptions) :
    canonicalDimension python dimension = .ok dimension := by
  have h_plain : ∀ d ∈ dimensionOptions, isPlainName d = true ∧
      standardDimensionNames.contains d = true := by decide +kernel
  obtain ⟨h_name, h_known⟩ := h_plain dimension h
  unfold canonicalDimension
  rw [h_upper.upper_pyStrip h_name]
  exact if_pos h_known

/-- The rule types that the form offers are canonical. -/
theorem canonicalRuleType_apiType {python : Python δ} (h_upper : python.UppersAscii)
    (t : RuleType) : canonicalRuleType python t.apiType = .ok t.apiType := by
  have h_name : isPlainName t.apiType = true := by cases t <;> decide +kernel
  have h_known : ruleTypeAliases.lookup t.apiType = some t.apiType := by
    cases t <;> decide +kernel
  rw [canonicalRuleType, h_upper.upper_pyStrip h_name, h_known]

/-- The null policies that the form offers are known. -/
theorem knownNullPolicy_text {python : Python δ}
    (h_lower : ∀ policy ∈ ["fail", "ignore"], python.lower policy = policy)
    (policy : DraftNullPolicy) : knownNullPolicy python policy.text = .ok policy.text := by
  have h_strip : pyStrip policy.text = policy.text := by cases policy <;> decide +kernel
  have h_known : nullPolicies.contains policy.text = true := by cases policy <;> decide
  have h_same : python.lower policy.text = policy.text :=
    h_lower policy.text (by cases policy <;> decide)
  unfold knownNullPolicy
  rw [h_strip, h_same]
  exact if_pos h_known

/-- A draft without problems is accepted, if the code is not too long, no parameter is a
placeholder, and the parameters of its type are accepted. -/
theorem sent_isAccepted_iff {js : Js α} {python : Python δ} {r : RuleDraft}
    (h_upper : python.UppersAscii)
    (h_lower : ∀ policy ∈ ["fail", "ignore"], python.lower policy = policy)
    (h_offered : r.Offered) (h_valid : r.Valid js) :
    (toRuleInput js r).IsAccepted python ↔ (jsTrim r.ruleCode).length ≤ 100 ∧
      (∀ key ∈ placeholderKeys, isPlaceholder ((r.parameters js).get key) = false) ∧
        ∃ params, extendedParameters python r.ruleType.apiType (r.parameters js) = .ok params := by
  -- the weight is a number, or it is not asked for
  obtain ⟨w, h_w, h_pos⟩ : ∃ w, (toRuleInput js r).contributionWeight = some w ∧ 0 ≤ w := by
    by_cases h_forced : (decide (r.ruleType = .spelling) ||
        (decide (r.ruleType = .textQuality) && r.check == "MOJIBAKE")) = true
    · exact ⟨0, if_pos h_forced, le_refl 0⟩
    · have h_sent : (toRuleInput js r).contributionWeight = js.number r.weight := if_neg h_forced
      simp only [Bool.or_eq_true, Bool.and_eq_true, decide_eq_true_eq, beq_iff_eq, not_or]
        at h_forced
      rw [h_sent]
      exact h_valid.weight h_forced.1 h_forced.2
  -- the request is read as the form has sent it
  obtain ⟨input, h_input, h_weight, h_rest⟩ : ∃ input, (toRuleInput js r).received = some input ∧
      input.contributionWeight = w ∧ input = { input with
        ruleCode := jsTrim r.ruleCode
        dimension := r.dimension
        ruleType := r.ruleType.apiType
        parameters := r.parameters js
        nullPolicy := r.nullPolicy.text
        acceptanceThreshold :=
          if r.acceptanceThreshold = "" then none else js.number r.acceptanceThreshold } := by
    rw [QualityRuleInput.received, h_w]
    exact ⟨_, rfl, rfl, rfl⟩
  -- what the form offers is spelled as the backend spells it
  have h_canonical : input.IsCanonical python := by
    rw [h_rest]
    refine ⟨h_valid.ruleCode, canonicalDimension_option h_upper h_offered.dimension,
      canonicalRuleType_apiType h_upper r.ruleType, knownNullPolicy_text h_lower r.nullPolicy,
      h_weight ▸ h_pos, ?_⟩
    intro t h_t
    dsimp only at h_t
    split at h_t
    · cases h_t
    · rename_i h_given
      obtain ⟨t', h_t', h_range⟩ := h_valid.threshold h_given
      rw [h_t'] at h_t
      cases h_t
      exact h_range
  have h_iff := isAccepted_iff h_canonical
  rw [h_rest] at h_iff
  constructor
  · -- the request has one reading only
    rintro ⟨other, h_other, h_accepted⟩
    rw [h_input] at h_other
    cases h_other
    rw [h_rest] at h_accepted
    exact h_iff.mp h_accepted
  · intro h_fits
    refine ⟨input, h_input, ?_⟩
    rw [h_rest]
    exact h_iff.mpr h_fits

end DqScoring
