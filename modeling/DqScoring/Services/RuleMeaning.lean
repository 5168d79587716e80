import DqScoring.Queue.RunAdmission

/-!
# What a rule means

The parameters of a rule have more than one spelling, and a compiler ignores what its check
does not need. `RuleKind.reading` is what `compile_rule` takes from the parameters: two rules
with one target and one reading compile to the same conditions (`compileRule_congr`).
-/

namespace DqScoring

open Framework

variable {α δ : Type}

/-! ### Readings -/

/-- What a value is parsed as. -/
inductive ParseTarget where
  | timestamp (format : String)
  | double
  | bigint
  deriving DecidableEq, Repr

/-- What a type and a format stand for. -/
def parseTarget (dataType format : String) : ParseTarget :=
  if dataType ∈ temporalTypes then .timestamp (temporalFormat dataType format)
  else if dataType ∈ floatingTypes then .double
  else .bigint

/-- What a comparison parses its fields as: numbers when they are no times. -/
def ParseTarget.compared : ParseTarget → ParseTarget
  | timestamp format => .timestamp format
  | _ => .double

/-- What the compared fields of a CROSS_FIELD rule are parsed as. -/
def comparedTarget (python : Python δ) (params : PyDict) : ParseTarget :=
  (parseTarget (python.upper (python.str ((params.get "data_type").orElse (.str "DOUBLE"))))
    (formatParameter python params)).compared

/-- A text that names a column. -/
def columnName (v : PyValue) : Option String := v.text?.filter (· ≠ "")

/-- The target column of a rule. -/
def targetName (params : PyDict) : Option String :=
  columnName ((params.get "target_column").orElse (params.get "column"))

/-- The check of a text quality rule. -/
structure TextReading where
  check : TextCheck
  minLength : Option ℕ
  maxLength : Option ℕ
  deriving DecidableEq

/-- What is read of text quality parameters: the bounds are those of a length. -/
def TextQualityParameters.reading (params : TextQualityParameters) : TextReading where
  check := params.check
  minLength := if params.check = .length then params.minLength else none
  maxLength := if params.check = .length then params.maxLength else none

/-- The check of a JSON field rule. -/
structure FieldReading where
  path : String
  check : JsonCheck
  expectedType : Option JsonKind
  min : Option String
  max : Option String
  pattern : Option String
  allowedValues : Option (List String)
  deriving DecidableEq

/-- What is read of JSON field parameters: each check has a payload of its own. -/
def JsonFieldParameters.reading (params : JsonFieldParameters) : FieldReading where
  path := params.path
  check := params.check
  -- only the payload of the check has a meaning
  expectedType := if params.check = .type then params.expectedType else none
  min := if params.check = .range then params.min else none
  max := if params.check = .range then params.max else none
  pattern := if params.check = .regex then params.pattern else none
  allowedValues := if params.check = .allowedValues then params.allowedValues else none

/-- The check of a JSON array rule. -/
structure ArrayReading where
  path : String
  minItems : Option ℕ
  maxItems : Option ℕ
  uniqueItems : Bool
  deriving DecidableEq

/-- What is read of JSON array parameters. -/
def JsonArrayParameters.reading (params : JsonArrayParameters) : ArrayReading where
  path := params.path
  minItems := params.minItems
  maxItems := params.maxItems
  uniqueItems := params.uniqueItems

/-- The check of a spelling rule. -/
structure SpellingReading where
  language : String
  dictionaryRevision : String
  acceptedTerms : List String
  dictionaryDigests : Option DictionaryDigests
  deriving DecidableEq

/-- What is read of spelling parameters. -/
def SpellingParameters.reading (params : SpellingParameters) : SpellingReading where
  language := params.language
  dictionaryRevision := params.dictionaryRevision
  acceptedTerms := params.acceptedTerms
  dictionaryDigests := params.dictionaryDigests

/-- What `compile_rule` reads of the parameters of a rule besides its target; `none` stands
for what is refused. -/
inductive RuleReading (δ : Type) where
  | nonNull
  | uniqueness
  | typeParse (target : ParseTarget)
  | domainRange (check : Option (DomainCheck δ))
  | crossField (column : Option String) (comparator : Option Comparator) (target : ParseTarget)
  | textQuality (check : Option TextReading)
  | jsonField (check : Option FieldReading)
  | jsonArray (check : Option ArrayReading)
  | spelling (check : Option SpellingReading)

/-- The reading of the parameters of a type. -/
def RuleKind.reading (rt : Runtime δ) (kind : RuleKind) (params : PyDict) : RuleReading δ :=
  match kind with
  | nonNull => .nonNull
  | uniqueness => .uniqueness
  | typeParse =>
    .typeParse (parseTarget (parsedType rt.python params) (formatParameter rt.python params))
  -- a check that cannot be compiled has none
  | domainRange => .domainRange (domainCheck rt params).toOption
  -- the comparison reads the aliases as the engine does
  | crossField => .crossField (columnName (comparedColumn params))
      (comparators.lookup (rt.python.upper (rt.python.str
        (params.getD "operator" (.str ">=")))))
      (comparedTarget rt.python params)
  | textQuality =>
    .textQuality ((TextQualityParameters.validate params).toOption.map (·.reading))
  | jsonField =>
    .jsonField ((JsonFieldParameters.validate rt.python params).toOption.map (·.reading))
  | jsonArray =>
    .jsonArray ((JsonArrayParameters.validate rt.python params).toOption.map (·.reading))
  | spelling => .spelling ((SpellingParameters.validate params).toOption.map (·.reading))

/-! ### Compilation from a reading -/

/-- Forgetting the error commutes with sequencing. -/
theorem toOption_bind {ε β γ : Type} (x : Except ε β) (f : β → Except ε γ) :
    (x >>= f).toOption = x.toOption.bind fun b => (f b).toOption := by
  cases x <;> rfl

/-- What follows a value depends on what is read of it. -/
theorem bind_congr_of_map {β γ ρ : Type} {read : β → ρ} {x y : Option β} {f g : β → Option γ}
    (h : x.map read = y.map read) (h_read : ∀ a b, read a = read b → f a = g b) :
    x.bind f = y.bind g := by
  cases x with
  | none => cases y with
    | none => rfl
    | some b => cases h
  | some a => cases y with
    | none => cases h
    | some b => exact h_read a b (Option.some.inj h)

/-- The parse depends on the target that type and format name. -/
theorem parseColumn_congr {spark : Spark δ} {dataType format dataType' format' : String}
    (h : parseTarget dataType format = parseTarget dataType' format') (name : String) :
    parseColumn spark name dataType format = parseColumn spark name dataType' format' := by
  unfold parseTarget at h
  unfold parseColumn
  by_cases h_temporal : dataType ∈ temporalTypes <;>
    by_cases h_temporal' : dataType' ∈ temporalTypes <;>
    by_cases h_floating : dataType ∈ floatingTypes <;>
    by_cases h_floating' : dataType' ∈ floatingTypes <;> simp_all

/-- Only a text names a column. -/
theorem quotedCol_toOption (v : PyValue) : (quotedCol v).toOption = v.text? := by
  cases v <;> rfl

section Compiler

variable [LinearOrder δ] {rt : Runtime δ} {rule rule' : QualityRule α} {target target' : PyValue}

omit [LinearOrder δ] in
/-- Rules with one target and one parse compile to one meaning. -/
theorem compileTypeParse_congr (h_id : rule.ruleId = rule'.ruleId)
    (h_target : target.text? = target'.text?)
    (h : parseTarget (parsedType rt.python rule.parameters)
        (formatParameter rt.python rule.parameters) =
      parseTarget (parsedType rt.python rule'.parameters)
        (formatParameter rt.python rule'.parameters)) :
    (compileTypeParse rt rule target).toOption = (compileTypeParse rt rule' target').toOption := by
  simp only [compileTypeParse, toOption_bind, quotedCol_toOption, h_target, h_id,
    parseColumn_congr h]

/-- Rules with one domain check compile to one meaning. -/
theorem compileDomainRange_congr (h_id : rule.ruleId = rule'.ruleId)
    (h_target : target.text? = target'.text?)
    (h : (domainCheck rt rule.parameters).toOption = (domainCheck rt rule'.parameters).toOption) :
    (compileDomainRange rt rule target).toOption =
      (compileDomainRange rt rule' target').toOption := by
  simp only [compileDomainRange, toOption_bind, quotedCol_toOption, h_target, h_id, h]

/-- The compiled comparison of two columns. -/
def comparisonRule (spark : Spark δ) (ruleId : Uuid) (comparator : Comparator)
    (dataType format target other : String) : CompiledRule :=
  -- one missing cell of the two is enough
  let missing := (isMissing target).or (isMissing other)
  let parsedA := parseColumn spark target dataType format
  let parsedB := parseColumn spark other dataType format
  let miscast := missing.not.and (parsedA.isNull.or parsedB.isNull)
  { ruleId
    targetColumn := target
    referencedColumns := [target, other]
    missingExpr := missing
    miscastExpr := miscast
    failedExpr := (missing.not.and miscast.not).and
      (Column.compare comparator.apply parsedA parsedB).not }

omit [LinearOrder δ] in
/-- A falsy value names no column. -/
theorem columnName_of_falsy {v : PyValue} (h : v.truthy = false) : columnName v = none := by
  cases v with
  | str s => simpa [columnName, PyValue.text?, PyValue.truthy] using h
  | _ => rfl

omit [LinearOrder δ] in
/-- A truthy value names a column when it is a text. -/
theorem columnName_of_truthy {v : PyValue} (h : v.truthy = true) : columnName v = v.text? := by
  cases v with
  | str s =>
    have h_ne : s ≠ "" := PyValue.truthy_str.mp h
    simp [columnName, PyValue.text?, h_ne]
  | _ => rfl

/-- A CROSS_FIELD rule compiles when it names an operator and a column. -/
theorem compileCrossField_toOption :
    (compileCrossField rt rule target).toOption =
      (comparators.lookup (rt.python.upper (rt.python.str
        (rule.parameters.getD "operator" (.str ">="))))).bind fun comparator =>
          target.text?.bind fun name =>
          (columnName (comparedColumn rule.parameters)).map fun other =>
            let dataType := rt.python.upper (rt.python.str
              ((rule.parameters.get "data_type").orElse (.str "DOUBLE")))
            comparisonRule rt.spark rule.ruleId comparator
              (if dataType ∈ temporalTypes then dataType else "DOUBLE")
              (formatParameter rt.python rule.parameters) name other := by
  simp only [compileCrossField, toOption_bind, quotedCol_toOption, fieldComparison]
  rw [← comparedColumn]
  cases h_truthy : (comparedColumn rule.parameters).truthy with
  | false => simp [columnName_of_falsy h_truthy, Except.toOption]
  | true =>
    rw [if_neg Bool.true_eq_false_eq_False, columnName_of_truthy h_truthy]
    cases comparators.lookup (rt.python.upper (rt.python.str
      (rule.parameters.getD "operator" (.str ">=")))) with
    | none => rfl
    | some comparator =>
      cases target.text? with
      | none => rfl
      | some name =>
        simp only [Except.toOption, Option.bind_some]
        cases (comparedColumn rule.parameters).text? <;> rfl

/-- A comparison depends on the parse of its two columns. -/
theorem comparisonRule_congr {spark : Spark δ}
    {dataType format dataType' format' : String}
    (h : parseTarget dataType format = parseTarget dataType' format') (ruleId : Uuid)
    (comparator : Comparator) (name other : String) :
    comparisonRule spark ruleId comparator dataType format name other =
      comparisonRule spark ruleId comparator dataType' format' name other := by
  simp only [comparisonRule, parseColumn_congr h]

omit [LinearOrder δ] in
/-- A comparison parses numbers where the type is not temporal. -/
theorem parseTarget_compared (dataType format : String) :
    parseTarget (if dataType ∈ temporalTypes then dataType else "DOUBLE") format =
      (parseTarget dataType format).compared := by
  unfold parseTarget
  by_cases h_temporal : dataType ∈ temporalTypes
  · simp only [if_pos h_temporal, ParseTarget.compared]
  · simp only [if_neg h_temporal]
    rw [if_neg (by decide), if_pos (by decide)]
    split <;> rfl

/-- Rules with one comparison compile to one meaning. -/
theorem compileCrossField_congr (h_id : rule.ruleId = rule'.ruleId)
    (h_target : target.text? = target'.text?)
    (h_column : columnName (comparedColumn rule.parameters) =
      columnName (comparedColumn rule'.parameters))
    (h_operator : comparators.lookup (rt.python.upper (rt.python.str
        (rule.parameters.getD "operator" (.str ">=")))) =
      comparators.lookup (rt.python.upper (rt.python.str
        (rule'.parameters.getD "operator" (.str ">=")))))
    (h : comparedTarget rt.python rule.parameters = comparedTarget rt.python rule'.parameters) :
    (compileCrossField rt rule target).toOption =
      (compileCrossField rt rule' target').toOption := by
  simp only [compileCrossField_toOption, h_target, h_column, h_operator, h_id]
  congr 1
  funext comparator
  congr 1
  funext name
  congr 1
  funext other
  refine comparisonRule_congr ?_ rule'.ruleId comparator name other
  rw [parseTarget_compared, parseTarget_compared]
  exact h

omit [LinearOrder δ] in
/-- The conditions of a text quality rule are those of its reading. -/
theorem compileTextQuality_congr (h_id : rule.ruleId = rule'.ruleId)
    (h_target : target.text? = target'.text?)
    (h : (TextQualityParameters.validate rule.parameters).toOption.map (·.reading) =
      (TextQualityParameters.validate rule'.parameters).toOption.map (·.reading)) :
    (compileTextQuality rt rule target).toOption =
      (compileTextQuality rt rule' target').toOption := by
  simp only [compileTextQuality, toOption_bind, quotedCol_toOption, h_target, h_id]
  refine bind_congr_of_map h fun a b h_read => ?_
  have h_check : a.check = b.check := congrArg TextReading.check h_read
  have h_min := congrArg TextReading.minLength h_read
  have h_max := congrArg TextReading.maxLength h_read
  simp only [TextQualityParameters.reading, h_check] at h_min h_max
  have h_literals : a.literals = b.literals := by
    unfold TextQualityParameters.literals
    by_cases h_length : b.check = .length
    · rw [if_pos h_length] at h_min h_max
      rw [h_check, h_min, h_max]
      simp only [h_length, if_true]
    · simp only [h_check, h_length, if_false]
  have h_rejected : ∀ col, a.rejected rt.spark col = b.rejected rt.spark col := by
    intro col
    unfold TextQualityParameters.rejected
    rw [h_check]
    cases h_length : b.check with
    | length =>
      rw [h_length, if_pos rfl, if_pos rfl] at h_min h_max
      rw [h_min, h_max]
    | _ => rfl
  simp only [h_literals, h_rejected]

omit [LinearOrder δ] in
/-- A range is evaluated on the path and the bounds. -/
theorem evaluateJsonField_congr {a b : JsonFieldParameters} (h_range : b.check = .range)
    (h : a.reading = b.reading) :
    evaluateJsonField rt.python rt.parse a = evaluateJsonField rt.python rt.parse b := by
  have h_path : a.path = b.path := congrArg FieldReading.path h
  have h_check : a.check = b.check := congrArg FieldReading.check h
  have h_min := congrArg FieldReading.min h
  have h_max := congrArg FieldReading.max h
  simp only [JsonFieldParameters.reading, h_check, h_range, if_true] at h_min h_max
  funext value
  simp only [evaluateJsonField, h_path, h_check, h_range, evaluateRange, h_min, h_max]

omit [LinearOrder δ] in
/-- The other checks are conditions on the field, with the payload of their check. -/
theorem conditions_congr {a b : JsonFieldParameters} (h : a.reading = b.reading)
    (field : Column JsonField) : a.conditions rt.spark field = b.conditions rt.spark field := by
  have h_check : a.check = b.check := congrArg FieldReading.check h
  unfold JsonFieldParameters.conditions
  rw [h_check]
  cases h_b : b.check with
  | nonNull | range => rfl
  | type =>
    have h_type := congrArg FieldReading.expectedType h
    simp only [JsonFieldParameters.reading, h_check, h_b, if_true] at h_type
    rw [h_type]
  | regex =>
    have h_pattern := congrArg FieldReading.pattern h
    simp only [JsonFieldParameters.reading, h_check, h_b, if_true] at h_pattern
    rw [h_pattern]
  | allowedValues =>
    have h_values := congrArg FieldReading.allowedValues h
    simp only [JsonFieldParameters.reading, h_check, h_b, if_true] at h_values
    rw [h_values]

omit [LinearOrder δ] in
/-- Field rules with one reading compile to one meaning. -/
theorem compileJsonField_congr (h_id : rule.ruleId = rule'.ruleId)
    (h_target : target.text? = target'.text?)
    (h : (JsonFieldParameters.validate rt.python rule.parameters).toOption.map (·.reading) =
      (JsonFieldParameters.validate rt.python rule'.parameters).toOption.map (·.reading)) :
    (compileJsonField rt rule target).toOption = (compileJsonField rt rule' target').toOption := by
  simp only [compileJsonField, toOption_bind, quotedCol_toOption, h_target, h_id]
  refine bind_congr_of_map h fun a b h_read => ?_
  have h_path : a.path = b.path := congrArg FieldReading.path h_read
  have h_check : a.check = b.check := congrArg FieldReading.check h_read
  cases target'.text? with
  | none => rfl
  | some name =>
    simp only [Option.bind_some, h_check]
    by_cases h_range : b.check = .range
    · have h_label : rangeLabel rt a name = rangeLabel rt b name := by
        rw [rangeLabel, evaluateJsonField_congr h_range h_read, rangeLabel]
      simp only [if_pos h_range, h_label, compileLabel, h_id]
    · simp only [if_neg h_range, fieldColumn, h_path, conditions_congr h_read]

omit [LinearOrder δ] in
/-- Array rules with one reading compile to one meaning. -/
theorem compileJsonArray_congr (h_id : rule.ruleId = rule'.ruleId)
    (h_target : target.text? = target'.text?)
    (h : (JsonArrayParameters.validate rt.python rule.parameters).toOption.map (·.reading) =
      (JsonArrayParameters.validate rt.python rule'.parameters).toOption.map (·.reading)) :
    (compileJsonArray rt rule target).toOption = (compileJsonArray rt rule' target').toOption := by
  simp only [compileJsonArray, toOption_bind, quotedCol_toOption, h_target, h_id, compileLabel]
  refine bind_congr_of_map h fun a b h_read => ?_
  have h_path : a.path = b.path := congrArg ArrayReading.path h_read
  have h_min : a.minItems = b.minItems := congrArg ArrayReading.minItems h_read
  have h_max : a.maxItems = b.maxItems := congrArg ArrayReading.maxItems h_read
  have h_unique : a.uniqueItems = b.uniqueItems := congrArg ArrayReading.uniqueItems h_read
  have h_label : evaluateJsonArray rt.python rt.parse a =
    evaluateJsonArray rt.python rt.parse b := by
    funext value
    simp only [evaluateJsonArray, arrayLabel, h_path, h_min, h_max, h_unique]
  rw [h_label]

omit [LinearOrder δ] in
/-- Spelling rules with one reading compile to one meaning. -/
theorem compileSpelling_congr (h_id : rule.ruleId = rule'.ruleId)
    (h_target : target.text? = target'.text?)
    (h : (SpellingParameters.validate rule.parameters).toOption.map (·.reading) =
      (SpellingParameters.validate rule'.parameters).toOption.map (·.reading)) :
    (compileSpelling rt rule target).toOption = (compileSpelling rt rule' target').toOption := by
  simp only [compileSpelling, toOption_bind, quotedCol_toOption, h_target, compileLabel, h_id]
  refine bind_congr_of_map h fun a b h_read => ?_
  have h_language : a.language = b.language := congrArg SpellingReading.language h_read
  have h_revision : a.dictionaryRevision = b.dictionaryRevision :=
    congrArg SpellingReading.dictionaryRevision h_read
  have h_terms : a.acceptedTerms = b.acceptedTerms :=
    congrArg SpellingReading.acceptedTerms h_read
  have h_digests : a.dictionaryDigests = b.dictionaryDigests :=
    congrArg SpellingReading.dictionaryDigests h_read
  simp only [pinnedBundle, h_language, h_revision, h_terms, h_digests]

/-- Whatever the kind, the reading of the parameters determines the meaning of the compiled
rule. -/
theorem compile_congr {kind : RuleKind} (h_id : rule.ruleId = rule'.ruleId)
    (h_target : target.text? = target'.text?)
    (h : kind.reading rt rule.parameters = kind.reading rt rule'.parameters) :
    (kind.compile rt rule target).toOption = (kind.compile rt rule' target').toOption := by
  cases kind with
  | nonNull =>
    simp only [RuleKind.compile, compileNonNull, toOption_bind, quotedCol_toOption, h_target, h_id]
  | uniqueness =>
    simp only [RuleKind.compile, compileUniqueness, toOption_bind, quotedCol_toOption, h_target,
      h_id]
  | typeParse => exact compileTypeParse_congr h_id h_target (RuleReading.typeParse.inj h)
  | domainRange => exact compileDomainRange_congr h_id h_target (RuleReading.domainRange.inj h)
  | crossField =>
    obtain ⟨h_column, h_operator, h_type⟩ := RuleReading.crossField.inj h
    exact compileCrossField_congr h_id h_target h_column h_operator h_type
  | textQuality => exact compileTextQuality_congr h_id h_target (RuleReading.textQuality.inj h)
  | jsonField => exact compileJsonField_congr h_id h_target (RuleReading.jsonField.inj h)
  | jsonArray => exact compileJsonArray_congr h_id h_target (RuleReading.jsonArray.inj h)
  | spelling => exact compileSpelling_congr h_id h_target (RuleReading.spelling.inj h)

/-- No compiler accepts a target that is not a text. -/
theorem compile_of_no_text {kind : RuleKind} (h : target.text? = none) :
    (kind.compile rt rule target).toOption = none := by
  cases h_compile : kind.compile rt rule target with
  | error e => rfl
  | ok cr =>
    have h_text : ∃ name, target = .str name := by
      by_cases h_cross : kind = .crossField
      · subst h_cross
        obtain ⟨name, _, h_name, _⟩ := compileCrossField_columns h_compile
        exact ⟨name, h_name⟩
      · obtain ⟨name, h_name, _⟩ := compile_columns h_cross h_compile
        exact ⟨name, h_name⟩
    obtain ⟨name, rfl⟩ := h_text
    cases h

/-- A rule compiles when it names a target, its kind is known and the kind compiles it. -/
theorem compileRule_toOption :
    (compileRule rt rule).toOption = (targetName rule.parameters).bind fun name =>
      (ruleKind rt.python rule).bind fun kind => (kind.compile rt rule (.str name)).toOption := by
  show _ = (columnName (ruleTargetColumn rule)).bind _
  simp only [compileRule]
  cases h_truthy : (ruleTargetColumn rule).truthy with
  | false => rw [columnName_of_falsy h_truthy]; rfl
  | true =>
    rw [if_neg Bool.true_eq_false_eq_False, columnName_of_truthy h_truthy]
    cases h_kind : ruleKind rt.python rule with
    | none => cases (ruleTargetColumn rule).text? <;> rfl
    | some kind =>
      cases h_text : (ruleTargetColumn rule).text? with
      | none => exact compile_of_no_text h_text
      | some name => exact compile_congr rfl h_text rfl

/-- **A rule compiles to what is read of it**: with one identifier, type, target and reading two
rules compile to one rule, or to none. -/
theorem compileRule_congr (h_id : rule.ruleId = rule'.ruleId)
    (h_type : rule.ruleType = rule'.ruleType)
    (h_target : targetName rule.parameters = targetName rule'.parameters)
    (h : ∀ kind, ruleKind rt.python rule = some kind →
      kind.reading rt rule.parameters = kind.reading rt rule'.parameters) :
    (compileRule rt rule).toOption = (compileRule rt rule').toOption := by
  have h_kind : ruleKind rt.python rule = ruleKind rt.python rule' :=
    congrArg (fun ruleType => compilers.lookup (rt.python.upper ruleType)) h_type
  rw [compileRule_toOption, compileRule_toOption, ← h_target, ← h_kind]
  cases h_some : ruleKind rt.python rule with
  | none => rfl
  | some kind =>
    simp only [Option.bind_some]
    congr 1
    funext name
    exact compile_congr h_id rfl (h kind h_some)

end Compiler

end DqScoring
