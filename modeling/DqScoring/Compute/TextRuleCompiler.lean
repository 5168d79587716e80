import DqScoring.Compute.SqlRuleCompiler

/-!
# Compilers of the extended rule types

`adapters/compute/text_rule_compiler.py`: the types TEXT_QUALITY, JSON_FIELD, JSON_ARRAY
and SPELLING. The last three evaluate a Python function on every cell, which labels the
cell or extracts a field from it. The cache of evaluators on the workers does not show.
-/

namespace DqScoring

variable {α δ : Type}

/-- The conditions of a rule that labels its cells. -/
def compileLabel (rule : QualityRule α) (target : String) (label : Column CellLabel) :
    CompiledRule where
  ruleId := rule.ruleId
  targetColumn := target
  referencedColumns := [target]
  missingExpr := label.map fun l => decide (l = .missing)
  miscastExpr := label.map fun l => decide (l = .miscast)
  failedExpr := label.map fun l => decide (l = .failed)

/-! ### TEXT_QUALITY -/

/-- The texts whose length is outside the bounds. -/
def outOfLength (min max : Option ℕ) (col : Column String) : Column Bool :=
  let short := match min with
    | some lo => (Column.lit false).or (col.map fun s => decide (s.length < lo))
    | none => .lit false
  match max with
  | some hi => short.or (col.map fun s => decide (s.length > hi))
  | none => short

/-- The texts that a text quality rule rejects. -/
def TextQualityParameters.rejected (spark : Spark δ) (params : TextQualityParameters)
    (col : Column String) : Column Bool :=
  match params.check with
  | .replacementCharacter => col.map fun s => s.toList.contains (Char.ofNat 0xfffd)
  | .controlCharacter => col.rlike spark controlCharacterPattern
  | .mojibake => col.rlike spark mojibakePattern
  | .length => outOfLength params.minLength params.maxLength col

/-- The literals in the conditions of a text quality rule. -/
def TextQualityParameters.literals (params : TextQualityParameters) : List PyValue :=
  if params.check = .length then
    (params.minLength.toList ++ params.maxLength.toList).map fun n => .int n
  else []

/-- `compile_text_quality`. -/
def compileTextQuality (rt : Runtime δ) (rule : QualityRule α) (target : PyValue) :
    Except PyError CompiledRule := do
  let params ← TextQualityParameters.validate rule.parameters
  let target ← quotedCol target
  -- the bounds of the length become literals, which is where a huge one raises
  params.literals.forM rt.spark.literal
  let missing := isMissing target
  return {
    ruleId := rule.ruleId
    targetColumn := target
    referencedColumns := [target]
    missingExpr := missing
    failedExpr := missing.not.and (params.rejected rt.spark (.cell target)) }

/-! ### JSON_FIELD -/

/-- The label of a field by its range. -/
def rangeLabel (rt : Runtime δ) (params : JsonFieldParameters) (target : String) :
    Column CellLabel :=
  .udf (evaluateJsonField rt.python rt.parse params) (.cell target)

/-- The field that a rule reads. -/
def fieldColumn (rt : Runtime δ) (params : JsonFieldParameters) (target : String) :
    Column JsonField :=
  .udf (fun value => extractJsonField rt.python rt.parse value params.path) (.cell target)

/-- `field["state"] == state`. -/
def stateIs (field : Column JsonField) (state : FieldState) : Column Bool :=
  field.map fun f => decide (f.state = state)

/-- `(field["state"] == "present") & (field["kind"] != kind)`. -/
def isOtherKind (field : Column JsonField) (kind : JsonKind) : Column Bool :=
  (stateIs field .present).and ((field.bind (·.kind)).map fun k => decide (k ≠ kind))

/-- The texts of strings that do not match. -/
def mismatched (field : Column JsonField) (isMatch : Column String → Column Bool) :
    Column Bool :=
  ((stateIs field .present).and
    ((field.bind (·.kind)).map fun k => decide (k = .string))).and
      (isMatch (field.bind (·.text))).not

/-- The conditions `miscast` and `failed` of the checks other than RANGE. -/
def JsonFieldParameters.conditions (spark : Spark δ) (params : JsonFieldParameters)
    (field : Column JsonField) : Column Bool × Column Bool :=
  let miscast := stateIs field .miscast
  match params.check with
  -- a null is missing and has no kind, so no kind stands for an absent expectation
  | .type => (miscast.or (isOtherKind field (params.expectedType.getD .null)), .lit false)
  | .regex => (miscast.or (isOtherKind field .string),
      mismatched field (.rlike spark (params.pattern.getD "")))
  | .allowedValues => (miscast.or (isOtherKind field .string),
      mismatched field (.isin spark ((params.allowedValues.getD []).map .str)))
  | _ => (miscast, .lit false)

/-- `compile_json_field`. -/
def compileJsonField (rt : Runtime δ) (rule : QualityRule α) (target : PyValue) :
    Except PyError CompiledRule := do
  let params ← JsonFieldParameters.validate rt.python rule.parameters
  let target ← quotedCol target
  -- a range is evaluated in Python, on exact decimals
  if params.check = .range then
    return compileLabel rule target (rangeLabel rt params target)
  else
    let field := fieldColumn rt params target
    let conditions := params.conditions rt.spark field
    return {
      ruleId := rule.ruleId
      targetColumn := target
      referencedColumns := [target]
      missingExpr := stateIs field .missing
      miscastExpr := conditions.1
      failedExpr := conditions.2 }

/-! ### JSON_ARRAY -/

/-- `compile_json_array`. -/
def compileJsonArray (rt : Runtime δ) (rule : QualityRule α) (target : PyValue) :
    Except PyError CompiledRule := do
  let params ← JsonArrayParameters.validate rt.python rule.parameters
  let target ← quotedCol target
  return compileLabel rule target
    (.udf (evaluateJsonArray rt.python rt.parse params) (.cell target))

/-! ### SPELLING -/

/-- The dictionaries that a rule pins. -/
def pinnedBundle (rt : Runtime δ) (params : SpellingParameters) :
    Except PyError (List DictionaryFile) := do
  let digests ← rt.dictionaries.getDigests params.dictionaryRevision params.language
  if !params.dictionaryDigests.any fun pinned => sameDigests pinned digests then
    .error (.valueError "Pinned dictionary digests differ")
  let bundle ← rt.dictionaries.getBundle params.dictionaryRevision params.language
  -- the evaluator is built to see that the dictionaries load, and dropped
  let _ ← rt.dictionaries.createEvaluator rt.spelling params.dictionaryRevision
    params.language []
  return bundle

/-- `_spell_label`. -/
def spellLabel (rt : Runtime δ) (bundle : List DictionaryFile) (acceptedTerms : List String)
    (value : Option String) : Except PyError CellLabel := do
  let evaluator ← SpellingDictionaryManager.createEvaluatorFromBundle rt.spelling bundle
    acceptedTerms
  evaluator.evaluate rt.spelling value

/-- The error that a rule reports for its dictionaries. -/
def orUnavailable {β : Type} : Except PyError β → Except PyError β
  | .error (.valueError _) | .error (.osError _) =>
    .error (.valueError "TEXT_DICTIONARY_UNAVAILABLE")
  -- other exceptions pass the source's `except (ValueError, OSError)`
  | x => x

theorem ok_of_orUnavailable {β : Type} {x : Except PyError β} {b : β}
    (h : orUnavailable x = .ok b) : x = .ok b := by
  unfold orUnavailable at h
  split at h
  case h_3 => exact h
  all_goals cases h

/-- `compile_spelling`. -/
def compileSpelling (rt : Runtime δ) (rule : QualityRule α) (target : PyValue) :
    Except PyError CompiledRule := do
  let params ← SpellingParameters.validate rule.parameters
  let bundle ← orUnavailable (pinnedBundle rt params)
  let target ← quotedCol target
  let label := Column.udf (spellLabel rt bundle params.acceptedTerms) (.cell target)
  return { compileLabel rule target label with
    scopeExpr := some (label.map fun l => decide (l = .notApplicable)) }

end DqScoring
