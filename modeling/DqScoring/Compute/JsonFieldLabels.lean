import DqScoring.Compute.Partition

/-!
# The two readings of a JSON field rule

A JSON field rule is read twice in the source. `evaluate_json_field` labels a cell by a
nest of early returns, and `compile_json_field` extracts the field and decides the label
with SQL conditions over its nullable parts; RANGE uses the first, every other check the
second. `jsonField_landsIn_label` says that the two agree: the row lands in the bucket of
the label.

Both are functions of the extracted field. A field that is present has a kind and a text,
so that no condition is NULL, and the conditions take the values that the returns test.
-/

namespace DqScoring

open Framework.Kleene

/-! ### Buckets by label -/

namespace CompiledRule

/-- The summed condition of a label. -/
def bucketOf (cr : CompiledRule) : CellLabel → Column Bool
  | .notApplicable => cr.naBucket
  | .missing => cr.missingBucket
  | .miscast => cr.miscastBucket
  | .failed => cr.failedBucket
  | .passed => cr.passedBucket

/-- The row counts in the bucket of the label, and in no other. -/
def LandsIn (cr : CompiledRule) (row : Row) (label : CellLabel) : Prop :=
  ∀ l, (cr.bucketOf l).value row = some true ↔ l = label

end CompiledRule

/-- The label of the first guard that holds. -/
def firstLabel (isNa isMissing isMiscast isFailed : Bool) : CellLabel :=
  if isNa then .notApplicable
  else if isMissing then .missing
  else if isMiscast then .miscast
  else if isFailed then .failed
  else .passed

/-- Guards that are not NULL put the row in the bucket of the first that holds. -/
theorem landsIn_firstLabel {cr : CompiledRule} {row : Row} {na missing miscast failed : Bool}
    (h_na : cr.isNa.value row = some na) (h_missing : cr.missingExpr.value row = some missing)
    (h_miscast : cr.miscastExpr.value row = some miscast)
    (h_failed : cr.isFailed.value row = some failed) :
    cr.LandsIn row (firstLabel na missing miscast failed) := by
  intro label
  unfold CompiledRule.bucketOf CompiledRule.naBucket CompiledRule.missingBucket
    CompiledRule.miscastBucket CompiledRule.failedBucket CompiledRule.passedBucket
  -- one case for every label, and in it one for every value of the guards
  cases label <;> simp only [Column.and_value, Column.not_value, h_na, h_missing, h_miscast,
    h_failed, not3_some, and3_some] <;> clear h_na h_missing h_miscast h_failed <;>
    revert na missing miscast failed <;> decide

/-! ### The label of a field -/

/-- The checks that only test the extracted field. -/
def JsonCheck.TestsField (check : JsonCheck) : Prop :=
  check = .nonNull ∨ check = .type ∨ check = .allowedValues

namespace JsonFieldParameters

variable (params : JsonFieldParameters) (f : JsonField)

/-- The text is an allowed value. -/
def allows : Bool := f.text.any (params.allowedValues.getD []).contains

/-- The present field has a kind that the check does not accept. -/
def isMistyped : Bool :=
  match params.check with
  | .type => decide (f.kind ≠ params.expectedType)
  | .allowedValues => decide (f.kind ≠ some .string)
  | _ => false

/-- The present field is a text that is not allowed. -/
def isRejected : Bool :=
  decide (params.check = .allowedValues) && decide (f.kind = some .string) && !params.allows f

/-- The label that the field gets from a check that only tests it. -/
def fieldLabel : CellLabel :=
  firstLabel false (decide (f.state = .missing))
    (decide (f.state = .miscast) || decide (f.state = .present) && params.isMistyped f)
    (decide (f.state = .present) && params.isRejected f)

end JsonFieldParameters

variable {α δ : Type} {rt : Runtime δ} {params : JsonFieldParameters}

/-- `evaluate_json_field` returns the label of the field. -/
theorem evaluateJsonField_eq {cell : Option String} {f : JsonField}
    (h_check : params.check.TestsField)
    (h_field : extractJsonField rt.python rt.parse cell params.path = .ok f) :
    evaluateJsonField rt.python rt.parse params cell = .ok (params.fieldLabel f) := by
  unfold evaluateJsonField JsonFieldParameters.fieldLabel
  rw [h_field]
  simp only [bind, Except.bind, pure, Except.pure]
  cases h_state : f.state with
  | missing => rfl
  | miscast => rfl
  | present =>
    rcases h_check with h | h | h
    · simp [h, firstLabel, JsonFieldParameters.isMistyped, JsonFieldParameters.isRejected]
    · by_cases h_kind : f.kind = params.expectedType <;>
        simp [h, firstLabel, JsonFieldParameters.isMistyped, h_kind,
          JsonFieldParameters.isRejected]
    · by_cases h_kind : f.kind = some .string
      · by_cases h_text : params.allows f = true
        · simp [h, firstLabel, JsonFieldParameters.isMistyped, JsonFieldParameters.isRejected,
            h_kind, h_text]
          exact h_text
        · have h_text' : ¬ f.text.any (params.allowedValues.getD []).contains = true := h_text
          simp [h, firstLabel, JsonFieldParameters.isMistyped, JsonFieldParameters.isRejected,
            h_kind, h_text, h_text']
      · simp [h, firstLabel, JsonFieldParameters.isMistyped, h_kind]

/-! ### The values of the conditions -/

section Conditions

variable {field : Column JsonField} {row : Row} {f : JsonField}

/-- `IN` over texts is membership. -/
theorem isinValue_eq_contains (spark : Spark δ) (values : List String) (s : String) :
    Column.isinValue spark (values.map .str) s = some (values.contains s) := by
  have h_equals := ((spark.text_comparison _ (allowedValues_isTextList values)).2 s).2
  unfold Column.isinValue
  -- the comparison is with all values, the disjunction over the remaining ones
  generalize spark.equalsLiteral (values.map .str) s = equals at h_equals
  induction values with
  | nil => rfl
  | cons t rest ih =>
    rw [List.map_cons, List.foldr_cons, ih, h_equals, List.contains_cons]
    exact or3_some _ _

/-- A field of another kind is one that is present and differs in kind. -/
theorem isOtherKind_eq (h_value : field.value row = some f) (h_complete : f.Complete)
    (kind : JsonKind) : (isOtherKind field kind).value row =
      some (decide (f.state = .present) && decide (f.kind ≠ some kind)) := by
  have h_state := stateIs_value h_value .present
  unfold isOtherKind
  rw [Column.and_value, h_state]
  by_cases h_present : f.state = .present
  · -- a field that is present has a kind
    obtain ⟨k, h_k⟩ := Option.isSome_iff_exists.mp (h_complete h_present).1
    simp [h_present, h_value, h_k]
  · simp [h_present]

/-- A field mismatches the allowed values when it is present and none of them. -/
theorem mismatched_isin_eq (spark : Spark δ) (values : List String)
    (h_value : field.value row = some f) (h_complete : f.Complete) :
    (mismatched field (.isin spark (values.map .str))).value row =
      some (decide (f.state = .present) &&
        (decide (f.kind = some .string) && !f.text.any values.contains)) := by
  have h_state := stateIs_value h_value .present
  unfold mismatched
  rw [Column.and_value, Column.and_value, h_state]
  by_cases h_present : f.state = .present
  · obtain ⟨k, h_k⟩ := Option.isSome_iff_exists.mp (h_complete h_present).1
    obtain ⟨t, h_t⟩ := Option.isSome_iff_exists.mp (h_complete h_present).2
    simp [h_present, h_value, h_k, h_t, isinValue_eq_contains]
  · simp [h_present]

/-- The conditions take the values that the returns test. -/
theorem JsonFieldParameters.conditions_value (spark : Spark δ) (h_check : params.check.TestsField)
    (h_value : field.value row = some f) (h_complete : f.Complete) :
    (params.conditions spark field).1.value row =
        some (decide (f.state = .miscast) ||
          decide (f.state = .present) && params.isMistyped f) ∧
      (params.conditions spark field).2.value row =
        some (decide (f.state = .present) && params.isRejected f) := by
  have h_miscast := stateIs_value h_value .miscast
  unfold JsonFieldParameters.conditions JsonFieldParameters.isMistyped
    JsonFieldParameters.isRejected JsonFieldParameters.allows
  rcases h_check with h | h | h
  · simp [h, h_miscast]
  · -- the expected type of a type check is given
    obtain ⟨kind, h_kind⟩ := Option.isSome_iff_exists.mp (params.type_given h)
    have h_mistyped := isOtherKind_eq h_value h_complete kind
    simp [h, h_miscast, h_kind, h_mistyped]
  · have h_mistyped := isOtherKind_eq h_value h_complete .string
    have h_mismatched := mismatched_isin_eq spark (params.allowedValues.getD []) h_value h_complete
    simp [h, h_miscast, h_mistyped, h_mismatched]

end Conditions

/-! ### Agreement -/

/-- Where the parser raises nothing the extraction answers. -/
theorem exists_field_of_parses {cell : Option String} (path : String)
    (h_parse : ∀ text e, cell = some text → rt.parse text ≠ .error (.raised e)) :
    ∃ f, extractJsonField rt.python rt.parse cell path = .ok f := by
  cases cell with
  | none => exact ⟨_, rfl⟩
  | some text =>
    cases h : rt.parse text with
    | error failure =>
      cases failure with
      | structured code => exact ⟨{ state := .miscast }, by simp only [extractJsonField, h]⟩
      | raised e => exact absurd h (h_parse text e rfl)
    | ok root =>
      simp only [extractJsonField, h]
      split_ifs <;> exact ⟨_, rfl⟩

/-- **The two readings agree.** For every valid rule with one of the checks NON_NULL, TYPE
and ALLOWED_VALUES, and every cell on which parsing raises nothing but a
`StructuredParsingError`, the row lands in the bucket of the label that
`evaluate_json_field` returns. -/
theorem jsonField_landsIn_label (rt : Runtime δ) (rule : QualityRule α) (target : String)
    {params : JsonFieldParameters}
    (h_params : JsonFieldParameters.validate rt.python rule.parameters = .ok params)
    (h_check : params.check.TestsField) (row : Row)
    (h_parse : ∀ text e, row.cell target = some text → rt.parse text ≠ .error (.raised e)) :
    ∃ cr label, compileJsonField rt rule (.str target) = .ok cr ∧
      evaluateJsonField rt.python rt.parse params (row.cell target) = .ok label ∧
      cr.LandsIn row label := by
  obtain ⟨f, h_field⟩ := exists_field_of_parses params.path h_parse
  have h_value : (fieldColumn rt params target).value row = some f := by
    simp [fieldColumn, h_field, Except.toOption]
  have h_complete := extractJsonField_complete h_field
  have h_range : params.check ≠ .range := by
    rcases h_check with h | h | h <;> rw [h] <;> decide
  have h_conditions := params.conditions_value rt.spark h_check h_value h_complete
  have h_compile : compileJsonField rt rule (.str target) = .ok {
      ruleId := rule.ruleId
      targetColumn := target
      referencedColumns := [target]
      missingExpr := stateIs (fieldColumn rt params target) .missing
      miscastExpr := (params.conditions rt.spark (fieldColumn rt params target)).1
      failedExpr := (params.conditions rt.spark (fieldColumn rt params target)).2 } := by
    unfold compileJsonField
    rw [h_params]
    simp only [bind, Except.bind, pure, Except.pure, quotedCol, if_neg h_range]
  refine ⟨_, _, h_compile, evaluateJsonField_eq h_check h_field, ?_⟩
  exact landsIn_firstLabel rfl (stateIs_value h_value .missing) h_conditions.1 h_conditions.2

/-- A rule that wants one of two texts at the root. -/
def statusRule : QualityRule ℚ where
  ruleId := Uuid.repeated 1
  ruleCode := "STATUS_IS_KNOWN"
  dimension := "VALIDITY"
  ruleType := "JSON_FIELD"
  parameters := [("column", .str "document"), ("path", .str ""),
    ("check", .str "ALLOWED_VALUES"), ("allowed_values", .list [.str "active", .str "paused"])]
  contributionWeight := 1

/-- The parameters of the rule. -/
def statusParameters : JsonFieldParameters where
  column := "document"
  path := ""
  check := .allowedValues
  allowedValues := some ["active", "paused"]
  column_ne := by decide
  path_ok := isJsonPointer_root
  type_given := by decide
  range_given := by decide
  regex_given := by decide
  values_given := by decide

/-- A row with a text for a document. -/
def closedRow : Row := { cell := fun _ => some "\"closed\"" }

/-- A parser that knows the document of the row. -/
def closedRuntime : Runtime ℚ :=
  { literalRuntime with
    parse := fun text =>
      if closedRow.cell "document" = some text then .ok (.str "closed")
      else .error (.structured "INVALID_JSON") }

/-- The field is there, with a text that is not allowed. -/
theorem jsonField_landsIn_label_statusRule : ∃ cr,
    compileJsonField closedRuntime statusRule (.str "document") = .ok cr ∧
      evaluateJsonField closedRuntime.python closedRuntime.parse statusParameters
        (closedRow.cell "document") = .ok .failed ∧
      cr.LandsIn closedRow .failed := by
  have h_params : JsonFieldParameters.validate closedRuntime.python statusRule.parameters =
      .ok statusParameters := rfl
  have h_parse : ∀ text e, closedRow.cell "document" = some text →
      closedRuntime.parse text ≠ .error (.raised e) := by
    intro text e h_cell h_raised
    change (if closedRow.cell "document" = some text then _ else _) = _ at h_raised
    rw [if_pos h_cell] at h_raised
    cases h_raised
  obtain ⟨cr, label, h_compile, h_label, h_lands⟩ := jsonField_landsIn_label closedRuntime
    statusRule "document" h_params (Or.inr (Or.inr rfl)) closedRow h_parse
  have h_failed : evaluateJsonField closedRuntime.python closedRuntime.parse statusParameters
      (closedRow.cell "document") = .ok .failed := by
    decide +kernel
  rw [h_failed] at h_label
  obtain rfl := Except.ok.inj h_label
  exact ⟨cr, h_compile, h_failed, h_lands⟩

end DqScoring
