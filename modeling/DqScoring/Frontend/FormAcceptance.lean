import DqScoring.Frontend.RuleMerge
import DqScoring.Frontend.RuleValidation

/-!
# Rules that the form lets through

Whether the API accepts a rule that the form has no problem with (`accepted_iff`). The form
does not look at the length of a code, at dollar signs, at the numbers of a length, at the
decimals of a range, at the number of values and terms, or at the length of patterns and terms;
nor does it see that a number of many digits is sent as `null`.
-/

namespace DqScoring

open Framework

variable {α δ : Type}

/-! ### What the API requires of texts -/

/-- The count that the API reads of the text of a bound, none where it rejects it. -/
def Js.readCount (js : Js α) (text : String) : Option (Option ℕ) :=
  if text = "" then some none
  else
    match js.sent text with
    -- what is no finite number is sent as `null`, which is no bound
    | .none => some none
    | .int n => if 0 ≤ n then some (some n.toNat) else none
    | _ => none

/-- Two counts of which the API takes both, with one given or something else instead. -/
def Js.CountsFit (js : Js α) (lo hi : String) (otherwise : Bool) : Prop :=
  ∃ min max, js.readCount lo = some min ∧ js.readCount hi = some max ∧
    (min.isSome || max.isSome || otherwise) = true ∧ inOrder min max = true

/-- The finite decimal that the API reads of the text of a bound, none where it rejects it. -/
def Python.readBound (python : Python δ) (text : String) : Option (Option ℚ) :=
  if text = "" then some none else ((python.decimal text).bind (·.finite?)).map some

/-- Two decimals in order. -/
def Python.BoundsFit (python : Python δ) (lo hi : String) : Prop :=
  ∃ min max, python.readBound lo = some min ∧ python.readBound hi = some max ∧
    inOrder min max = true

/-- A text that the API takes for a placeholder. -/
def isOpen (text : String) : Bool := isPlaceholder (.str text)

/-- What the API requires of the fields of a type that the form does not check. -/
def FitsType (js : Js α) (python : Python δ) (r : RuleDraft) : RuleType → Prop
  | .crossField => isOpen (jsTrim r.comparisonColumn) = false
  | .textQuality => r.check = "LENGTH" → js.CountsFit r.min r.max false
  -- the limits of the server on a list of terms
  | .spelling => isOpen r.dictionaryRevision = false ∧
      (jsItems '\n' r.acceptedTerms).length ≤ 1000 ∧
      ∀ term ∈ jsItems '\n' r.acceptedTerms, term.length ≤ 128
  | .jsonField =>
      -- of a check, only its own fields are sent
      (r.check = "RANGE" → python.BoundsFit r.min r.max) ∧
      (r.check = "REGEX" → r.pattern.length ≤ 512) ∧
      (r.check = "ALLOWED_VALUES" →
        jsItems ',' r.allowed ≠ [] ∧ (jsItems ',' r.allowed).length ≤ 1000)
  | .jsonArray => js.CountsFit r.min r.max r.uniqueItems
  | .notNull | .typeParse | .range | .allowedValues | .regex | .unique => True

/-- What the API requires of a draft that the form does not check. -/
structure FitsServer (js : Js α) (python : Python δ) (r : RuleDraft) : Prop where
  code : (jsTrim r.ruleCode).length ≤ 100
  column : isOpen (jsTrim r.column) = false
  type : FitsType js python r r.ruleType

/-! ### The keys of the parameters -/

/-- The keys that a type may send besides the column. -/
def RuleType.keys : RuleType → List String
  | notNull | unique => []
  | typeParse => ["data_type", "format"]
  | range => ["min_value", "max_value"]
  | allowedValues => ["allowed_values"]
  | regex => ["pattern"]
  | crossField => ["comparison_column", "operator", "data_type", "format"]
  | textQuality => ["check", "min_length", "max_length"]
  | spelling => ["language", "dictionary_revision", "accepted_terms"]
  | jsonField => ["path", "check", "expected_type", "min", "max", "pattern", "allowed_values"]
  | jsonArray => ["path", "min_items", "max_items", "unique_items"]

section Sent

variable {js : Js α} {python : Python δ} {r : RuleDraft}

/-- The form sends only the keys of its rule type. -/
theorem key_mem_keys (js : Js α) (r : RuleDraft) :
    ∀ entry ∈ r.typeParameters js, entry.1 ∈ r.ruleType.keys := by
  unfold RuleDraft.typeParameters
  cases r.ruleType <;>
    simp only [Js.count, Js.bound, textEntry, formatEntry] <;>
    (try split_ifs) <;> simp [RuleType.keys]

/-- A key of another rule type is not sent. -/
theorem get_eq_none {key : String} (h_column : key ≠ "column") (h : key ∉ r.ruleType.keys) :
    (r.parameters js).get key = .none := by
  have h_lookup : (r.typeParameters js).lookup key = none := by
    rw [List.lookup_eq_none_iff]
    intro entry h_entry
    rw [bne_iff_ne]
    rintro rfl
    exact h (key_mem_keys js r entry h_entry)
  rw [PyDict.get, RuleDraft.parameters, List.lookup_cons, beq_false_of_ne h_column, h_lookup]
  rfl

/-- A type sends no parameters that its model forbids. -/
theorem forbidExtra_parameters {names : List String} (h_column : "column" ∈ names)
    (h : ∀ key ∈ r.ruleType.keys, key ∈ names) :
    forbidExtra names (r.parameters js) = .ok () := by
  refine forbidExtra_eq_ok fun entry h_entry => ?_
  rcases List.mem_cons.mp h_entry with rfl | h_entry
  · exact h_column
  · exact h _ (key_mem_keys js r entry h_entry)

/-! ### Placeholders -/

/-- The comparison column is sent for cross-field rules only. -/
theorem get_comparisonColumn (js : Js α) (r : RuleDraft) :
    (r.parameters js).get "comparison_column" =
      if r.ruleType = .crossField then .str (jsTrim r.comparisonColumn) else .none := by
  split
  · rename_i h_type
    simp only [RuleDraft.parameters, RuleDraft.typeParameters, h_type]
    rfl
  · rename_i h_type
    apply get_eq_none (by decide)
    revert h_type
    cases r.ruleType <;> decide

/-- The revision of the dictionary is sent for spelling rules only. -/
theorem get_dictionaryRevision (js : Js α) (r : RuleDraft) :
    (r.parameters js).get "dictionary_revision" =
      if r.ruleType = .spelling then .str r.dictionaryRevision else .none := by
  split
  · rename_i h_type
    simp only [RuleDraft.parameters, RuleDraft.typeParameters, h_type]
    rfl
  · rename_i h_type
    apply get_eq_none (by decide)
    revert h_type
    cases r.ruleType <;> decide

/-- Allowed values are sent as a list. -/
theorem isPlaceholder_allowedValues (js : Js α) (r : RuleDraft) :
    isPlaceholder ((r.parameters js).get "allowed_values") = false := by
  show isPlaceholder (((r.typeParameters js).lookup "allowed_values").getD .none) = false
  unfold RuleDraft.typeParameters
  cases r.ruleType <;>
    simp only [Js.count, Js.bound, textEntry, formatEntry, List.lookup_append] <;>
    (try split_ifs) <;> rfl

/-- No placeholder is left exactly where the three names that may be placeholders are filled
in. -/
theorem placeholders_iff (js : Js α) (r : RuleDraft) :
    (∀ key ∈ placeholderKeys, isPlaceholder ((r.parameters js).get key) = false) ↔
      isOpen (jsTrim r.column) = false ∧
      (r.ruleType = .crossField → isOpen (jsTrim r.comparisonColumn) = false) ∧
      (r.ruleType = .spelling → isOpen r.dictionaryRevision = false) := by
  have h_if : ∀ (c : Prop) [Decidable c] (text : String),
      isPlaceholder (if c then .str text else .none) = false ↔ (c → isOpen text = false) := by
    intro c _ text
    by_cases h : c
    · simp [h, isOpen]
    · simp [h, isPlaceholder]
  simp only [placeholderKeys, List.forall_mem_cons, List.not_mem_nil, false_implies, implies_true,
    and_true, get_comparisonColumn, get_dictionaryRevision, isPlaceholder_allowedValues, h_if,
    true_and]
  rfl

/-! ### Counts -/

/-- A count that is sent is read as its text says. -/
theorem optional_count_iff {d : PyDict} {key text : String} {n : Option ℕ}
    (h : d.lookup key = (js.count key text).lookup key) :
    optional d key validateCount = .ok n ↔ js.readCount text = some n := by
  rw [optional, PyDict.get, h, Js.count, Js.readCount]
  by_cases h_empty : text = ""
  · rw [if_pos h_empty, if_pos h_empty]
    show Except.ok none = Except.ok n ↔ _
    rw [Except.ok.injEq, Option.some_inj]
  · rw [if_neg h_empty, if_neg h_empty, List.lookup_cons, beq_self_eq_true]
    simp only [Option.getD_some]
    cases js.sent text with
    | none => simp
    | int z =>
      by_cases h_z : 0 ≤ z
      · show some <$> validateCount key (.int z) = .ok n ↔ _
        rw [validateCount, if_pos h_z]
        show Except.ok (some z.toNat) = Except.ok n ↔ (if 0 ≤ z then _ else _) = _
        rw [if_pos h_z, Except.ok.injEq, Option.some_inj]
      · show some <$> validateCount key (.int z) = .ok n ↔ (if 0 ≤ z then _ else _) = _
        rw [validateCount, if_neg h_z, if_neg h_z]
        exact iff_of_false (fun h => by cases h) fun h => by cases h
    | _ => exact iff_of_false (fun h => by cases h) fun h => by cases h

/-! ### Text quality -/

/-- The column is sent trimmed. -/
theorem column_sent (js : Js α) (h : jsTrim r.column ≠ "") :
    required (r.parameters js) "column" validateNonempty = .ok ⟨jsTrim r.column, h⟩ :=
  required_of_lookup rfl (validateNonempty_str h)

/-- The checks that the form offers are those the backend knows. -/
theorem lookup_textCheck {check : String} (h : check ∈ textCheckOptions) :
    ∃ c, textChecks.lookup check = some c ∧ (c = .length ↔ check = "LENGTH") := by
  simp only [textCheckOptions, List.mem_cons, List.not_mem_nil, or_false] at h
  rcases h with rfl | rfl | rfl | rfl <;> exact ⟨_, rfl, by decide⟩

/-- A value among the options is accepted. -/
theorem validateLiteral_of_lookup {β : Type} {options : List (String × β)} {s : String} {b : β}
    (h : options.lookup s = some b) (field : String) :
    validateLiteral options field (.str s) = .ok b := by
  rw [validateLiteral, h]

/-- A text rule is accepted unless the bounds of a length check do not fit. -/
theorem textQuality_accepted_iff (h_type : r.ruleType = .textQuality)
    (h_column : jsTrim r.column ≠ "") (h_check : r.check ∈ textCheckOptions) :
    (∃ p, TextQualityParameters.validate (r.parameters js) = .ok p) ↔
      (r.check = "LENGTH" → js.CountsFit r.min r.max false) := by
  have h_params : r.parameters js = ("column", .str (jsTrim r.column)) ::
      ("check", .str r.check) :: (if r.check = "LENGTH" then
        js.count "min_length" r.min ++ js.count "max_length" r.max else []) := by
    simp only [RuleDraft.parameters, RuleDraft.typeParameters, h_type]
  -- the form sends no field that the model does not know
  have h_extra : forbidExtra ["column", "check", "min_length", "max_length"] (r.parameters js) =
      .ok () := forbidExtra_parameters (by simp) (by rw [h_type]; simp [RuleType.keys])
  obtain ⟨check, h_name, h_length⟩ := lookup_textCheck h_check
  have h_read_check : required (r.parameters js) "check" (validateLiteral textChecks) =
      .ok check := required_of_lookup (by rw [h_params]; rfl) (validateLiteral_of_lookup h_name _)
  -- bounds are sent for the length check only
  by_cases h_is : r.check = "LENGTH"
  · rw [if_pos h_is] at h_params
    have h_min : (r.parameters js).lookup "min_length" =
        (js.count "min_length" r.min).lookup "min_length" := by
      rw [h_params]
      show List.lookup "min_length" (_ ++ _) = _
      rw [List.lookup_append, lookup_count_of_ne (by decide : "min_length" ≠ "max_length"),
        Option.or_none]
    have h_max : (r.parameters js).lookup "max_length" =
        (js.count "max_length" r.max).lookup "max_length" := by
      rw [h_params]
      show List.lookup "max_length" (_ ++ _) = _
      rw [List.lookup_append, lookup_count_of_ne (by decide : "max_length" ≠ "min_length"),
        Option.none_or]
    rw [imp_iff_right h_is]
    constructor
    · -- the model reads the two counts that the form has sent
      rintro ⟨p, h_p⟩
      have h_reads := TextQualityParameters.validate_eq_ok_iff.mp h_p
      have h_same : p.check = .length := by
        rw [Except.ok.inj (h_reads.check.symm.trans h_read_check)]
        exact h_length.mpr h_is
      exact ⟨p.minLength, p.maxLength, (optional_count_iff h_min).mp h_reads.minLength,
        (optional_count_iff h_max).mp h_reads.maxLength,
        (Bool.or_false _).trans (p.length_given h_same), p.length_inOrder h_same⟩
    · rintro ⟨min, max, h_read_min, h_read_max, h_given, h_order⟩
      rw [Bool.or_false] at h_given
      refine ⟨⟨jsTrim r.column, check, min, max, h_column, fun _ => h_given, fun _ => h_order⟩,
        TextQualityParameters.validate_eq_ok_iff.mpr ?_⟩
      exact ⟨h_extra, column_sent js h_column, h_read_check,
        (optional_count_iff h_min).mpr h_read_min, (optional_count_iff h_max).mpr h_read_max⟩
  · -- no other check has bounds
    rw [if_neg h_is] at h_params
    have h_other : check ≠ .length := fun h => h_is (h_length.mp h)
    refine iff_of_true ⟨⟨jsTrim r.column, check, none, none, h_column,
      fun h => absurd h h_other, fun h => absurd h h_other⟩,
      TextQualityParameters.validate_eq_ok_iff.mpr ?_⟩ fun h => absurd h h_is
    exact ⟨h_extra, column_sent js h_column, h_read_check, by rw [h_params]; rfl,
      by rw [h_params]; rfl⟩

/-! ### JSON arrays -/

/-- An array rule is accepted when its bounds fit and it asks for something. -/
theorem jsonArray_accepted_iff (h_type : r.ruleType = .jsonArray)
    (h_column : jsTrim r.column ≠ "") (h_path : isJsonPointer r.path = true) :
    (∃ p, JsonArrayParameters.validate python (r.parameters js) = .ok p) ↔
      js.CountsFit r.min r.max r.uniqueItems := by
  have h_params : r.parameters js = ("column", .str (jsTrim r.column)) ::
      ("path", .str r.path) :: (js.count "min_items" r.min ++ js.count "max_items" r.max ++
        [("unique_items", .bool r.uniqueItems)]) := by
    simp only [RuleDraft.parameters, RuleDraft.typeParameters, h_type]
  -- the form sends no field that the model does not know
  have h_extra : forbidExtra ["column", "path", "min_items", "max_items", "unique_items"]
      (r.parameters js) = .ok () :=
    forbidExtra_parameters (by simp) (by rw [h_type]; simp [RuleType.keys])
  have h_min : (r.parameters js).lookup "min_items" =
      (js.count "min_items" r.min).lookup "min_items" := by
    rw [h_params]
    show List.lookup "min_items" (_ ++ _ ++ _) = _
    rw [List.lookup_append, List.lookup_append,
      lookup_count_of_ne (by decide : "min_items" ≠ "max_items"), Option.or_none]
    exact Option.or_none
  have h_max : (r.parameters js).lookup "max_items" =
      (js.count "max_items" r.max).lookup "max_items" := by
    rw [h_params]
    show List.lookup "max_items" (_ ++ _ ++ _) = _
    rw [List.lookup_append, List.lookup_append,
      lookup_count_of_ne (by decide : "max_items" ≠ "min_items"), Option.none_or]
    exact Option.or_none
  -- the flag is always sent, as a boolean
  have h_unique : JsonArrayParameters.readUnique python (r.parameters js) =
      .ok r.uniqueItems := by
    have h_lookup : (r.parameters js).lookup "unique_items" = some (.bool r.uniqueItems) := by
      rw [h_params]
      show List.lookup "unique_items" (_ ++ _ ++ _) = _
      rw [List.lookup_append, List.lookup_append,
        lookup_count_of_ne (by decide : "unique_items" ≠ "min_items"),
        lookup_count_of_ne (by decide : "unique_items" ≠ "max_items")]
      rfl
    rw [JsonArrayParameters.readUnique, h_lookup]
    rfl
  constructor
  · -- the model reads the two counts and the flag
    rintro ⟨p, h_p⟩
    have h_reads := JsonArrayParameters.validate_eq_ok_iff.mp h_p
    have h_same : p.uniqueItems = r.uniqueItems :=
      Except.ok.inj (h_reads.unique.symm.trans h_unique)
    exact ⟨p.minItems, p.maxItems, (optional_count_iff h_min).mp h_reads.minItems,
      (optional_count_iff h_max).mp h_reads.maxItems, h_same ▸ p.given, p.items_inOrder⟩
  · rintro ⟨min, max, h_read_min, h_read_max, h_given, h_order⟩
    refine ⟨⟨jsTrim r.column, r.path, min, max, r.uniqueItems, h_column, h_path, h_given, h_order⟩,
      JsonArrayParameters.validate_eq_ok_iff.mpr ?_⟩
    exact ⟨h_extra, column_sent js h_column, required_of_lookup (by rw [h_params]; rfl) rfl,
      (optional_count_iff h_min).mpr h_read_min, (optional_count_iff h_max).mpr h_read_max,
      h_unique⟩

/-! ### Spelling -/

/-- Accepted terms are bounded in number and length. -/
theorem validateAcceptedTerms_iff {terms : List String} :
    (∃ terms', validateAcceptedTerms terms = .ok terms') ↔
      terms.length ≤ 1000 ∧ ∀ term ∈ terms, term.length ≤ 128 := by
  unfold validateAcceptedTerms
  by_cases h_many : terms.length > 1000
  · rw [if_pos h_many]
    exact iff_of_false nofun fun h => Nat.not_le.mpr h_many h.1
  · rw [if_neg h_many, and_iff_right (Nat.le_of_not_lt h_many)]
    cases h_long : terms.find? fun term => decide (term.length > 128) with
    | some term =>
      refine iff_of_false nofun fun h => ?_
      have h_over := List.find?_some h_long
      exact Nat.not_le.mpr (of_decide_eq_true h_over) (h term (List.mem_of_find?_eq_some h_long))
    | none =>
      refine iff_of_true ⟨terms, rfl⟩ fun term h_term => ?_
      simpa using List.find?_eq_none.mp h_long term h_term

/-- A spelling rule is accepted within the bounds on its terms. -/
theorem spelling_accepted_iff (h_type : r.ruleType = .spelling)
    (h_column : jsTrim r.column ≠ "") (h_revision : jsTrim r.dictionaryRevision ≠ "")
    (h_language : r.language ∈ languageOptions) :
    (∃ p, SpellingParameters.validate (r.parameters js) = .ok p) ↔
      (jsItems '\n' r.acceptedTerms).length ≤ 1000 ∧
        ∀ term ∈ jsItems '\n' r.acceptedTerms, term.length ≤ 128 := by
  have h_params : r.parameters js = [("column", .str (jsTrim r.column)),
      ("language", .str r.language), ("dictionary_revision", .str r.dictionaryRevision),
      ("accepted_terms", .list ((jsItems '\n' r.acceptedTerms).map .str))] := by
    simp only [RuleDraft.parameters, RuleDraft.typeParameters, h_type]
  have h_ne : r.dictionaryRevision ≠ "" := by
    intro h_empty
    rw [h_empty] at h_revision
    exact h_revision rfl
  have h_terms : SpellingParameters.readTerms (r.parameters js) =
      .ok (jsItems '\n' r.acceptedTerms) := by
    rw [h_params]
    exact validateTexts_list "accepted_terms" _
  constructor
  · rintro ⟨p, h_p⟩
    have h_reads := SpellingParameters.validate_eq_ok_iff.mp h_p
    have h_same : p.acceptedTerms = jsItems '\n' r.acceptedTerms :=
      Except.ok.inj (h_reads.terms.symm.trans h_terms)
    rw [← h_same]
    exact validateAcceptedTerms_iff.mp ⟨_, h_reads.termsInBounds⟩
  · intro h_bounds
    obtain ⟨terms, h_ok⟩ := validateAcceptedTerms_iff.mpr h_bounds
    rw [SpellingParameters.validateAcceptedTerms_ok h_ok] at h_ok
    refine ⟨⟨jsTrim r.column, r.language, r.dictionaryRevision, jsItems '\n' r.acceptedTerms, none,
      h_column, h_ne⟩, SpellingParameters.validate_eq_ok_iff.mpr ?_⟩
    refine ⟨forbidExtra_parameters (by simp) (by rw [h_type]; simp [RuleType.keys]),
      column_sent js h_column, required_of_lookup (by rw [h_params]; rfl) ?_,
      required_of_lookup (by rw [h_params]; rfl) (validateNonempty_str h_ne), h_terms, h_ok,
      by rw [h_params]; rfl⟩
    apply validateLiteral_of_lookup
    simp only [languageOptions, List.mem_cons, List.not_mem_nil, or_false] at h_language
    rcases h_language with h | h | h <;> rw [h] <;> rfl

/-! ### JSON fields -/

/-- Parameters whose fields are read are accepted, if they hold what their check needs. -/
theorem jsonField_exists_iff {d : PyDict} {column path : String} {check : JsonCheck}
    (expectedType : Option JsonKind) (min max pattern : Option String)
    (allowedValues : Option (List String)) {h_ne : column ≠ ""}
    (h_extra : forbidExtra ["column", "path", "check", "expected_type", "min", "max", "pattern",
      "allowed_values"] d = .ok ())
    (h_column : required d "column" validateNonempty = .ok ⟨column, h_ne⟩)
    (h_path : required d "path" validateStr = .ok path) (h_pointer : isJsonPointer path = true)
    (h_check : required d "check" (validateLiteral jsonChecks) = .ok check)
    (h_type : optional d "expected_type" (validateLiteral expectedTypes) = .ok expectedType)
    (h_min : optional d "min" validateStr = .ok min)
    (h_max : optional d "max" validateStr = .ok max)
    (h_pattern : optional d "pattern" validateStr = .ok pattern)
    (h_values : optional d "allowed_values" (validateList validateStr) = .ok allowedValues) :
    (∃ p, JsonFieldParameters.validate python d = .ok p) ↔
      (check = .type → expectedType.isSome = true) ∧
      (check = .range → (min.isSome || max.isSome) = true) ∧
      (check = .regex → pattern.isSome = true) ∧
      (check = .allowedValues → allowedValues.isSome = true) ∧
      (pattern.getD "").length ≤ 512 ∧
      validatePayload python check min max pattern allowedValues = .ok () := by
  constructor
  · rintro ⟨p, h_p⟩
    have h_reads := JsonFieldParameters.validate_eq_ok_iff.mp h_p
    obtain rfl := Except.ok.inj (h_reads.check.symm.trans h_check)
    obtain rfl := Except.ok.inj (h_reads.expectedType.symm.trans h_type)
    obtain rfl := Except.ok.inj (h_reads.min.symm.trans h_min)
    obtain rfl := Except.ok.inj (h_reads.max.symm.trans h_max)
    obtain rfl := Except.ok.inj (h_reads.pattern.symm.trans h_pattern)
    obtain rfl := Except.ok.inj (h_reads.allowedValues.symm.trans h_values)
    exact ⟨p.type_given, p.range_given, p.regex_given, p.values_given, h_reads.patternInBounds,
      h_reads.payload⟩
  · rintro ⟨h_type_given, h_range_given, h_regex_given, h_values_given, h_length, h_payload⟩
    refine ⟨⟨column, path, check, expectedType, min, max, pattern, allowedValues, h_ne, h_pointer,
      h_type_given, h_range_given, h_regex_given, h_values_given⟩,
      JsonFieldParameters.validate_eq_ok_iff.mpr ?_⟩
    exact ⟨h_extra, h_column, h_path, h_check, h_type, h_min, h_max, h_pattern, h_length, h_values,
      h_payload⟩

/-- The text of a bound that is sent. -/
def sentText (text : String) : Option String := if text = "" then none else some text

/-- A text field that was left empty is not sent. -/
theorem optional_sentText {d : PyDict} {key text : String}
    (h : d.lookup key = (textEntry key text).lookup key) :
    optional d key validateStr = .ok (sentText text) := by
  rw [optional, PyDict.get, h, textEntry, sentText]
  by_cases h_empty : text = ""
  · rw [if_pos h_empty, if_pos h_empty]
    rfl
  · rw [if_neg h_empty, if_neg h_empty, List.lookup_cons, beq_self_eq_true]
    rfl

/-- A bound is a finite decimal, or the validation of a range fails at it. -/
theorem validateBound_sentText (python : Python δ) (name text : String) :
    (python.readBound text = none ∧
      ∀ b, validateBound python name (sentText text) = .ok b →
        (b.any fun b => b.finite?.isNone) = true) ∨
    ∃ b, python.readBound text = some (b.bind (·.finite?)) ∧
      validateBound python name (sentText text) = .ok b ∧
      (b.any fun b => b.finite?.isNone) = false := by
  unfold Python.readBound sentText
  by_cases h_empty : text = ""
  · rw [if_pos h_empty, if_pos h_empty]
    exact Or.inr ⟨none, rfl, rfl, rfl⟩
  · rw [if_neg h_empty, if_neg h_empty]
    unfold validateBound
    cases h_decimal : python.decimal text with
    | none => exact Or.inl ⟨rfl, fun b h_b => by simp only [h_decimal] at h_b; cases h_b⟩
    | some b =>
      cases h_finite : b.finite? with
      | none =>
        refine Or.inl ⟨by simp [h_finite], fun b' h_b => ?_⟩
        simp only [h_decimal] at h_b
        cases h_b
        simp [h_finite]
      | some x =>
        exact Or.inr ⟨some b, by simp [h_finite], by simp only [h_decimal], by simp [h_finite]⟩

/-- The bounds of a range are accepted if they are finite decimals in order. -/
theorem validateRange_sentText_iff {lo hi : String} :
    validateRange python (sentText lo) (sentText hi) = .ok () ↔ python.BoundsFit lo hi := by
  constructor
  · intro h
    unfold validateRange at h
    obtain ⟨min, h_min, h⟩ := ok_of_bind h
    obtain ⟨max, h_max, h⟩ := ok_of_bind h
    split_ifs at h with h_infinite h_order
    rw [Bool.not_eq_true, Bool.or_eq_false_iff] at h_infinite
    rcases validateBound_sentText python "min" lo with
      ⟨-, h_bad⟩ | ⟨min', h_lo, h_min', -⟩
    · rw [h_bad min h_min] at h_infinite
      cases h_infinite.1
    · obtain rfl := Except.ok.inj (h_min.symm.trans h_min')
      rcases validateBound_sentText python "max" hi with
        ⟨-, h_bad⟩ | ⟨max', h_hi, h_max', -⟩
      · rw [h_bad max h_max] at h_infinite
        cases h_infinite.2
      · obtain rfl := Except.ok.inj (h_max.symm.trans h_max')
        exact ⟨_, _, h_lo, h_hi, by simpa using h_order⟩
  · rintro ⟨min, max, h_lo, h_hi, h_order⟩
    rcases validateBound_sentText python "min" lo with
      ⟨h_none, -⟩ | ⟨min', h_lo', h_min, h_min_finite⟩
    · rw [h_none] at h_lo
      cases h_lo
    · rcases validateBound_sentText python "max" hi with
        ⟨h_none, -⟩ | ⟨max', h_hi', h_max, h_max_finite⟩
      · rw [h_none] at h_hi
        cases h_hi
      · obtain rfl := Option.some.inj (h_lo'.symm.trans h_lo)
        obtain rfl := Option.some.inj (h_hi'.symm.trans h_hi)
        unfold validateRange
        rw [h_min, h_max]
        show (if _ then _ else if _ then _ else Except.ok ()) = Except.ok ()
        rw [h_min_finite, h_max_finite, h_order]
        rfl

/-- The types that the form offers are those the backend knows. -/
theorem validateLiteral_expectedType {name : String} (h : name ∈ expectedTypeOptions)
    (field : String) :
    ∃ kind, validateLiteral expectedTypes field (.str name) = .ok kind := by
  simp only [expectedTypeOptions, List.mem_cons, List.not_mem_nil, or_false] at h
  rcases h with rfl | rfl | rfl | rfl | rfl <;> exact ⟨_, rfl⟩

/-- What a JSON field sends besides its column, path and check. -/
theorem parameters_jsonField {check : JsonCheck} (h_type : r.ruleType = .jsonField)
    (h_name : nameIn jsonChecks check = .str r.check) :
    r.parameters js = [("column", .str (jsTrim r.column)), ("path", .str r.path),
      ("check", .str r.check)] ++ r.checkPayload check := by
  simp only [RuleDraft.parameters, RuleDraft.typeParameters, h_type]
  generalize r.check = text at h_name
  cases check <;> obtain rfl := PyValue.str.inj h_name <;>
    simp [jsonChecks, RuleDraft.checkPayload]

/-- A field rule is accepted exactly when it fits the conditions of its check. -/
theorem jsonField_accepted_iff (h_type : r.ruleType = .jsonField)
    (h_column : jsTrim r.column ≠ "") (h_path : isJsonPointer r.path = true)
    (h_check : r.check ∈ jsonCheckOptions)
    (h_expected : r.check = "TYPE" → r.expectedType ∈ expectedTypeOptions)
    (h_bounds : r.check = "RANGE" → r.min ≠ "" ∨ r.max ≠ "")
    (h_pattern : r.check = "REGEX" → r.pattern ≠ "") :
    (∃ p, JsonFieldParameters.validate python (r.parameters js) = .ok p) ↔
      FitsType js python r .jsonField := by
  -- the form sends no field that the model does not know
  have h_extra : forbidExtra ["column", "path", "check", "expected_type", "min", "max", "pattern",
      "allowed_values"] (r.parameters js) = .ok () :=
    forbidExtra_parameters (by simp) (by rw [h_type]; simp [RuleType.keys])
  -- the name of the check is one the model knows
  obtain ⟨check, h_name, h_lookup⟩ : ∃ check, nameIn jsonChecks check = .str r.check ∧
      jsonChecks.lookup r.check = some check := by
    simp only [jsonCheckOptions, List.mem_cons, List.not_mem_nil, or_false] at h_check
    rcases h_check with h | h | h | h | h <;> rw [h]
    · exact ⟨.nonNull, rfl, rfl⟩
    · exact ⟨.type, rfl, rfl⟩
    · exact ⟨.range, rfl, rfl⟩
    · exact ⟨.regex, rfl, rfl⟩
    · exact ⟨.allowedValues, rfl, rfl⟩
  have h_params : r.parameters js = [("column", .str (jsTrim r.column)), ("path", .str r.path),
      ("check", .str r.check)] ++ r.checkPayload check := parameters_jsonField h_type h_name
  have h_read_path : required (r.parameters js) "path" validateStr = .ok r.path :=
    required_of_lookup (by rw [h_params]; rfl) rfl
  have h_read_check : required (r.parameters js) "check" (validateLiteral jsonChecks) =
      .ok check :=
    required_of_lookup (by rw [h_params]; rfl) (validateLiteral_of_lookup h_lookup _)
  cases check with
  | nonNull =>
    -- no payload, so nothing to refuse
    have h_is : r.check = "NON_NULL" := (PyValue.str.inj h_name).symm
    rw [jsonField_exists_iff none none none none none h_extra (column_sent js h_column) h_read_path
      h_path h_read_check (by rw [h_params]; rfl) (by rw [h_params]; rfl) (by rw [h_params]; rfl)
      (by rw [h_params]; rfl) (by rw [h_params]; rfl)]
    simp [FitsType, h_is, validatePayload]
  | type =>
    -- the type is one of the options
    have h_is : r.check = "TYPE" := (PyValue.str.inj h_name).symm
    obtain ⟨kind, h_kind⟩ := validateLiteral_expectedType (h_expected h_is) "expected_type"
    have h_read_type : optional (r.parameters js) "expected_type" (validateLiteral expectedTypes) =
        .ok (some kind) := by
      rw [h_params]
      show some <$> validateLiteral expectedTypes "expected_type" (.str r.expectedType) = _
      rw [h_kind]
      rfl
    rw [jsonField_exists_iff (some kind) none none none none h_extra (column_sent js h_column)
      h_read_path h_path h_read_check h_read_type (by rw [h_params]; rfl) (by rw [h_params]; rfl)
      (by rw [h_params]; rfl) (by rw [h_params]; rfl)]
    simp [FitsType, h_is, validatePayload]
  | range =>
    -- the bounds are sent unless they are empty, and one of them is not
    have h_is : r.check = "RANGE" := (PyValue.str.inj h_name).symm
    have h_payload : r.parameters js = ("column", .str (jsTrim r.column)) ::
        ("path", .str r.path) :: ("check", .str r.check) ::
          (textEntry "min" r.min ++ textEntry "max" r.max) := h_params
    have h_absent : ∀ key, key ∉ ["column", "path", "check", "min", "max"] →
        (r.parameters js).get key = .none := by
      intro key h_key
      simp only [List.mem_cons, List.not_mem_nil, or_false, not_or] at h_key
      obtain ⟨h_1, h_2, h_3, h_4, h_5⟩ := h_key
      rw [PyDict.get, h_payload, List.lookup_cons, beq_false_of_ne h_1, List.lookup_cons,
        beq_false_of_ne h_2, List.lookup_cons, beq_false_of_ne h_3, List.lookup_append,
        lookup_textEntry_of_ne h_4, lookup_textEntry_of_ne h_5]
      rfl
    have h_min : (r.parameters js).lookup "min" = (textEntry "min" r.min).lookup "min" := by
      rw [h_payload]
      show List.lookup "min" (_ ++ _) = _
      rw [List.lookup_append, lookup_textEntry_of_ne (by decide : "min" ≠ "max"), Option.or_none]
    have h_max : (r.parameters js).lookup "max" = (textEntry "max" r.max).lookup "max" := by
      rw [h_payload]
      show List.lookup "max" (_ ++ _) = _
      rw [List.lookup_append, lookup_textEntry_of_ne (by decide : "max" ≠ "min"), Option.none_or]
    have h_given : ((sentText r.min).isSome || (sentText r.max).isSome) = true := by
      rcases h_bounds h_is with h_ne | h_ne
      · rw [sentText, if_neg h_ne]
        rfl
      · rw [sentText, sentText, if_neg h_ne, Option.isSome_some, Bool.or_true]
    rw [jsonField_exists_iff none (sentText r.min) (sentText r.max) none none h_extra
      (column_sent js h_column) h_read_path h_path h_read_check
      (by rw [optional, h_absent _ (by decide)]) (optional_sentText h_min) (optional_sentText h_max)
      (by rw [optional, h_absent _ (by decide)]) (by rw [optional, h_absent _ (by decide)])]
    have h_validate : validatePayload python .range (sentText r.min) (sentText r.max) none none =
        validateRange python (sentText r.min) (sentText r.max) := rfl
    rw [h_validate, validateRange_sentText_iff]
    simp [FitsType, h_is, h_given]
  | regex =>
    -- the pattern is whatever Python's `re.compile` takes
    have h_is : r.check = "REGEX" := (PyValue.str.inj h_name).symm
    rw [jsonField_exists_iff none none none (some r.pattern) none h_extra (column_sent js h_column)
      h_read_path h_path h_read_check (by rw [h_params]; rfl) (by rw [h_params]; rfl)
      (by rw [h_params]; rfl) (by rw [h_params]; rfl) (by rw [h_params]; rfl)]
    simp [FitsType, h_is, validatePayload, h_pattern h_is]
  | allowedValues =>
    -- the text is split at its commas, which may leave no value at all
    have h_is : r.check = "ALLOWED_VALUES" := (PyValue.str.inj h_name).symm
    have h_read_values : optional (r.parameters js) "allowed_values" (validateList validateStr) =
        .ok (some (jsItems ',' r.allowed)) := by
      rw [h_params]
      show some <$> validateList validateStr "allowed_values"
        (.list ((jsItems ',' r.allowed).map .str)) = _
      rw [validateTexts_list]
      rfl
    rw [jsonField_exists_iff none none none none (some (jsItems ',' r.allowed)) h_extra
      (column_sent js h_column) h_read_path h_path h_read_check (by rw [h_params]; rfl)
      (by rw [h_params]; rfl) (by rw [h_params]; rfl) (by rw [h_params]; rfl) h_read_values]
    -- the model asks for one value at least and a thousand at most
    by_cases h_empty : jsItems ',' r.allowed = []
    · simp [FitsType, h_is, validatePayload, h_empty]
    · by_cases h_many : 1000 < (jsItems ',' r.allowed).length
      · simp [FitsType, h_is, validatePayload, h_empty, h_many]
      · simp [FitsType, h_is, validatePayload, h_empty, h_many, Nat.le_of_not_lt h_many]

/-! ### Acceptance -/

/-- A mapped result succeeds when the result does. -/
theorem exists_map_ok_iff {ε β γ : Type} {f : β → γ} {x : Except ε β} :
    (∃ c, f <$> x = .ok c) ↔ ∃ b, x = .ok b := by
  cases x with
  | error e => exact iff_of_false nofun nofun
  | ok b => exact iff_of_true ⟨_, rfl⟩ ⟨_, rfl⟩

/-- The basic rule types have no parameter model. -/
theorem extendedParameters_basic {t : RuleType}
    (h : t ∉ [RuleType.textQuality, .spelling, .jsonField, .jsonArray]) (params : PyDict) :
    extendedParameters python t.apiType params = .ok params := by
  cases t <;> first | rfl | exact absurd (by decide) h

/-- The parameters of a type are accepted if they fit; those of the basic types always are. -/
theorem parameters_accepted_iff [Field α] [LinearOrder α] (h_offered : r.Offered)
    (h_valid : r.Valid js) :
    ((∀ key ∈ placeholderKeys, isPlaceholder ((r.parameters js).get key) = false) ∧
        ∃ params, extendedParameters python r.ruleType.apiType (r.parameters js) = .ok params) ↔
      isOpen (jsTrim r.column) = false ∧ FitsType js python r r.ruleType := by
  rw [placeholders_iff, and_assoc]
  refine and_congr_right fun _ => ?_
  cases h_type : r.ruleType with
  | textQuality =>
    have h_read : (∃ params, extendedParameters python RuleType.textQuality.apiType
        (r.parameters js) = .ok params) ↔ _ :=
      exists_map_ok_iff.trans (textQuality_accepted_iff h_type h_valid.column
        (h_offered.textCheck h_type))
    simp [h_read, FitsType]
  | spelling =>
    have h_read : (∃ params, extendedParameters python RuleType.spelling.apiType
        (r.parameters js) = .ok params) ↔ _ :=
      exists_map_ok_iff.trans (spelling_accepted_iff h_type h_valid.column
        (h_valid.dictionaryRevision h_type) (h_offered.language h_type))
    simp [h_read, FitsType]
  | jsonField =>
    have h_read : (∃ params, extendedParameters python RuleType.jsonField.apiType
        (r.parameters js) = .ok params) ↔ _ :=
      exists_map_ok_iff.trans (jsonField_accepted_iff h_type h_valid.column
        (h_valid.path (Or.inl h_type)) (h_offered.jsonCheck h_type) (h_offered.expectedType h_type)
        (fun h_check => h_valid.bounds (Or.inr ⟨h_type, h_check⟩)) (h_valid.pattern h_type))
    simp [h_read]
  | jsonArray =>
    have h_read : (∃ params, extendedParameters python RuleType.jsonArray.apiType
        (r.parameters js) = .ok params) ↔ _ :=
      exists_map_ok_iff.trans (jsonArray_accepted_iff h_type h_valid.column
        (h_valid.path (Or.inr h_type)))
    simp [h_read, FitsType]
  | crossField =>
    -- the other types have no model of their parameters
    rw [extendedParameters_basic (by decide)]
    simp [FitsType]
  | notNull | typeParse | range | allowedValues | regex | unique =>
    rw [extendedParameters_basic (by decide)]
    simp [FitsType]

/-- The API accepts a rule that the form has no problem with exactly if it also meets what only
the API requires. -/
theorem accepted_iff [Field α] [LinearOrder α] (h_upper : python.UppersAscii)
    (h_lower : ∀ policy ∈ ["fail", "ignore"], python.lower policy = policy)
    (h_offered : r.Offered) (h_valid : validateRule js r = []) :
    (toRuleInput js r).IsAccepted python ↔ FitsServer js python r := by
  have h_draft := valid_of_validateRule h_valid
  rw [sent_isAccepted_iff h_upper h_lower h_offered h_draft,
    parameters_accepted_iff h_offered h_draft]
  exact ⟨fun h => ⟨h.1, h.2.1, h.2.2⟩, fun h => ⟨h.code, h.column, h.type⟩⟩

end Sent

/-- A rule for the values of a JSON field. -/
def valuesDraft (allowed : String) : RuleDraft :=
  { (newRule 0).toRuleDraft with
    ruleCode := "CITY_LISTED"
    dimension := "VALIDITY"
    ruleType := .jsonField
    column := "payload"
    path := "/city"
    check := "ALLOWED_VALUES"
    allowed }

theorem offered_valuesDraft (allowed : String) : (valuesDraft allowed).Offered where
  dimension := by simp [valuesDraft, dimensionOptions]
  textCheck := nofun
  jsonCheck _ := by simp [valuesDraft, jsonCheckOptions]
  expectedType _ h := absurd h (by simp [valuesDraft])
  language := nofun
  dataType h := absurd h (by simp [valuesDraft])
  operator := nofun

/-- A list of two values is accepted. -/
theorem accepted_iff_cities :
    (toRuleInput oneDigitJs (valuesDraft "Hanoi, Hue")).IsAccepted upperPython := by
  have h_items : jsItems ',' "Hanoi, Hue" = ["Hanoi", "Hue"] := by decide +kernel
  refine (accepted_iff uppersAscii_upperPython (fun _ _ => rfl) (offered_valuesDraft _)
    (by decide +kernel)).mpr ⟨by decide +kernel, by decide +kernel, ?_, ?_, fun _ => ?_⟩
  · exact fun h_check => absurd h_check (by simp [valuesDraft])
  · exact fun h_check => absurd h_check (by simp [valuesDraft])
  · show jsItems ',' "Hanoi, Hue" ≠ [] ∧ (jsItems ',' "Hanoi, Hue").length ≤ 1000
    rw [h_items]
    decide

/-- A text of commas holds no value, and the form has no problem with it. -/
theorem commas_rejected :
    (valuesDraft ",").Offered ∧ validateRule oneDigitJs (valuesDraft ",") = [] ∧
      ¬ (toRuleInput oneDigitJs (valuesDraft ",")).IsAccepted upperPython := by
  have h_valid : validateRule oneDigitJs (valuesDraft ",") = [] := by decide +kernel
  refine ⟨offered_valuesDraft _, h_valid, ?_⟩
  have h_draft := valid_of_validateRule h_valid
  rw [sent_isAccepted_iff uppersAscii_upperPython (fun _ _ => rfl) (offered_valuesDraft _) h_draft,
    parameters_accepted_iff (offered_valuesDraft _) h_draft]
  rintro ⟨-, -, -, -, h_values⟩
  have h_none : jsItems ',' "," = [] := by decide +kernel
  exact (h_values rfl).1 h_none

end DqScoring
