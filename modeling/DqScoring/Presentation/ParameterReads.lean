import DqScoring.Presentation.RulesetSchemas

/-!
# The extended parameters, field by field

What a model accepts is what its validators read of each field (`validate_eq_ok_iff`), so a
dump is read back as the parameters it is a dump of.
-/

namespace DqScoring

open Framework

variable {α δ : Type} {d : PyDict}

/-! ### Dumps -/

/-- A dump has a key exactly when the field of that name is set. -/
theorem lookup_dumpFields {fields : List (String × Option PyValue)}
    (h : (fields.map Prod.fst).Nodup) (key : String) :
    (dumpFields fields).lookup key = (fields.lookup key).join := by
  induction fields with
  | nil => rfl
  | cons field fields ih =>
    obtain ⟨name, value⟩ := field
    obtain ⟨h_name, h_fields⟩ := List.nodup_cons.mp h
    have h_absent : key = name → fields.lookup key = none := by
      rintro rfl
      rw [List.lookup_eq_none_iff]
      intro entry h_entry
      rw [bne_iff_ne]
      rintro rfl
      exact h_name (List.mem_map.mpr ⟨entry, h_entry, rfl⟩)
    cases value with
    | none =>
      show (dumpFields fields).lookup key = _
      rw [ih h_fields, List.lookup_cons]
      cases h_key : key == name with
      | true => rw [h_absent (beq_iff_eq.mp h_key)]; rfl
      | false => rfl
    | some v =>
      show List.lookup key ((name, v) :: dumpFields fields) = _
      rw [List.lookup_cons, List.lookup_cons, ih h_fields]
      cases key == name <;> rfl

/-- A dictionary with known names only has no extra field. -/
theorem forbidExtra_eq_ok {names : List String} (h : ∀ entry ∈ d, entry.1 ∈ names) :
    forbidExtra names d = .ok () := by
  have h_none : d.find? (fun entry => !names.contains entry.1) = none := by
    rw [List.find?_eq_none]
    intro entry h_entry
    simpa using h entry h_entry
  rw [forbidExtra, h_none]

/-- A dump never has an extra field. -/
theorem forbidExtra_dumpFields {names : List String} {fields : List (String × Option PyValue)}
    (h : ∀ field ∈ fields, field.1 ∈ names) : forbidExtra names (dumpFields fields) = .ok () := by
  refine forbidExtra_eq_ok fun entry h_entry => ?_
  obtain ⟨field, h_field, h_value⟩ := List.mem_filterMap.mp h_entry
  obtain ⟨v, -, rfl⟩ := Option.map_eq_some_iff.mp h_value
  exact h field h_field

/-! ### Fields that are read back -/

/-- A required field that is there and valid is read. -/
theorem required_of_lookup {β : Type} {field : String} {v : PyValue} {b : β}
    {validate : String → PyValue → Except PyError β} (h : d.lookup field = some v)
    (h_value : validate field v = .ok b) : required d field validate = .ok b := by
  rw [required, h]
  exact h_value

/-- An optional field is read, or is absent when the dump left it out. -/
theorem optional_of_lookup {β : Type} {field : String} {b : Option β} {f : β → PyValue}
    {validate : String → PyValue → Except PyError β} (h : d.lookup field = b.map f)
    (h_value : ∀ x, b = some x → (f x).isNone = false ∧ validate field (f x) = .ok x) :
    optional d field validate = .ok b := by
  cases b with
  | none => rw [optional, PyDict.get, h]; rfl
  | some x =>
    obtain ⟨h_given, h_read⟩ := h_value x rfl
    rw [optional, PyDict.get, h, Option.map_some, Option.getD_some]
    split
    case h_1 h_none =>
      rw [h_none] at h_given
      cases h_given
    case h_2 => rw [h_read]; rfl

/-- A text that is not empty passes. -/
theorem validateNonempty_str {field s : String} (h : s ≠ "") :
    validateNonempty field (.str s) = .ok ⟨s, h⟩ := by
  simp [validateNonempty, validateStr, h, bind, Except.bind, pure, Except.pure]

theorem validateCount_nat (field : String) (n : ℕ) : validateCount field (.int n) = .ok n := by
  simp [validateCount]

/-- A traversal that undoes a function gives the list back. -/
theorem mapM_map_eq_ok {ε β γ : Type} {f : β → Except ε γ} {g : γ → β}
    (h : ∀ c, f (g c) = .ok c) (l : List γ) : (l.map g).mapM f = .ok l := by
  induction l with
  | nil => rfl
  | cons c l ih =>
    rw [List.map_cons, List.mapM_cons, h, ih]
    rfl

/-- A list of texts passes as it stands. -/
theorem validateTexts_list (field : String) (texts : List String) :
    validateList validateStr field (.list (texts.map .str)) = .ok texts :=
  mapM_map_eq_ok (f := validateStr field) (g := .str) (fun _ => rfl) texts

/-- Dumped digests are read back as they were. -/
theorem validateDigests_dump (field : String) (digests : DictionaryDigests) :
    validateDict (validateList (validateDict validateStr)) field (dumpDigests digests) =
      .ok digests := by
  have h_file : ∀ file : List (String × String), validateDict validateStr field
      (.dict (file.map fun d => (d.1, .str d.2))) = .ok file :=
    fun file => mapM_map_eq_ok
      (f := fun item : String × PyValue => Prod.mk item.1 <$> validateStr field item.2)
      (g := fun d : String × String => (d.1, PyValue.str d.2)) (fun _ => rfl) file
  have h_files : ∀ files : List (List (String × String)),
      validateList (validateDict validateStr) field
        (.list (files.map fun file => .dict (file.map fun d => (d.1, .str d.2)))) = .ok files :=
    fun files => mapM_map_eq_ok h_file files
  refine mapM_map_eq_ok (fun entry => ?_) digests
  show Prod.mk entry.1 <$> _ = _
  rw [h_files]
  rfl

/-! ### Text quality -/

namespace TextQualityParameters

variable {params : TextQualityParameters}

/-- The parameters are what the fields of the dictionary are read as. -/
structure Reads (d : PyDict) (params : TextQualityParameters) : Prop where
  extra : forbidExtra ["column", "check", "min_length", "max_length"] d = .ok ()
  column : required d "column" validateNonempty = .ok ⟨params.column, params.column_ne⟩
  check : required d "check" (validateLiteral textChecks) = .ok params.check
  minLength : optional d "min_length" validateCount = .ok params.minLength
  maxLength : optional d "max_length" validateCount = .ok params.maxLength

/-- Validation succeeds exactly on the dictionaries that spell the parameters. -/
theorem validate_eq_ok_iff : validate d = .ok params ↔ Reads d params := by
  constructor
  · intro h
    obtain ⟨_, h_extra, h⟩ := ok_of_bind h
    obtain ⟨column, h_column, h⟩ := ok_of_bind h
    obtain ⟨check, h_check, h⟩ := ok_of_bind h
    obtain ⟨minLength, h_min, h⟩ := ok_of_bind h
    obtain ⟨maxLength, h_max, h⟩ := ok_of_bind h
    split_ifs at h
    cases h
    exact ⟨h_extra, h_column, h_check, h_min, h_max⟩
  · rintro ⟨h_extra, h_column, h_check, h_min, h_max⟩
    have h_given : ¬ (params.check = .length ∧
        (params.minLength.isSome || params.maxLength.isSome) = false) :=
      fun ⟨h_length, h_none⟩ => Bool.eq_false_iff.mp h_none (params.length_given h_length)
    have h_order : ¬ (params.check = .length ∧
        inOrder params.minLength params.maxLength = false) :=
      fun ⟨h_length, h_none⟩ => Bool.eq_false_iff.mp h_none (params.length_inOrder h_length)
    unfold validate
    simp only [h_extra, h_column, h_check, h_min, h_max, bind, Except.bind]
    rw [dif_neg h_given, dif_neg h_order]
    rfl

/-- The dump of text parameters, key by key. -/
theorem lookup_dump (params : TextQualityParameters) (key : String) :
    params.dump.lookup key = (([
      ("column", some (.str params.column)),
      ("check", some (nameIn textChecks params.check)),
      ("min_length", params.minLength.map fun n => .int n),
      ("max_length", params.maxLength.map fun n => .int n)] :
        List (String × Option PyValue)).lookup key).join := by
  refine lookup_dumpFields ?_ key
  show ["column", "check", "min_length", "max_length"].Nodup
  decide

/-- Parameters are read back from their dump. -/
theorem reads_dump (params : TextQualityParameters) : Reads params.dump params where
  extra := forbidExtra_dumpFields (by simp)
  column := required_of_lookup (lookup_dump params "column")
    (validateNonempty_str params.column_ne)
  check := required_of_lookup (lookup_dump params "check") (by cases params.check <;> rfl)
  minLength := optional_of_lookup (f := fun n : ℕ => .int n)
    ((lookup_dump params "min_length").trans (by cases params.minLength <;> rfl))
    fun n _ => ⟨rfl, validateCount_nat "min_length" n⟩
  maxLength := optional_of_lookup (f := fun n : ℕ => .int n)
    ((lookup_dump params "max_length").trans (by cases params.maxLength <;> rfl))
    fun n _ => ⟨rfl, validateCount_nat "max_length" n⟩

end TextQualityParameters

/-! ### Spelling -/

namespace SpellingParameters

variable {params : SpellingParameters}

/-- The reading of the accepted terms, which are absent or a list of texts. -/
def readTerms (d : PyDict) : Except PyError (List String) :=
  match d.lookup "accepted_terms" with
  | some v => validateList validateStr "accepted_terms" v
  | none => .ok []

/-- The parameters are what the fields of the dictionary are read as. -/
structure Reads (d : PyDict) (params : SpellingParameters) : Prop where
  extra : forbidExtra ["column", "language", "dictionary_revision", "accepted_terms",
    "dictionary_digests"] d = .ok ()
  column : required d "column" validateNonempty = .ok ⟨params.column, params.column_ne⟩
  language : required d "language"
    (validateLiteral [("vi", "vi"), ("en", "en"), ("vi-en", "vi-en")]) = .ok params.language
  revision : required d "dictionary_revision" validateNonempty =
    .ok ⟨params.dictionaryRevision, params.dictionaryRevision_ne⟩
  terms : readTerms d = .ok params.acceptedTerms
  termsInBounds : validateAcceptedTerms params.acceptedTerms = .ok params.acceptedTerms
  digests : optional d "dictionary_digests"
    (validateDict (validateList (validateDict validateStr))) = .ok params.dictionaryDigests

/-- Validating accepted terms changes none of them. -/
theorem validateAcceptedTerms_ok {terms terms' : List String}
    (h : validateAcceptedTerms terms = .ok terms') : terms' = terms := by
  unfold validateAcceptedTerms at h
  split_ifs at h
  split at h
  · cases h
  · cases h
    rfl

theorem validate_eq_ok_iff : validate d = .ok params ↔ Reads d params := by
  have h_unfold : validate d = do
      forbidExtra ["column", "language", "dictionary_revision", "accepted_terms",
        "dictionary_digests"] d
      let column ← required d "column" validateNonempty
      let language ← required d "language"
        (validateLiteral [("vi", "vi"), ("en", "en"), ("vi-en", "vi-en")])
      let revision ← required d "dictionary_revision" validateNonempty
      let terms ← readTerms d
      let terms ← validateAcceptedTerms terms
      let digests ← optional d "dictionary_digests"
        (validateDict (validateList (validateDict validateStr)))
      return ⟨column, language, revision, terms, digests, column.2, revision.2⟩ := by
    unfold validate readTerms
    cases d.lookup "accepted_terms" <;> rfl
  rw [h_unfold]
  constructor
  · intro h
    obtain ⟨_, h_extra, h⟩ := ok_of_bind h
    obtain ⟨column, h_column, h⟩ := ok_of_bind h
    obtain ⟨language, h_language, h⟩ := ok_of_bind h
    obtain ⟨revision, h_revision, h⟩ := ok_of_bind h
    obtain ⟨terms, h_terms, h⟩ := ok_of_bind h
    obtain ⟨terms', h_bounds, h⟩ := ok_of_bind h
    obtain ⟨digests, h_digests, h⟩ := ok_of_bind h
    have h_same : terms' = terms := validateAcceptedTerms_ok h_bounds
    cases h
    exact ⟨h_extra, h_column, h_language, h_revision, h_same ▸ h_terms, h_same ▸ h_bounds,
      h_digests⟩
  · rintro ⟨h_extra, h_column, h_language, h_revision, h_terms, h_bounds, h_digests⟩
    simp only [h_extra, h_column, h_language, h_revision, h_terms, h_bounds, h_digests, bind,
      Except.bind, pure, Except.pure]

theorem lookup_dump (params : SpellingParameters) (key : String) :
    params.dump.lookup key = (([
      ("column", some (.str params.column)),
      ("language", some (.str params.language)),
      ("dictionary_revision", some (.str params.dictionaryRevision)),
      ("accepted_terms", some (.list (params.acceptedTerms.map .str))),
      ("dictionary_digests", params.dictionaryDigests.map dumpDigests)] :
        List (String × Option PyValue)).lookup key).join := by
  refine lookup_dumpFields ?_ key
  show ["column", "language", "dictionary_revision", "accepted_terms",
    "dictionary_digests"].Nodup
  decide

/-- Validated parameters are read back from their dump. -/
theorem Reads.dump (h : Reads d params) : Reads params.dump params where
  extra := forbidExtra_dumpFields (by simp)
  column := required_of_lookup (lookup_dump params "column")
    (validateNonempty_str params.column_ne)
  language := by
    obtain ⟨s, _, h_mem⟩ := validateLiteral_ok (required_ok h.language)
    have h_language : params.language = "vi" ∨ params.language = "en" ∨
        params.language = "vi-en" := by
      simp only [List.mem_cons, Prod.mk.injEq, List.not_mem_nil, or_false] at h_mem
      rcases h_mem with h_mem | h_mem | h_mem
      · exact Or.inl h_mem.2
      · exact Or.inr (Or.inl h_mem.2)
      · exact Or.inr (Or.inr h_mem.2)
    refine required_of_lookup (lookup_dump params "language") ?_
    rcases h_language with h_language | h_language | h_language <;> rw [h_language] <;> rfl
  revision := required_of_lookup (lookup_dump params "dictionary_revision")
    (validateNonempty_str params.dictionaryRevision_ne)
  terms := by
    rw [readTerms, lookup_dump]
    exact validateTexts_list "accepted_terms" params.acceptedTerms
  termsInBounds := h.termsInBounds
  digests := optional_of_lookup (lookup_dump params "dictionary_digests")
    fun digests _ => ⟨rfl, validateDigests_dump "dictionary_digests" digests⟩

end SpellingParameters

/-! ### JSON arrays -/

theorem validatePath_eq_ok {path : String} (h : isJsonPointer path = true) :
    validatePath path = .ok ⟨path, h⟩ := dif_pos h

namespace JsonArrayParameters

variable {python : Python δ} {params : JsonArrayParameters}

/-- The reading of the flag, which is off when it is absent. -/
def readUnique (python : Python δ) (d : PyDict) : Except PyError Bool :=
  match d.lookup "unique_items" with
  | some v => validateBool python "unique_items" v
  | none => .ok false

/-- The parameters are what the fields of the dictionary are read as. -/
structure Reads (python : Python δ) (d : PyDict) (params : JsonArrayParameters) : Prop where
  extra : forbidExtra ["column", "path", "min_items", "max_items", "unique_items"] d = .ok ()
  column : required d "column" validateNonempty = .ok ⟨params.column, params.column_ne⟩
  path : required d "path" validateStr = .ok params.path
  minItems : optional d "min_items" validateCount = .ok params.minItems
  maxItems : optional d "max_items" validateCount = .ok params.maxItems
  unique : readUnique python d = .ok params.uniqueItems

theorem validate_eq_ok_iff : validate python d = .ok params ↔ Reads python d params := by
  have h_unfold : validate python d = do
      forbidExtra ["column", "path", "min_items", "max_items", "unique_items"] d
      let column ← required d "column" validateNonempty
      let path ← required d "path" validateStr
      let path ← validatePath path
      let minItems ← optional d "min_items" validateCount
      let maxItems ← optional d "max_items" validateCount
      let uniqueItems ← readUnique python d
      if h_given : (minItems.isSome || maxItems.isSome || uniqueItems) = false then
        .error (.valueError
          "At least one of min_items, max_items, or unique_items=True must be configured")
      else if h_order : inOrder minItems maxItems = false then
        .error (.valueError "min_items cannot exceed max_items")
      else
        return ⟨column, path, minItems, maxItems, uniqueItems, column.2, path.2,
          Bool.eq_true_of_not_eq_false h_given, Bool.eq_true_of_not_eq_false h_order⟩ := by
    unfold validate readUnique
    cases d.lookup "unique_items" <;> rfl
  rw [h_unfold]
  -- each read that succeeded is a condition on the dictionary
  constructor
  · intro h
    obtain ⟨_, h_extra, h⟩ := ok_of_bind h
    obtain ⟨column, h_column, h⟩ := ok_of_bind h
    obtain ⟨path, h_path, h⟩ := ok_of_bind h
    obtain ⟨path', h_valid, h⟩ := ok_of_bind h
    obtain ⟨minItems, h_min, h⟩ := ok_of_bind h
    obtain ⟨maxItems, h_max, h⟩ := ok_of_bind h
    obtain ⟨unique, h_unique, h⟩ := ok_of_bind h
    have h_same : path = path' := by
      unfold validatePath at h_valid
      split_ifs at h_valid
      cases h_valid
      rfl
    split_ifs at h
    cases h
    exact ⟨h_extra, h_column, h_same ▸ h_path, h_min, h_max, h_unique⟩
  · -- and the reads succeed one after another
    rintro ⟨h_extra, h_column, h_path, h_min, h_max, h_unique⟩
    simp only [h_extra, h_column, h_path, validatePath_eq_ok params.path_ok, h_min, h_max,
      h_unique, bind, Except.bind]
    rw [dif_neg (Bool.eq_false_iff.not_left.mpr params.given),
      dif_neg (Bool.eq_false_iff.not_left.mpr params.items_inOrder)]
    rfl

theorem lookup_dump (params : JsonArrayParameters) (key : String) :
    params.dump.lookup key = (([
      ("column", some (.str params.column)),
      ("path", some (.str params.path)),
      ("min_items", params.minItems.map fun n => .int n),
      ("max_items", params.maxItems.map fun n => .int n),
      ("unique_items", some (.bool params.uniqueItems))] :
        List (String × Option PyValue)).lookup key).join := by
  refine lookup_dumpFields ?_ key
  show ["column", "path", "min_items", "max_items", "unique_items"].Nodup
  decide

/-- Parameters are read back from their dump. -/
theorem reads_dump (python : Python δ) (params : JsonArrayParameters) :
    Reads python params.dump params where
  extra := forbidExtra_dumpFields (by simp)
  column := required_of_lookup (lookup_dump params "column")
    (validateNonempty_str params.column_ne)
  path := required_of_lookup (lookup_dump params "path") rfl
  minItems := optional_of_lookup (f := fun n : ℕ => .int n)
    ((lookup_dump params "min_items").trans (by cases params.minItems <;> rfl))
    fun n _ => ⟨rfl, validateCount_nat "min_items" n⟩
  maxItems := optional_of_lookup (f := fun n : ℕ => .int n)
    ((lookup_dump params "max_items").trans (by cases params.maxItems <;> rfl))
    fun n _ => ⟨rfl, validateCount_nat "max_items" n⟩
  unique := by rw [readUnique, lookup_dump]; rfl

end JsonArrayParameters

/-! ### JSON fields -/

namespace JsonFieldParameters

variable {python : Python δ} {params : JsonFieldParameters}

/-- The parameters are what the fields of the dictionary are read as. -/
structure Reads (python : Python δ) (d : PyDict) (params : JsonFieldParameters) : Prop where
  extra : forbidExtra ["column", "path", "check", "expected_type", "min", "max", "pattern",
    "allowed_values"] d = .ok ()
  column : required d "column" validateNonempty = .ok ⟨params.column, params.column_ne⟩
  path : required d "path" validateStr = .ok params.path
  check : required d "check" (validateLiteral jsonChecks) = .ok params.check
  expectedType : optional d "expected_type" (validateLiteral expectedTypes) =
    .ok params.expectedType
  min : optional d "min" validateStr = .ok params.min
  max : optional d "max" validateStr = .ok params.max
  pattern : optional d "pattern" validateStr = .ok params.pattern
  patternInBounds : (params.pattern.getD "").length ≤ 512
  allowedValues : optional d "allowed_values" (validateList validateStr) =
    .ok params.allowedValues
  payload : validatePayload python params.check params.min params.max params.pattern
    params.allowedValues = .ok ()

theorem validate_eq_ok_iff : validate python d = .ok params ↔ Reads python d params := by
  -- as for the arrays, with the keys of each check
  constructor
  · intro h
    unfold validate at h
    obtain ⟨_, h_extra, h⟩ := ok_of_bind h
    obtain ⟨column, h_column, h⟩ := ok_of_bind h
    obtain ⟨path, h_path, h⟩ := ok_of_bind h
    obtain ⟨path', h_valid, h⟩ := ok_of_bind h
    obtain ⟨check, h_check, h⟩ := ok_of_bind h
    obtain ⟨expectedType, h_type, h⟩ := ok_of_bind h
    obtain ⟨min, h_min, h⟩ := ok_of_bind h
    obtain ⟨max, h_max, h⟩ := ok_of_bind h
    obtain ⟨pattern, h_pattern, h⟩ := ok_of_bind h
    dsimp only at h
    split at h
    case isTrue =>
      -- a pattern that is too long is refused before the values are read
      obtain ⟨_, h_long, _⟩ := ok_of_bind h
      cases h_long
    case isFalse h_short =>
      obtain ⟨allowedValues, h_values, h⟩ := ok_of_bind h
      split_ifs at h
      obtain ⟨_, h_payload, h⟩ := ok_of_bind h
      have h_same : path = path' := by
        unfold validatePath at h_valid
        split_ifs at h_valid
        cases h_valid
        rfl
      cases h
      exact ⟨h_extra, h_column, h_same ▸ h_path, h_check, h_type, h_min, h_max, h_pattern,
        Nat.le_of_not_lt h_short, h_values, h_payload⟩
  · -- what each check needs is there by the fields of the parameters
    intro h
    have h_type : ¬ (params.check = .type ∧ params.expectedType.isSome = false) := by
      rintro ⟨h_check, h_none⟩
      exact Bool.eq_false_iff.mp h_none (params.type_given h_check)
    have h_range : ¬ (params.check = .range ∧
      (params.min.isSome || params.max.isSome) = false) := by
      rintro ⟨h_check, h_none⟩
      exact Bool.eq_false_iff.mp h_none (params.range_given h_check)
    have h_regex : ¬ (params.check = .regex ∧ params.pattern.isSome = false) := by
      rintro ⟨h_check, h_none⟩
      exact Bool.eq_false_iff.mp h_none (params.regex_given h_check)
    have h_values : ¬ (params.check = .allowedValues ∧ params.allowedValues.isSome = false) := by
      rintro ⟨h_check, h_none⟩
      exact Bool.eq_false_iff.mp h_none (params.values_given h_check)
    unfold validate
    simp only [h.extra, h.column, h.path, validatePath_eq_ok params.path_ok, h.check,
      h.expectedType, h.min, h.max, h.pattern, h.allowedValues, bind, Except.bind,
      if_neg (Nat.not_lt.mpr h.patternInBounds)]
    rw [dif_neg h_type, dif_neg h_range, dif_neg h_regex, dif_neg h_values, h.payload]
    rfl

theorem lookup_dump (params : JsonFieldParameters) (key : String) :
    params.dump.lookup key = (([
      ("column", some (.str params.column)),
      ("path", some (.str params.path)),
      ("check", some (nameIn jsonChecks params.check)),
      ("expected_type", params.expectedType.map (nameIn expectedTypes)),
      ("min", params.min.map .str),
      ("max", params.max.map .str),
      ("pattern", params.pattern.map .str),
      ("allowed_values", params.allowedValues.map fun values => .list (values.map .str))] :
        List (String × Option PyValue)).lookup key).join := by
  refine lookup_dumpFields ?_ key
  show ["column", "path", "check", "expected_type", "min", "max", "pattern",
    "allowed_values"].Nodup
  decide

/-- What is known of parameters that were read from a dictionary, besides what they carry. -/
structure Admissible (python : Python δ) (params : JsonFieldParameters) : Prop where
  -- no name stands for the kind of null
  expectedType : params.expectedType ≠ some .null
  patternInBounds : (params.pattern.getD "").length ≤ 512
  payload : validatePayload python params.check params.min params.max params.pattern
    params.allowedValues = .ok ()

/-- Parameters that were read satisfy their own checks. -/
theorem Reads.admissible (h : Reads python d params) : Admissible python params where
  expectedType := by
    intro h_null
    obtain ⟨s, _, h_mem⟩ := validateLiteral_ok (optional_ok (h_null ▸ h.expectedType))
    simp [expectedTypes] at h_mem
  patternInBounds := h.patternInBounds
  payload := h.payload

/-- Admissible parameters are read back from their dump. -/
theorem Admissible.reads_dump (h : Admissible python params) :
    Reads python params.dump params where
  extra := forbidExtra_dumpFields (by simp)
  column := required_of_lookup (lookup_dump params "column")
    (validateNonempty_str params.column_ne)
  path := required_of_lookup (lookup_dump params "path") rfl
  check := required_of_lookup (lookup_dump params "check") (by cases params.check <;> rfl)
  expectedType := optional_of_lookup (lookup_dump params "expected_type") fun kind h_kind => by
    cases kind with
    | null => exact absurd h_kind h.expectedType
    | _ => exact ⟨rfl, rfl⟩
  min := optional_of_lookup (lookup_dump params "min") fun _ _ => ⟨rfl, rfl⟩
  max := optional_of_lookup (lookup_dump params "max") fun _ _ => ⟨rfl, rfl⟩
  pattern := optional_of_lookup (lookup_dump params "pattern") fun _ _ => ⟨rfl, rfl⟩
  patternInBounds := h.patternInBounds
  allowedValues := optional_of_lookup (lookup_dump params "allowed_values")
    fun values _ => ⟨rfl, validateTexts_list "allowed_values" values⟩
  payload := h.payload

/-- The parameters without what their check does not read. -/
def ownPayload (params : JsonFieldParameters) : JsonFieldParameters where
  column := params.column
  path := params.path
  check := params.check
  -- the payload of another check is dropped
  expectedType := if params.check = .type then params.expectedType else none
  min := if params.check = .range then params.min else none
  max := if params.check = .range then params.max else none
  pattern := if params.check = .regex then params.pattern else none
  allowedValues := if params.check = .allowedValues then params.allowedValues else none
  column_ne := params.column_ne
  path_ok := params.path_ok
  type_given h := (congrArg Option.isSome (if_pos h)).trans (params.type_given h)
  range_given h := by rw [if_pos h, if_pos h]; exact params.range_given h
  regex_given h := (congrArg Option.isSome (if_pos h)).trans (params.regex_given h)
  values_given h := (congrArg Option.isSome (if_pos h)).trans (params.values_given h)

/-- Dropping the payload of the other checks keeps the parameters admissible. -/
theorem Admissible.ownPayload (h : Admissible python params) :
    Admissible python params.ownPayload where
  expectedType := by
    show (if _ then _ else _) ≠ _
    split
    · exact h.expectedType
    · exact Option.some_ne_none _ ∘ Eq.symm
  patternInBounds := by
    show (Option.getD (if _ then _ else _) "").length ≤ 512
    split
    · exact h.patternInBounds
    · exact Nat.zero_le 512
  payload := by
    rw [← h.payload]
    simp only [JsonFieldParameters.ownPayload]
    cases params.check <;> rfl

end JsonFieldParameters

/-! ### Validated rules -/

/-- A check that only counts as advice. -/
def IsForcedAdvisory (kind : RuleKind) (params : PyDict) : Prop :=
  kind = .spelling ∨ kind = .textQuality ∧ (params.get "check").text? = some "MOJIBAKE"

/-- What is known of a rule of a type that the API has accepted, with the parameters that were
sent. -/
structure IsValidated [Zero α] (python : Python δ) (kind : RuleKind) (sent : PyDict)
    (rule : CreateQualityRuleInput α) : Prop where
  ruleType : rule.ruleType = kind.value
  nullPolicy : rule.nullPolicy ∈ nullPolicies
  parameters : extendedParameters python kind.value sent = .ok rule.parameters
  advisory : IsForcedAdvisory kind rule.parameters → rule.isAdvisory = true
  required : IsForcedAdvisory kind rule.parameters → rule.isRequired = false
  critical : IsForcedAdvisory kind rule.parameters → rule.isCritical = false
  score : IsForcedAdvisory kind rule.parameters → rule.scoreEnabled = false
  gate : IsForcedAdvisory kind rule.parameters → rule.gateEnabled = false
  weight : IsForcedAdvisory kind rule.parameters → rule.contributionWeight = 0

/-- An accepted rule type is one of the compiled kinds. -/
theorem canonicalRuleType_ok {python : Python δ} {value ruleType : String}
    (h : canonicalRuleType python value = .ok ruleType) :
    ∃ kind : RuleKind, ruleType = kind.value := by
  unfold canonicalRuleType at h
  split at h
  case h_1 canonical h_lookup =>
    cases h
    obtain ⟨before, after, h_aliases, _⟩ := List.lookup_eq_some_iff.mp h_lookup
    have h_mem : (python.upper (pyStrip value), ruleType) ∈ ruleTypeAliases := by
      simp [h_aliases]
    obtain ⟨entry, _, h_entry⟩ := List.mem_map.mp h_mem
    exact ⟨entry.2, (Prod.ext_iff.mp h_entry).2.symm⟩
  case h_2 => cases h

/-- An accepted null policy is one of the known ones. -/
theorem knownNullPolicy_ok {python : Python δ} {value policy : String}
    (h : knownNullPolicy python value = .ok policy) : policy ∈ nullPolicies := by
  unfold knownNullPolicy at h
  simp only at h
  split at h
  case isTrue h_known =>
    cases h
    exact List.contains_iff_mem.mp h_known
  case isFalse => cases h

/-- Every kind has its compiler. -/
theorem lookup_value (kind : RuleKind) : compilers.lookup kind.value = some kind := by
  cases kind <;> decide

theorem value_injective {kind kind' : RuleKind} (h : kind.value = kind'.value) : kind = kind' := by
  rw [← Option.some_inj, ← lookup_value, h, lookup_value]

/-- A rule that passes the extended validation was parsed by the parameters of its kind. -/
theorem isValidated_of_extended [Field α] {python : Python δ} {kind : RuleKind}
    {input rule : CreateQualityRuleInput α} (h_type : input.ruleType = kind.value)
    (h_policy : input.nullPolicy ∈ nullPolicies) (h : input.validateExtended python = .ok rule) :
    IsValidated python kind input.parameters rule := by
  unfold CreateQualityRuleInput.validateExtended at h
  split at h
  case isTrue => cases h
  case isFalse =>
    obtain ⟨parameters, h_parameters, h⟩ := ok_of_bind h
    have h_forced : IsForcedAdvisory kind parameters ↔ input.ruleType = "SPELLING" ∨
        (input.ruleType = "TEXT_QUALITY" ∧ (parameters.get "check").text? = some "MOJIBAKE") := by
      rw [h_type, IsForcedAdvisory]
      have h_spelling : kind.value = "SPELLING" → kind = .spelling :=
        fun h => value_injective (h.trans rfl)
      have h_text : kind.value = "TEXT_QUALITY" → kind = .textQuality :=
        fun h => value_injective (h.trans rfl)
      exact or_congr ⟨fun h => h ▸ rfl, h_spelling⟩ (and_congr_left' ⟨fun h => h ▸ rfl, h_text⟩)
    simp only [← h_forced] at h
    rw [h_type] at h_parameters
    split at h
    case isTrue h_advisory =>
      cases h
      exact ⟨h_type, h_policy, h_parameters, fun _ => rfl, fun _ => rfl, fun _ => rfl, fun _ => rfl,
        fun _ => rfl, fun _ => rfl⟩
    case isFalse h_counted =>
      cases h
      have h_not : ¬ IsForcedAdvisory kind parameters := fun h => h_counted (h_forced.mp h)
      exact ⟨h_type, h_policy, h_parameters, fun h => absurd h h_not, fun h => absurd h h_not,
        fun h => absurd h h_not, fun h => absurd h h_not, fun h => absurd h h_not,
        fun h => absurd h h_not⟩

/-- A check of a field that has passed. -/
theorem ok_of_check {β : Type} {c : Prop} [Decidable c] {field message : String}
    {k : Unit → Except PyError β} {rest : Except PyError β} {b : β}
    (h : (if c then fieldError field message >>= k else rest) = .ok b) : rest = .ok b := by
  split at h
  case isTrue =>
    obtain ⟨_, h_error, _⟩ := ok_of_bind h
    cases h_error
  case isFalse => exact h

/-- An accepted rule has one of the types, in canonical form. -/
theorem exists_isValidated [Field α] [LinearOrder α] {python : Python δ}
    {input rule : CreateQualityRuleInput α} (h : input.modelValidate python = .ok rule) :
    ∃ kind, IsValidated python kind input.parameters rule := by
  unfold CreateQualityRuleInput.modelValidate at h
  dsimp only at h
  have h := ok_of_check (ok_of_check h)
  obtain ⟨dimension, _, h⟩ := ok_of_bind h
  obtain ⟨ruleType, h_type, h⟩ := ok_of_bind h
  obtain ⟨policy, h_policy, h⟩ := ok_of_bind h
  have h := ok_of_check (ok_of_check (ok_of_check h))
  obtain ⟨kind, rfl⟩ := canonicalRuleType_ok h_type
  have h_valid := isValidated_of_extended rfl (knownNullPolicy_ok h_policy) h
  exact ⟨kind, h_valid⟩

end DqScoring
