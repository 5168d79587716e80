import DqScoring.Common.Pydantic
import DqScoring.Framework.Traverse

/-!
# Parameters of the extended rules

The parameter models of `common/rule_parameters.py`. What a model's validators require
is a field of its structure, so that parameters outside it do not exist here either;
`validate` is `model_validate`, which builds them from a dictionary or raises.
-/

namespace DqScoring

open Framework

variable {δ : Type}

/-- A JSON pointer as the models accept it: empty or starting with a slash, with every
tilde before 0 or 1. -/
def isJsonPointer (path : String) : Bool :=
  (path == "" || path.toList.head? == some '/') && escapesOk path.toList
where
  -- the source searches for `~(?![01])`, which a tilde at the end matches too
  escapesOk : List Char → Bool
    | [] => true
    | '~' :: c :: cs => (c == '0' || c == '1') && escapesOk (c :: cs)
    | ['~'] => false
    | _ :: cs => escapesOk cs

/-- The empty path is a pointer, to the whole document. -/
theorem isJsonPointer_root : isJsonPointer "" = true := rfl

/-- The validator `validate_rfc6901_path`. -/
def validatePath (path : String) : Except PyError { p : String // isJsonPointer p = true } :=
  if h : isJsonPointer path = true then .ok ⟨path, h⟩
  else if path ≠ "" ∧ path.toList.head? ≠ some '/' then
    .error (.valueError "RFC 6901 JSON Pointer path must be '' (root) or start with '/'")
  else .error (.valueError "Invalid JSON Pointer escape")

/-! ### Text quality -/

/-- The checks of a text quality rule. -/
inductive TextCheck where
  | replacementCharacter | controlCharacter | mojibake | length
  deriving DecidableEq, Repr

/-- The names of the checks. -/
def textChecks : List (String × TextCheck) := [
  ("REPLACEMENT_CHARACTER", .replacementCharacter), ("CONTROL_CHARACTER", .controlCharacter),
  ("MOJIBAKE", .mojibake), ("LENGTH", .length)]

/-- Parameters of a text quality rule. -/
structure TextQualityParameters where
  column : String
  check : TextCheck
  minLength : Option ℕ := none
  maxLength : Option ℕ := none
  column_ne : column ≠ ""
  length_given : check = .length → (minLength.isSome || maxLength.isSome) = true
  length_inOrder : check = .length → inOrder minLength maxLength = true

/-- `TextQualityParameters.model_validate`. -/
def TextQualityParameters.validate (d : PyDict) : Except PyError TextQualityParameters := do
  forbidExtra ["column", "check", "min_length", "max_length"] d
  let column ← required d "column" validateNonempty
  let check ← required d "check" (validateLiteral textChecks)
  let minLength ← optional d "min_length" validateCount
  let maxLength ← optional d "max_length" validateCount
  -- `validate_length_bounds`, after the fields
  if h_given : check = .length ∧ (minLength.isSome || maxLength.isSome) = false then
    .error (.valueError
      "At least one of min_length or max_length is required for check='LENGTH'")
  else if h_order : check = .length ∧ inOrder minLength maxLength = false then
    .error (.valueError "min_length cannot exceed max_length")
  else
    return {
      column
      check
      minLength
      maxLength
      column_ne := column.2
      length_given := fun h => Bool.eq_true_of_not_eq_false fun h' => h_given ⟨h, h'⟩
      length_inOrder := fun h => Bool.eq_true_of_not_eq_false fun h' => h_order ⟨h, h'⟩ }

/-! ### Spelling -/

/-- The digests of the dictionary files, by language. -/
abbrev DictionaryDigests := List (String × List (List (String × String)))

/-- The equality of the source's dictionaries of digests. -/
def sameDigests (a b : DictionaryDigests) : Bool :=
  sameDict (fun xs ys => xs.length == ys.length &&
    (xs.zip ys).all fun pair => sameDict (· == ·) pair.1 pair.2) a b

/-- Parameters of a spelling rule. -/
structure SpellingParameters where
  column : String
  language : String
  dictionaryRevision : String
  acceptedTerms : List String := []
  dictionaryDigests : Option DictionaryDigests := none
  column_ne : column ≠ ""
  dictionaryRevision_ne : dictionaryRevision ≠ ""

/-- The validator `validate_accepted_terms`. -/
def validateAcceptedTerms (terms : List String) : Except PyError (List String) :=
  if terms.length > 1000 then .error (.valueError "accepted_terms cannot exceed 1000 items")
  else
    match terms.find? fun term => decide (term.length > 128) with
    | some term => .error (.valueError
        ("accepted_term '" ++ (term.take 20).toString ++ "...' exceeds 128 characters"))
    | none => .ok terms

/-- `SpellingParameters.model_validate`. -/
def SpellingParameters.validate (d : PyDict) : Except PyError SpellingParameters := do
  -- unknown keys are refused before any field is read
  forbidExtra ["column", "language", "dictionary_revision", "accepted_terms",
    "dictionary_digests"] d
  let column ← required d "column" validateNonempty
  let language ← required d "language"
    (validateLiteral [("vi", "vi"), ("en", "en"), ("vi-en", "vi-en")])
  let revision ← required d "dictionary_revision" validateNonempty
  -- an absent list is empty, a `None` is not accepted
  let terms ←
    match d.lookup "accepted_terms" with
    | some v => validateList validateStr "accepted_terms" v
    | none => .ok []
  let terms ← validateAcceptedTerms terms
  let digests ← optional d "dictionary_digests"
    (validateDict (validateList (validateDict validateStr)))
  return {
    column
    language
    dictionaryRevision := revision
    acceptedTerms := terms
    dictionaryDigests := digests
    column_ne := column.2
    dictionaryRevision_ne := revision.2 }

/-! ### JSON fields -/

/-- The logical kinds of JSON values. -/
inductive JsonKind where
  | null | boolean | number | string | object | array
  deriving DecidableEq, Repr

/-- The kinds a type check can expect. -/
def expectedTypes : List (String × JsonKind) := [
  ("STRING", .string), ("NUMBER", .number), ("BOOLEAN", .boolean), ("OBJECT", .object),
  ("ARRAY", .array)]

/-- The checks of a JSON field rule. -/
inductive JsonCheck where
  | nonNull | type | range | regex | allowedValues
  deriving DecidableEq, Repr

/-- The names of the checks. -/
def jsonChecks : List (String × JsonCheck) := [
  ("NON_NULL", .nonNull), ("TYPE", .type), ("RANGE", .range), ("REGEX", .regex),
  ("ALLOWED_VALUES", .allowedValues)]

/-- Parameters of a JSON field rule. -/
structure JsonFieldParameters where
  column : String
  path : String
  check : JsonCheck
  expectedType : Option JsonKind := none
  min : Option String := none
  max : Option String := none
  pattern : Option String := none
  allowedValues : Option (List String) := none
  column_ne : column ≠ ""
  path_ok : isJsonPointer path = true
  type_given : check = .type → expectedType.isSome = true
  range_given : check = .range → (min.isSome || max.isSome) = true
  regex_given : check = .regex → pattern.isSome = true
  values_given : check = .allowedValues → allowedValues.isSome = true

/-- A bound of a range check. -/
def validateBound (python : Python δ) (name : String) :
    Option String → Except PyError (Option PyDecimal)
  | none => .ok none
  | some text =>
    match python.decimal text with
    | some bound => .ok (some bound)
    | none => .error (.valueError ("Invalid decimal string " ++ name ++ "='" ++ text ++ "'"))

/-- The number of a finite decimal. -/
def PyDecimal.finite? : PyDecimal → Option ℚ
  | .finite x => some x
  | _ => none

/-- The checks of `validate_check_payload` on the bounds of a range. -/
def validateRange (python : Python δ) (min max : Option String) : Except PyError Unit := do
  let minDec ← validateBound python "min" min
  let maxDec ← validateBound python "max" max
  if (minDec.any fun b => b.finite?.isNone) || (maxDec.any fun b => b.finite?.isNone) then
    .error (.valueError "RANGE bounds must be finite decimal strings")
  else if !inOrder (minDec.bind (·.finite?)) (maxDec.bind (·.finite?)) then
    .error (.valueError ("min (" ++ min.getD "" ++ ") cannot exceed max (" ++ max.getD "" ++ ")"))
  else .ok ()

/-- The checks of `validate_check_payload` besides those on bounds. -/
def validatePayload (python : Python δ) (check : JsonCheck) (min max pattern : Option String)
    (allowedValues : Option (List String)) : Except PyError Unit :=
  match check with
  | .range => validateRange python min max
  | .regex =>
    -- the source's `not self.pattern` is true of an empty pattern as well
    if pattern = some "" then .error (.valueError "pattern is required when check='REGEX'")
    else .ok ()
  | .allowedValues =>
    if allowedValues = some [] then
      .error (.valueError "allowed_values list is required when check='ALLOWED_VALUES'")
    else if (allowedValues.getD []).length > 1000 then
      .error (.valueError "allowed_values cannot exceed 1000 items")
    else .ok ()
  | _ => .ok ()

/-- `JsonFieldParameters.model_validate`. -/
def JsonFieldParameters.validate (python : Python δ) (d : PyDict) :
    Except PyError JsonFieldParameters := do
  forbidExtra ["column", "path", "check", "expected_type", "min", "max", "pattern",
    "allowed_values"] d
  let column ← required d "column" validateNonempty
  let path ← required d "path" validateStr
  let path ← validatePath path
  let check ← required d "check" (validateLiteral jsonChecks)
  let expectedType ← optional d "expected_type" (validateLiteral expectedTypes)
  let min ← optional d "min" validateStr
  let max ← optional d "max" validateStr
  let pattern ← optional d "pattern" validateStr
  -- `validate_pattern_length`
  if (pattern.getD "").length > 512 then
    .error (.valueError "pattern cannot exceed 512 characters")
  let allowedValues ← optional d "allowed_values" (validateList validateStr)
  -- `validate_check_payload`: what each check needs, then what the payload must satisfy
  if h_type : check = .type ∧ expectedType.isSome = false then
    .error (.valueError "expected_type is required when check='TYPE'")
  else if h_range : check = .range ∧ (min.isSome || max.isSome) = false then
    .error (.valueError "At least one of min or max is required when check='RANGE'")
  else if h_regex : check = .regex ∧ pattern.isSome = false then
    .error (.valueError "pattern is required when check='REGEX'")
  else if h_values : check = .allowedValues ∧ allowedValues.isSome = false then
    .error (.valueError "allowed_values list is required when check='ALLOWED_VALUES'")
  else
    validatePayload python check min max pattern allowedValues
    return {
      column
      path
      check
      expectedType
      min
      max
      pattern
      allowedValues
      column_ne := column.2
      path_ok := path.2
      type_given := fun h => Bool.eq_true_of_not_eq_false fun h' => h_type ⟨h, h'⟩
      range_given := fun h => Bool.eq_true_of_not_eq_false fun h' => h_range ⟨h, h'⟩
      regex_given := fun h => Bool.eq_true_of_not_eq_false fun h' => h_regex ⟨h, h'⟩
      values_given := fun h => Bool.eq_true_of_not_eq_false fun h' => h_values ⟨h, h'⟩ }

/-- What the dictionary of a regex check holds. -/
theorem JsonFieldParameters.regex_of_validate {python : Python δ} {d : PyDict}
    {params : JsonFieldParameters} (h : JsonFieldParameters.validate python d = .ok params)
    (h_check : params.check = .regex) :
    d.get "check" = .str "REGEX" ∧ d.get "pattern" = .str (params.pattern.getD "") := by
  -- the two fields are read from the dictionary as the parameters have them
  have h_read : required d "check" (validateLiteral jsonChecks) = .ok params.check ∧
      optional d "pattern" validateStr = .ok params.pattern := by
    unfold JsonFieldParameters.validate at h
    obtain ⟨_, _, h⟩ := ok_of_bind h
    obtain ⟨column, _, h⟩ := ok_of_bind h
    obtain ⟨_, _, h⟩ := ok_of_bind h
    obtain ⟨path, _, h⟩ := ok_of_bind h
    obtain ⟨check, h_read_check, h⟩ := ok_of_bind h
    obtain ⟨expectedType, _, h⟩ := ok_of_bind h
    obtain ⟨min, _, h⟩ := ok_of_bind h
    obtain ⟨max, _, h⟩ := ok_of_bind h
    obtain ⟨pattern, h_read_pattern, h⟩ := ok_of_bind h
    dsimp only at h
    split at h
    case isTrue =>
      obtain ⟨_, h_long, _⟩ := ok_of_bind h
      cases h_long
    case isFalse =>
      obtain ⟨allowedValues, _, h⟩ := ok_of_bind h
      -- the payload checks either raise or build the parameters
      split_ifs at h
      obtain ⟨_, _, h⟩ := ok_of_bind h
      cases h
      exact ⟨h_read_check, h_read_pattern⟩
  -- and only one name stands for the check
  have h_names : ∀ s, (s, JsonCheck.regex) ∈ jsonChecks → s = "REGEX" := by simp [jsonChecks]
  obtain ⟨s, h_s, h_name⟩ := validateLiteral_ok (required_ok (h_check ▸ h_read.1))
  obtain ⟨p, h_p⟩ := Option.isSome_iff_exists.mp (params.regex_given h_check)
  rw [h_s, h_names s h_name, validateStr_ok (optional_ok (h_p ▸ h_read.2)), h_p]
  exact ⟨rfl, rfl⟩

/-! ### JSON arrays -/

/-- Parameters of a JSON array rule. -/
structure JsonArrayParameters where
  column : String
  path : String
  minItems : Option ℕ := none
  maxItems : Option ℕ := none
  uniqueItems : Bool := false
  column_ne : column ≠ ""
  path_ok : isJsonPointer path = true
  given : (minItems.isSome || maxItems.isSome || uniqueItems) = true
  items_inOrder : inOrder minItems maxItems = true

/-- `JsonArrayParameters.model_validate`. -/
def JsonArrayParameters.validate (python : Python δ) (d : PyDict) :
    Except PyError JsonArrayParameters := do
  forbidExtra ["column", "path", "min_items", "max_items", "unique_items"] d
  let column ← required d "column" validateNonempty
  let path ← required d "path" validateStr
  let path ← validatePath path
  let minItems ← optional d "min_items" validateCount
  let maxItems ← optional d "max_items" validateCount
  let uniqueItems ←
    match d.lookup "unique_items" with
    | some v => validateBool python "unique_items" v
    | none => .ok false
  -- `validate_array_bounds`
  if h_given : (minItems.isSome || maxItems.isSome || uniqueItems) = false then
    .error (.valueError
      "At least one of min_items, max_items, or unique_items=True must be configured")
  else if h_order : inOrder minItems maxItems = false then
    .error (.valueError "min_items cannot exceed max_items")
  else
    return {
      column
      path
      minItems
      maxItems
      uniqueItems
      column_ne := column.2
      path_ok := path.2
      given := Bool.eq_true_of_not_eq_false h_given
      items_inOrder := Bool.eq_true_of_not_eq_false h_order }

end DqScoring
