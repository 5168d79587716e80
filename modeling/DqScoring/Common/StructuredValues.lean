import DqScoring.Common.RuleParameters
import Mathlib.Algebra.Field.Rat

/-!
# Structured values

`common/structured_values.py`: the value at a JSON pointer of a cell, the canonical text
of a value, and the labels that the JSON rules give to cells. The parser is a parameter,
`parse`: it gives the value of a text, or the error code of a `StructuredParsingError`,
or raises something else. The functions here catch the former only.
-/

namespace DqScoring

/-! ### Values -/

/-- A decimal number as Python's `Decimal` stores it. -/
structure DecimalNumber where
  negative : Bool
  coefficient : ℕ
  exponent : ℤ
  deriving DecidableEq, Repr

/-- The number. -/
def DecimalNumber.toRat (d : DecimalNumber) : ℚ :=
  (if d.negative then -1 else 1) * d.coefficient * (10 : ℚ) ^ d.exponent

/-- `str(decimal)`: scientific notation for large or very small exponents. -/
def DecimalNumber.str (d : DecimalNumber) : String :=
  let digits := toString d.coefficient
  let leftDigits : ℤ := d.exponent + digits.length
  -- plain notation while the exponent is not positive and at most six zeros follow the point
  let dotPlace : ℤ := if d.exponent ≤ 0 ∧ leftDigits > -6 then leftDigits else 1
  let number :=
    if dotPlace ≤ 0 then "0." ++ String.ofList (List.replicate (-dotPlace).toNat '0') ++ digits
    else if dotPlace ≥ digits.length then
      digits ++ String.ofList (List.replicate (dotPlace.toNat - digits.length) '0')
    else (digits.take dotPlace.toNat).toString ++ "." ++ (digits.drop dotPlace.toNat).toString
  let exponent := leftDigits - dotPlace
  let suffix :=
    if exponent = 0 then ""
    else if exponent > 0 then "E+" ++ toString exponent
    else "E" ++ toString exponent
  (if d.negative then "-" else "") ++ number ++ suffix

/-- A parsed JSON value. Integers and other numbers are distinct, as they are in Python. -/
inductive Json where
  | null
  | bool (b : Bool)
  | int (n : ℤ)
  | decimal (d : DecimalNumber)
  | str (s : String)
  | arr (items : List Json)
  | obj (entries : List (String × Json))

/-- Why a text has no value. -/
inductive JsonFailure where
  /-- A `StructuredParsingError` with its code. -/
  | structured (errorCode : String)
  /-- Any other exception. -/
  | raised (error : PyError)
  deriving DecidableEq, Repr

namespace Json

/-- `classify_value_kind`. -/
def kind : Json → JsonKind
  | null => .null
  | bool _ => .boolean
  | int _ => .number
  | decimal _ => .number
  | str _ => .string
  | arr _ => .array
  | obj _ => .object

/-- The text of a character within a JSON string, with the source's escapes. -/
def escapeChar (c : Char) : String :=
  if c = '"' then "\\\""
  else if c = '\\' then "\\\\"
  else if c = '\n' then "\\n"
  else if c = '\r' then "\\r"
  else if c = '\t' then "\\t"
  else if c.toNat = 8 then "\\b"
  else if c.toNat = 12 then "\\f"
  -- the other control characters have no short escape
  else if c.toNat < 32 then
    "\\u00" ++ String.ofList [(c.toNat / 16).digitChar, (c.toNat % 16).digitChar]
  else String.singleton c

/-- `json.dumps(s, ensure_ascii=False)`. -/
def quote (s : String) : String :=
  "\"" ++ String.join (s.toList.map escapeChar) ++ "\""

mutual

/-- `canonical_compact_json`: compact text with sorted keys. -/
def canonical : Json → String
  | null => "null"
  | bool b => if b then "true" else "false"
  | int n => toString n
  | decimal d => d.str
  | str s => quote s
  | arr items => "[" ++ ",".intercalate (canonicalItems items) ++ "]"
  -- the braces are written as escapes
  | obj entries =>
    let sorted := (canonicalEntries entries).mergeSort fun a b => decide (a.1 ≤ b.1)
    "\x7b" ++ ",".intercalate (sorted.map fun e => quote e.1 ++ ":" ++ e.2) ++ "\x7d"

/-- The texts of the items of an array. -/
def canonicalItems : List Json → List String
  | [] => []
  | v :: items => canonical v :: canonicalItems items

/-- The texts of the values of an object, by key. -/
def canonicalEntries : List (String × Json) → List (String × String)
  | [] => []
  | (k, v) :: entries => (k, canonical v) :: canonicalEntries entries

end

/-! ### Identities -/

/-- A part of the identity of a value: numbers count by value, and an array or object
starts with the number of its parts. -/
inductive IdentityToken where
  | null
  | bool (b : Bool)
  | number (x : ℚ)
  | str (s : String)
  | arr (length : ℕ)
  | obj (length : ℕ)
  | key (k : String)
  deriving DecidableEq

mutual

/-- `_json_identity`: what two items of an array have in common when they are equal. -/
def identity : Json → List IdentityToken
  | null => [.null]
  | bool b => [.bool b]
  | int n => [.number n]
  | decimal d => [.number d.toRat]
  | str s => [.str s]
  | arr items => .arr items.length :: (identityItems items).flatten
  | obj entries =>
    -- objects are compared with their keys sorted
    let sorted := (identityEntries entries).mergeSort fun a b => decide (a.1 ≤ b.1)
    .obj entries.length :: (sorted.map fun e => IdentityToken.key e.1 :: e.2).flatten

/-- The identities of the items of an array. -/
def identityItems : List Json → List (List IdentityToken)
  | [] => []
  | v :: items => identity v :: identityItems items

/-- The identities of the values of an object, by key. -/
def identityEntries : List (String × Json) → List (String × List IdentityToken)
  | [] => []
  | (k, v) :: entries => (k, identity v) :: identityEntries entries

end

end Json

/-! ### Extraction -/

/-- The state of an extracted field. -/
inductive FieldState where
  | present | missing | miscast
  deriving DecidableEq, Repr

/-- An extracted field. -/
structure JsonField where
  state : FieldState
  kind : Option JsonKind := none
  text : Option String := none
  numberDecimal : Option String := none
  deriving DecidableEq, Repr

/-- `decode_rfc6901_token`. -/
def decodeToken (token : String) : String := (token.replace "~1" "/").replace "~0" "~"

/-- The text of a value that is present. -/
def Json.text : Json → String
  | .str s => s
  | v => v.canonical

/-- The field of a value that is present, or of a null. -/
def fieldOf (target : Json) : JsonField :=
  match target with
  | .null => { state := .missing, kind := some .null }
  | .int _ | .decimal _ =>
    { state := .present, kind := some .number, text := some target.text,
      numberDecimal := some target.text }
  | _ => { state := .present, kind := some target.kind, text := some target.text }

section Extraction

variable {δ : Type} (python : Python δ) (parse : String → Except JsonFailure Json)

/-- Follow the tokens of a pointer. -/
def walk : List String → Json → JsonField
  | [], target => fieldOf target
  | token :: tokens, .obj entries =>
    match entries.lookup token with
    | some v => walk tokens v
    | none => { state := .missing }
  | token :: tokens, .arr items =>
    -- `int(tok)`, whose `ValueError` means that there is no such item
    match python.parseInt token with
    | some n =>
      if n < 0 then { state := .missing }
      else
        match items[n.toNat]? with
        | some v => walk tokens v
        | none => { state := .missing }
    | none => { state := .missing }
  -- a scalar has no parts
  | _ :: _, _ => { state := .miscast }

/-- `extract_json_field`. -/
def extractJsonField (value : Option String) (path : String) : Except PyError JsonField :=
  match value with
  | none => .ok { state := .missing }
  | some text =>
    match parse text with
    -- only a `StructuredParsingError` is caught
    | .error (.structured _) => .ok { state := .miscast }
    | .error (.raised e) => .error e
    | .ok root =>
      if path = "" then .ok (fieldOf root)
      else if path.toList.head? ≠ some '/' then .ok { state := .miscast }
      else .ok (walk python (((path.drop 1).toString.splitOn "/").map decodeToken) root)

/-! ### Labels -/

/-- What a labelling function says of a cell. -/
inductive CellLabel where
  | passed | failed | missing | miscast | notApplicable
  deriving DecidableEq, Repr

/-- The label of a field without value. -/
def FieldState.label : FieldState → CellLabel
  | .present => .passed
  | .missing => .missing
  | .miscast => .miscast

/-- The finite decimal of a text. -/
def finiteDecimal (text : Option String) : Except PyError ℚ :=
  match (text.bind python.decimal).bind (·.finite?) with
  | some x => .ok x
  | none => .error (.valueError "Invalid decimal")

/-- The range check of a number. -/
def evaluateRange (params : JsonFieldParameters) (number : Option String) :
    Except PyError CellLabel := do
  -- a text that is no finite number raises
  let x ← finiteDecimal python number
  if params.min.isSome then
    let lo ← finiteDecimal python params.min
    -- a bound is read only when it is set
    if x < lo then return .failed
  if params.max.isSome then
    let hi ← finiteDecimal python params.max
    if x > hi then return .failed
  return .passed

/-- `evaluate_json_field`. -/
def evaluateJsonField (params : JsonFieldParameters) (value : Option String) :
    Except PyError CellLabel := do
  let field ← extractJsonField python parse value params.path
  if field.state ≠ .present then return field.state.label
  match params.check with
  | .nonNull => return .passed
  | .type => return if field.kind = params.expectedType then .passed else .miscast
  | .range =>
    if field.kind ≠ some .number then return .miscast
    else evaluateRange python params field.numberDecimal
  | .allowedValues =>
    if field.kind ≠ some .string then return .miscast
    else return if field.text.any (params.allowedValues.getD []).contains then .passed else .failed
  -- the compiler never sends a regex check here
  | .regex => .error (.valueError "JSON_FIELD check must be evaluated by the Spark regex compiler")

/-- The checks on the items of an array. -/
def arrayLabel (params : JsonArrayParameters) (items : List Json) : CellLabel :=
  if params.minItems.any fun lo => decide (items.length < lo) then .failed
  else if params.maxItems.any fun hi => decide (items.length > hi) then .failed
  else if params.uniqueItems && decide ¬ (items.map Json.identity).Nodup then .failed
  else .passed

/-- `evaluate_json_array`. -/
def evaluateJsonArray (params : JsonArrayParameters) (value : Option String) :
    Except PyError CellLabel := do
  let field ← extractJsonField python parse value params.path
  if field.state ≠ .present then return field.state.label
  if field.kind ≠ some .array then return .miscast
  -- the canonical text of the array is parsed again
  match parse (field.text.getD "") with
  | .ok (.arr items) => return arrayLabel params items
  | .ok _ => .error (.typeError "object has no len()")
  | .error (.structured code) => .error (.valueError code)
  | .error (.raised e) => .error e

end Extraction

end DqScoring
