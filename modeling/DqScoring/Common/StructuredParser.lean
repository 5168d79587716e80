import DqScoring.Common.StructuredValues
import DqScoring.Framework.JsonDecoder

/-!
# The parser of structured values

`parse_structured_json` of `common/structured_values.py`. The decoder of the standard
library is the one of `JsonDecoder`, with the hooks of the source: `Decimal` for numbers with
a fraction or an exponent, a hook that rejects duplicate keys, and one that rejects `NaN` and
the infinities. `_check_depth` then walks over what has been decoded.

The text is a `String`, whose characters are no surrogates, so `text.encode("utf-8")` never
raises. Within the strings of the decoded value surrogates do occur, by way of escapes, until
`_check_depth` rejects them; a `RawValue` therefore has its strings as code points.
-/

namespace DqScoring

open Framework

/-! ### Decoding -/

/-- A decoded value. -/
inductive RawValue where
  | null
  | bool (b : Bool)
  | int (n : ℤ)
  | decimal (d : DecimalNumber)
  | str (points : List ℕ)
  | arr (items : List RawValue)
  | obj (entries : List (List ℕ × RawValue))

/-- The limits of the interpreter. -/
structure ParserLimits where
  /-- `sys.get_int_max_str_digits()`: the digits that `int` takes, 0 for any number of them. -/
  maxStrDigits : ℕ
  /-- How deep the decoder can recurse. -/
  recursion : ℕ

/-- The limits of `Decimal`: `MAX_PREC`, `MAX_EMAX` and `MIN_ETINY`. -/
def maxPrec : ℕ := 999999999999999999

def maxEmax : ℤ := 999999999999999999

def minEtiny : ℤ := -1999999999999999997

/-- The number of digits of a coefficient. -/
def DecimalNumber.digitCount (d : DecimalNumber) : ℕ := (Nat.toDigits 10 d.coefficient).length

/-- `Decimal` holds the number exactly. -/
def DecimalNumber.Fits (d : DecimalNumber) : Prop :=
  d.digitCount ≤ maxPrec ∧ d.exponent + d.digitCount - 1 ≤ maxEmax ∧ minEtiny ≤ d.exponent

instance (d : DecimalNumber) : Decidable d.Fits := inferInstanceAs (Decidable (_ ∧ _ ∧ _))

/-- `int` takes so many digits. -/
def ParserLimits.AllowDigits (limits : ParserLimits) (n : ℕ) : Prop :=
  limits.maxStrDigits = 0 ∨ n ≤ limits.maxStrDigits

instance (limits : ParserLimits) (n : ℕ) : Decidable (limits.AllowDigits n) :=
  inferInstanceAs (Decidable (_ ∨ _))

/-- `int(text)` of an integer literal. -/
def intOfLiteral (limits : ParserLimits) (n : NumberLiteral) : Except JsonFailure RawValue :=
  if limits.AllowDigits n.integral.digits.length then
    .ok (.int ((if n.negative then -1 else 1) * (digitsValue n.integral.digits : ℤ)))
  else .error (.raised (.valueError "Exceeds the limit for integer string conversion"))

/-- `Decimal(text)` of the literal of a number. -/
def decimalOfLiteral (n : NumberLiteral) : Except JsonFailure RawValue :=
  let d : DecimalNumber := ⟨n.negative, n.coefficient, n.scale⟩
  if d.Fits then .ok (.decimal d) else .error (.raised .invalidOperation)

/-- `_object_pairs_hook`. -/
def objectPairsHook (pairs : List (List ℕ × RawValue)) : Except JsonFailure RawValue := do
  let obj ← pairs.foldlM (fun (obj : List (List ℕ × RawValue)) (pair : List ℕ × RawValue) =>
    if pair.1 ∈ obj.map (·.1) then .error (.structured "DUPLICATE_KEY") else .ok (obj ++ [pair])) []
  return .obj obj

/-- The decoder of `parse_structured_json`. -/
def structuredHooks (limits : ParserLimits) : JsonHooks RawValue JsonFailure where
  null := .null
  bool := .bool
  -- `_reject_constants`
  constant := fun _ => .error (.structured "DISALLOWED_CONSTANT")
  number := fun n => if n.isInteger then intOfLiteral limits n else decimalOfLiteral n
  string := .str
  array := .arr
  object := objectPairsHook
  malformed := .raised (.valueError "Expecting value")
  -- a `RecursionError` is caught together with every `ValueError`
  tooDeep := .raised (.valueError "maximum recursion depth exceeded")

/-! ### Checking -/

/-- `isinstance(value, (dict, list))`. -/
def RawValue.isContainer : RawValue → Bool
  | arr _ => true
  | obj _ => true
  | _ => false

/-- A text of code points. It has no encoding where one of them is half of a surrogate pair. -/
def checkText (points : List ℕ) : Except JsonFailure String :=
  if ∀ n ∈ points, n.isValidChar then .ok (String.ofList (points.map Char.ofNat))
  else .error (.structured "INVALID_ENCODING")

mutual

/-- `_check_depth`. -/
def checkDepth (maxDepth currentDepth : ℕ) (value : RawValue) : Except JsonFailure Json :=
  -- the depth is checked before the value is
  if currentDepth > maxDepth then .error (.structured "NESTING_TOO_DEEP")
  else
    match value with
    | .null => .ok .null
    | .bool b => .ok (.bool b)
    | .int n => .ok (.int n)
    | .decimal d => .ok (.decimal d)
    -- a surrogate in a text is refused
    | .str points => do return .str (← checkText points)
    | .arr items => do return .arr (← checkItems maxDepth currentDepth items)
    | .obj entries => do return .obj (← checkEntries maxDepth currentDepth entries)

/-- `_check_depth` of the items of a list. -/
def checkItems (maxDepth currentDepth : ℕ) : List RawValue → Except JsonFailure (List Json)
  | [] => .ok []
  | value :: items => do
    let v ← checkDepth maxDepth (currentDepth + value.isContainer.toNat) value
    return v :: (← checkItems maxDepth currentDepth items)

/-- `_check_depth` of the entries of a dictionary. -/
def checkEntries (maxDepth currentDepth : ℕ) :
    List (List ℕ × RawValue) → Except JsonFailure (List (String × Json))
  | [] => .ok []
  | (key, value) :: entries => do
    let k ← checkText key
    let v ← checkDepth maxDepth (currentDepth + value.isContainer.toNat) value
    return (k, v) :: (← checkEntries maxDepth currentDepth entries)

end

/-! ### Parsing -/

/-- What is raised for a failure of the decoder: a `ValueError` is a malformed text. -/
def JsonFailure.caught : JsonFailure → JsonFailure
  | raised (.valueError _) => structured "INVALID_JSON"
  | failure => failure

/-- `parse_structured_json`. -/
def parseStructuredJson (limits : ParserLimits) (text : String) (maxDepth : ℕ := 32) :
    Except JsonFailure Json :=
  let stripped := text.toList.dropWhile isPySpace
  match scanValue (structuredHooks limits) (2 * stripped.length + 1) limits.recursion stripped with
  | .error failure => .error failure.caught
  | .ok (parsed, rest) =>
    if pyStrip (String.ofList rest) ≠ "" then .error (.structured "INVALID_JSON")
    else checkDepth maxDepth 1 parsed

end DqScoring
