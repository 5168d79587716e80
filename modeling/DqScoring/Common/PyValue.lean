import Mathlib.Data.Rat.Floor

/-!
# Dynamic values

The values of the parameters of a rule (`dict[str, Any]`), as the JSON columns of the
database produce them, with Python's truth value, `or` and conversions. Floats are read
as exact rationals. A dictionary is a list of entries; the first entry of a key counts.

`PyError` lists the exceptions the modelled functions can raise. `Python` holds the
built-in functions on texts whose tables or formats are not modelled.
-/

namespace DqScoring

/-- The exceptions of the modelled functions. Pydantic's validation error is a
`ValueError`. -/
inductive PyError where
  | valueError (message : String)
  | typeError (message : String)
  | attributeError (message : String)
  | osError (message : String)
  | zeroDivisionError
  /-- `decimal.InvalidOperation`, which is no `ValueError`. -/
  | invalidOperation
  deriving DecidableEq, Repr

/-- A dynamic value. -/
inductive PyValue where
  | none
  | bool (b : Bool)
  | int (n : ℤ)
  | float (x : ℚ)
  | str (s : String)
  | list (items : List PyValue)
  | dict (items : List (String × PyValue))

/-- The parameters of a rule. -/
abbrev PyDict := List (String × PyValue)

namespace PyValue

/-- The truth value of Python's `if x` and `x or y`. -/
def truthy : PyValue → Bool
  | none => false
  | bool b => b
  | int n => decide (n ≠ 0)
  | float x => decide (x ≠ 0)
  | str s => decide (s ≠ "")
  | list items => !items.isEmpty
  | dict items => !items.isEmpty

theorem truthy_str {s : String} : (str s).truthy = true ↔ s ≠ "" := decide_eq_true_iff

/-- Python's `x or y`. -/
def orElse (x y : PyValue) : PyValue := if x.truthy then x else y

/-- Python's `x is None`. -/
def isNone : PyValue → Bool
  | none => true
  | _ => false

/-- The text of a value that is a string. -/
def text? : PyValue → Option String
  | str s => some s
  | _ => Option.none

end PyValue

namespace PyDict

/-- Python's `key in d`. -/
def has (d : PyDict) (key : String) : Bool := (d.lookup key).isSome

/-- Python's `d.get(key)`. -/
def get (d : PyDict) (key : String) : PyValue := (d.lookup key).getD .none

/-- Python's `d.get(key, default)`. -/
def getD (d : PyDict) (key : String) (default : PyValue) : PyValue :=
  (d.lookup key).getD default

theorem get_of_not_has {d : PyDict} {key : String} (h : d.has key = false) :
    d.get key = .none := by
  rw [get, Option.isNone_iff_eq_none.mp (Option.isSome_eq_false_iff.mp h), Option.getD_none]

theorem getD_of_has {d : PyDict} {key : String} (h : d.has key = true) (default : PyValue) :
    d.getD key default = d.get key := by
  obtain ⟨v, h_v⟩ := Option.isSome_iff_exists.mp h
  rw [getD, get, h_v, Option.getD_some, Option.getD_some]

theorem getD_of_not_has {d : PyDict} {key : String} (h : d.has key = false) (default : PyValue) :
    d.getD key default = default := by
  rw [getD, Option.isNone_iff_eq_none.mp (Option.isSome_eq_false_iff.mp h), Option.getD_none]

end PyDict

/-- Python's `a == b` of dictionaries, given the equality of their values. -/
def sameDict {β : Type} (same : β → β → Bool) (a b : List (String × β)) : Bool :=
  a.length == b.length && a.all fun entry => (b.lookup entry.1).any (same entry.2)

/-! ### Conversions -/

/-- A value of Python's `Decimal`. -/
inductive PyDecimal where
  | finite (x : ℚ)
  | infinite (negative : Bool)
  | nan
  deriving DecidableEq

/-- Built-in functions on texts and values; `δ` are the floats. -/
structure Python (δ : Type) where
  upper : String → String
  lower : String → String
  /-- `str` of a value that is not a text, a number or a truth value. -/
  repr : PyValue → String
  /-- `str` of an exception. -/
  errorText : PyError → String
  /-- The integer that `int(text)` reads. -/
  parseInt : String → Option ℤ
  /-- The float that `float(text)` reads. -/
  parseFloat : String → Option δ
  /-- The float of a number, which raises when the number is too large. -/
  ofRat : ℚ → Except PyError δ
  /-- The decimal that `Decimal(text)` reads. -/
  decimal : String → Option PyDecimal

/-- `upper` on texts of ASCII characters. -/
def Python.UppersAscii {δ : Type} (python : Python δ) : Prop :=
  ∀ s : String, (∀ c ∈ s.toList, c.toNat < 128) →
    python.upper s = String.ofList (s.toList.map Char.toUpper)

/-- The characters that `strip` and `isspace` take for whitespace. -/
def isPySpace (c : Char) : Bool :=
  let n := c.toNat
  decide (9 ≤ n ∧ n ≤ 13) || decide (28 ≤ n ∧ n ≤ 32) || n == 0x85 || n == 0xa0 || n == 0x1680
    || decide (0x2000 ≤ n ∧ n ≤ 0x200a) || n == 0x2028 || n == 0x2029 || n == 0x202f
    || n == 0x205f || n == 0x3000

/-- `text.strip()`. -/
def pyStrip (s : String) : String :=
  String.ofList (((s.toList.dropWhile isPySpace).reverse.dropWhile isPySpace).reverse)

namespace Python

variable {δ : Type}

/-- `str(x)`. -/
def str (python : Python δ) : PyValue → String
  | .none => "None"
  | .bool b => if b then "True" else "False"
  | .int n => toString n
  | .str s => s
  | v => python.repr v

/-- `int(x)`. -/
def int (python : Python δ) : PyValue → Except PyError ℤ
  | .bool b => .ok (if b then 1 else 0)
  | .int n => .ok n
  -- towards zero
  | .float x => .ok (if 0 ≤ x then ⌊x⌋ else ⌈x⌉)
  | .str s =>
    match python.parseInt s with
    | some n => .ok n
    | none => .error (.valueError "invalid literal for int() with base 10")
  | _ => .error (.typeError "int() argument must be a string, a bytes-like object or a real number")

/-- `float(x)`. -/
def float (python : Python δ) : PyValue → Except PyError δ
  -- `True` and `False` are 1 and 0
  | .bool b => python.ofRat (if b then 1 else 0)
  | .int n => python.ofRat n
  | .float x => python.ofRat x
  | .str s =>
    match python.parseFloat s with
    | some x => .ok x
    | none => .error (.valueError "could not convert string to float")
  | _ => .error (.typeError "float() argument must be a string or a real number")

/-- `list(x)`. -/
def list : PyValue → Except PyError (List PyValue)
  | .list items => .ok items
  -- a text is iterated by character and a dictionary by key
  | .str s => .ok (s.toList.map fun c => .str (String.singleton c))
  | .dict items => .ok (items.map fun item => .str item.1)
  | _ => .error (.typeError "object is not iterable")

end Python

end DqScoring
