import DqScoring.Common.PyValue

/-!
# Validated models

How Pydantic reads the fields of a model from a dictionary. The first error is reported;
the source reports all of them.
-/

namespace DqScoring

/-- The error of a field. -/
def fieldError {β : Type} (field message : String) : Except PyError β :=
  .error (.valueError (field ++ ": " ++ message))

/-- A model that forbids extra fields. -/
def forbidExtra (fields : List String) (d : PyDict) : Except PyError Unit :=
  match d.find? fun entry => !fields.contains entry.1 with
  | some entry => fieldError entry.1 "Extra inputs are not permitted"
  | none => .ok ()

/-- Pydantic's reading of a value as `str`. -/
def validateStr (field : String) : PyValue → Except PyError String
  | .str s => .ok s
  | _ => fieldError field "Input should be a valid string"

/-- Pydantic's reading of a value as `str | None`. -/
def validateOptionalStr (field : String) : PyValue → Except PyError (Option String)
  | .none => .ok none
  | .str s => .ok (some s)
  | _ => fieldError field "Input should be a valid string"

/-- A field without default. -/
def required {β : Type} (d : PyDict) (field : String)
    (validate : String → PyValue → Except PyError β) : Except PyError β :=
  match d.lookup field with
  | some v => validate field v
  | none => fieldError field "Field required"

/-- A field with default `None`. -/
def optional {β : Type} (d : PyDict) (field : String)
    (validate : String → PyValue → Except PyError β) : Except PyError (Option β) :=
  match d.get field with
  | .none => .ok none
  | v => some <$> validate field v

theorem validateStr_ok {field : String} {v : PyValue} {s : String}
    (h : validateStr field v = .ok s) : v = .str s := by
  cases v <;> cases h
  rfl

theorem required_ok {β : Type} {d : PyDict} {field : String}
    {validate : String → PyValue → Except PyError β} {b : β}
    (h : required d field validate = .ok b) : validate field (d.get field) = .ok b := by
  unfold required at h
  cases h_lookup : d.lookup field with
  | none =>
    rw [h_lookup] at h
    cases h
  | some v =>
    rw [h_lookup] at h
    rwa [PyDict.get, h_lookup]

theorem optional_ok {β : Type} {d : PyDict} {field : String}
    {validate : String → PyValue → Except PyError β} {b : β}
    (h : optional d field validate = .ok (some b)) : validate field (d.get field) = .ok b := by
  unfold optional at h
  split at h
  -- `None` is read as no value, and a value has been read
  case h_1 => cases h
  case h_2 =>
    cases h_b : validate field (d.get field) with
    | error e =>
      rw [h_b] at h
      cases h
    | ok b' =>
      rw [h_b] at h
      cases h
      rfl

/-- A string of at least one character. -/
def validateNonempty (field : String) (v : PyValue) : Except PyError { s : String // s ≠ "" } := do
  let s ← validateStr field v
  if h : s = "" then fieldError field "String should have at least 1 character"
  else return ⟨s, h⟩

/-- One of some texts. -/
def validateLiteral {β : Type} (options : List (String × β)) (field : String) :
    PyValue → Except PyError β
  | .str s =>
    match options.lookup s with
    | some b => .ok b
    | none => fieldError field "Input should be one of the listed values"
  | _ => fieldError field "Input should be one of the listed values"

theorem validateLiteral_ok {β : Type} {options : List (String × β)} {field : String}
    {v : PyValue} {b : β} (h : validateLiteral options field v = .ok b) :
    ∃ s, v = .str s ∧ (s, b) ∈ options := by
  unfold validateLiteral at h
  split at h
  case h_1 s =>
    split at h
    case h_1 b' h_lookup =>
      cases h
      obtain ⟨before, after, h_options, _⟩ := List.lookup_eq_some_iff.mp h_lookup
      exact ⟨s, rfl, by simp [h_options]⟩
    case h_2 => cases h
  case h_2 => cases h

/-- A number of items: a strict integer of at least 0. -/
def validateCount (field : String) : PyValue → Except PyError ℕ
  -- strict, so neither a truth value nor a float nor a text is read as an integer
  | .int n =>
    if 0 ≤ n then .ok n.toNat else fieldError field "Input should be greater than or equal to 0"
  | _ => fieldError field "Input should be a valid integer"

/-- The texts that are read as a truth value. -/
def boolTexts : List (String × Bool) := [
  ("true", true), ("t", true), ("yes", true), ("y", true), ("on", true), ("1", true),
  ("false", false), ("f", false), ("no", false), ("n", false), ("off", false), ("0", false)]

/-- A truth value, or a number or text that is read as one. -/
def validateBool {δ : Type} (python : Python δ) (field : String) : PyValue → Except PyError Bool
  | .bool b => .ok b
  | .int n =>
    -- in lax mode, 0 and 1 count as well
    if n = 1 then .ok true else if n = 0 then .ok false
    else fieldError field "Input should be a valid boolean"
  | .float x =>
    if x = 1 then .ok true else if x = 0 then .ok false
    else fieldError field "Input should be a valid boolean"
  | .str s =>
    -- and the usual words, in any case
    match boolTexts.lookup (python.lower s) with
    | some b => .ok b
    | none => fieldError field "Input should be a valid boolean"
  | _ => fieldError field "Input should be a valid boolean"

/-- A list. -/
def validateList {β : Type} (validate : String → PyValue → Except PyError β) (field : String) :
    PyValue → Except PyError (List β)
  | .list items => items.mapM (validate field)
  | _ => fieldError field "Input should be a valid list"

/-- A dictionary. -/
def validateDict {β : Type} (validate : String → PyValue → Except PyError β) (field : String) :
    PyValue → Except PyError (List (String × β))
  | .dict items => items.mapM fun item => (Prod.mk item.1) <$> validate field item.2
  | _ => fieldError field "Input should be a valid dictionary"

/-- The bounds are in order, where both are given. -/
def inOrder {β : Type} [LE β] [DecidableLE β] (lo hi : Option β) : Bool :=
  lo.all fun l => hi.all fun h => decide (l ≤ h)

end DqScoring
