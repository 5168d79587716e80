import DqScoring.Common.PyValue
import Mathlib.Data.List.Basic

/-!
# The profile of a sample

`_build_profile` of `adapters/source/tabular_import.py`: for each column of the sampled
rows, how many values it has, and the type that at least 95 % of them can be read as. The
values are read with Python's own functions: `int` behind a pattern, `Decimal` and
`strptime` with one of five formats. The least and greatest value are left out.

A share `k / n ≥ 0.95` is compared exactly; a sample has at most 1000 rows.
-/

namespace DqScoring

variable {δ : Type}

/-- The types that a profile gives. -/
inductive TypeHint where
  | string | integer | double | timestamp | date | boolean | json
  deriving DecidableEq, Repr

/-- The name of a type in the profile. -/
def TypeHint.text : TypeHint → String
  | string => "STRING"
  | integer => "INTEGER"
  | double => "DOUBLE"
  | timestamp => "TIMESTAMP"
  | date => "DATE"
  | boolean => "BOOLEAN"
  | json => "JSON"

/-- What Python's libraries read, besides the functions of `Python`. -/
structure SampleReader where
  casefold : String → String
  /-- The characters of `\d`. -/
  isDecimal : Char → Bool
  /-- The time that `datetime.strptime(text, format)` reads. -/
  strptime : String → String → Option ℤ

/-- `IDENTIFIER_TOKENS`. -/
def identifierTokens : List String :=
  ["id", "account", "iban", "routing", "code", "ssn", "card", "pan"]

/-- `TIMESTAMP_FORMAT_MAPPINGS`: the format of Python and the format of Spark. -/
def timestampFormatMappings : List (String × String) := [
  ("%Y/%m/%d %H:%M", "yyyy/MM/dd HH:mm"),
  ("%Y-%m-%d %H:%M:%S", "yyyy-MM-dd HH:mm:ss"),
  ("%Y-%m-%dT%H:%M:%S", "yyyy-MM-dd'T'HH:mm:ss"),
  ("%Y-%m-%dT%H:%M:%SZ", "yyyy-MM-dd'T'HH:mm:ss'Z'"),
  ("%Y-%m-%dT%H:%M:%S.%fZ", "yyyy-MM-dd'T'HH:mm:ss.SSSSSS'Z'")]

/-! ### The readings of a value -/

/-- `re.match` of a pattern between `^` and `$`, which also matches before a last newline. -/
def matchesToEnd (body : List Char → Bool) (text : String) : Bool :=
  let chars := text.toList
  body chars || (chars.getLast? == some '\n' && body chars.dropLast)

/-- The pattern `[1-9]\d*`. -/
def isPositiveNumeral (isDecimal : Char → Bool) : List Char → Bool
  | c :: cs => decide ('1' ≤ c ∧ c ≤ '9') && cs.all isDecimal
  | [] => false

/-- `INTEGER_REGEX`. -/
def matchesInteger (reader : SampleReader) : String → Bool :=
  matchesToEnd fun
    | ['0'] => true
    | '-' :: cs => isPositiveNumeral reader.isDecimal cs
    | cs => isPositiveNumeral reader.isDecimal cs

/-- `DATE_REGEX`. -/
def matchesDate (reader : SampleReader) : String → Bool :=
  matchesToEnd fun
    | [a, b, c, d, '-', e, f, '-', g, h] => [a, b, c, d, e, f, g, h].all reader.isDecimal
    | _ => false

/-- The value counts as an integer. -/
def readsInteger (python : Python δ) (reader : SampleReader) (v : String) : Bool :=
  matchesInteger reader v && (python.parseInt v).isSome

/-- The value counts as a number. -/
def readsDouble (python : Python δ) (v : String) : Bool :=
  match python.decimal v with
  | some (.finite _) => true
  | _ => false

/-- The value counts as a timestamp of a format. -/
def readsTimestamp (reader : SampleReader) (format v : String) : Bool :=
  (reader.strptime v format).isSome

/-- The value counts as a date. -/
def readsDate (reader : SampleReader) (v : String) : Bool :=
  matchesDate reader v && (reader.strptime v "%Y-%m-%d").isSome

/-! ### The type of a column -/

/-- The name is that of an identifier, which is not read as a number. -/
def isIdentifier (python : Python δ) (name : String) : Bool :=
  let lowerName := (python.lower name).toList.map fun c => if c = '-' then '_' else c
  let tokens := (lowerName.splitOn '_').map String.ofList
  tokens.any identifierTokens.contains || decide (['i', 'd'] <:+ lowerName)

/-- `k / n >= 0.95`. -/
def isEnough (k n : ℕ) : Bool := decide (19 * n ≤ 20 * k)

/-- The first format with the most values, by the name it has in Spark, and their number. -/
def bestTimestampFormat (reader : SampleReader) (values : List String) : Option String × ℕ :=
  timestampFormatMappings.foldl
    (fun best format =>
      let count := values.countP (readsTimestamp reader format.1)
      if best.2 < count then (some format.2, count) else best)
    (none, 0)

/-- What is inferred of a column. -/
structure InferredType where
  typeHint : TypeHint
  parseSuccessCount : ℕ
  timestampFormat : Option String := none
  deriving DecidableEq

/-- `_infer_profile_stats`. -/
def inferProfileStats (python : Python δ) (reader : SampleReader) (name : String)
    (values : List String) : InferredType :=
  let total := values.length
  let integers := values.countP (readsInteger python reader)
  let doubles := values.countP (readsDouble python)
  let timestamps := bestTimestampFormat reader values
  let dates := values.countP (readsDate reader)
  let booleans := values.countP fun v => ["true", "false"].contains (python.lower v)
  -- the candidates are tried in this order
  if values.isEmpty then { typeHint := .string, parseSuccessCount := 0 }
  -- identifiers are not read as numbers
  else if !isIdentifier python name && isEnough integers total then
    { typeHint := .integer, parseSuccessCount := integers }
  else if !isIdentifier python name && isEnough doubles total then
    { typeHint := .double, parseSuccessCount := doubles }
  else if timestamps.1.isSome && isEnough timestamps.2 total then
    { typeHint := .timestamp, parseSuccessCount := timestamps.2, timestampFormat := timestamps.1 }
  else if isEnough dates total then { typeHint := .date, parseSuccessCount := dates }
  else if isEnough booleans total then { typeHint := .boolean, parseSuccessCount := booleans }
  else { typeHint := .string, parseSuccessCount := total }

/-- The statistics of a column in the profile. -/
structure ColumnProfile where
  name : String
  typeHint : TypeHint
  nullCount : ℕ
  nonNullCount : ℕ
  distinctCount : ℕ
  parseSuccessCount : ℕ
  sampleRows : ℕ
  timestampFormat : Option String
  deriving DecidableEq

/-- The statistics of a column from its cells. -/
def profileColumn (python : Python δ) (reader : SampleReader) (containers : List String)
    (name : String) (cells : List (Option String)) : ColumnProfile :=
  -- the type is read off the cells that are there
  let values := cells.filterMap id
  let inferred :=
    -- a container column is JSON, whatever its texts look like
    if containers.contains name then
      { typeHint := .json, parseSuccessCount := values.length }
    else inferProfileStats python reader name values
  { name
    typeHint := inferred.typeHint
    nullCount := cells.countP (·.isNone)
    nonNullCount := cells.length - cells.countP (·.isNone)
    -- distinct values are counted in the first 1000 only
    distinctCount := (values.take 1000).dedup.length
    parseSuccessCount := inferred.parseSuccessCount
    sampleRows := cells.length
    timestampFormat := inferred.timestampFormat }

/-- The profile of a sample. -/
structure SampleProfile where
  sampleRows : ℕ
  isSample : Bool := true
  totalRows : ℕ
  columns : List ColumnProfile

/-- The cells of the column at an index. -/
def columnCells (sampleRows : List (List (Option String))) (index : ℕ) : List (Option String) :=
  sampleRows.map fun row => row[index]?.join

/-- `_build_profile`. -/
def buildProfile (python : Python δ) (reader : SampleReader) (columnNames : List String)
    (sampleRows : List (List (Option String))) (totalRows : ℕ) (containers : List String) :
    SampleProfile where
  sampleRows := sampleRows.length
  totalRows
  columns := columnNames.zipIdx.map fun column =>
    profileColumn python reader containers column.1 (columnCells sampleRows column.2)

/-! ### What a type says of the values -/

/-- The format of Python that a format of Spark stands for. -/
def pythonFormat (format : String) : Option String :=
  (timestampFormatMappings.find? fun entry => entry.2 = format).map (·.1)

theorem pythonFormat_mapped : ∀ entry ∈ timestampFormatMappings,
    pythonFormat entry.2 = some entry.1 := by
  decide

/-- The value was counted for the type and the format that a profile gives. -/
def TypeHint.accepts (python : Python δ) (reader : SampleReader) (format : Option String)
    (hint : TypeHint) (v : String) : Bool :=
  match hint with
  | integer => readsInteger python reader v
  | double => readsDouble python v
  | timestamp => (format.bind pythonFormat).any fun f => readsTimestamp reader f v
  | date => readsDate reader v
  | _ => false

/-- The types that a rule can ask for. -/
def TypeHint.isParsed : TypeHint → Bool
  | integer | double | timestamp | date => true
  | _ => false

/-- The best format, if there is one, with the number of its values. -/
theorem bestTimestampFormat_counts (reader : SampleReader) (values : List String) :
    (bestTimestampFormat reader values).1 = none ∨ ∃ entry ∈ timestampFormatMappings,
      bestTimestampFormat reader values =
        (some entry.2, values.countP (readsTimestamp reader entry.1)) := by
  refine List.foldlRecOn timestampFormatMappings _ (motive := fun best =>
    best.1 = none ∨ ∃ entry ∈ timestampFormatMappings,
      best = (some entry.2, values.countP (readsTimestamp reader entry.1))) ?_ ?_
  · exact Or.inl rfl
  intro best h_best entry h_entry
  simp only
  split
  · exact Or.inr ⟨entry, h_entry, rfl⟩
  · exact h_best

/-- A count of timestamps is that of the values the format's type accepts. -/
theorem timestamps_accepted (python : Python δ) (reader : SampleReader) (values : List String)
    (h : (bestTimestampFormat reader values).1.isSome = true) :
    (bestTimestampFormat reader values).2 = values.countP
      (TypeHint.timestamp.accepts python reader (bestTimestampFormat reader values).1) := by
  rcases bestTimestampFormat_counts reader values with h_none | ⟨entry, h_entry, h_best⟩
  · rw [h_none] at h
    cases h
  · have h_format : (some entry.2).bind pythonFormat = some entry.1 :=
      pythonFormat_mapped entry h_entry
    rw [h_best]
    refine List.countP_congr fun v _ => ?_
    simp only [TypeHint.accepts, h_format, Option.any_some]

/-- **What a profile counts**: a type that a rule can ask for comes with the number of values
it accepts, which are enough of all. -/
theorem inferProfileStats_counts (python : Python δ) (reader : SampleReader) (name : String)
    (values : List String) {inferred : InferredType}
    (h : inferProfileStats python reader name values = inferred)
    (h_parsed : inferred.typeHint.isParsed = true) :
    inferred.parseSuccessCount =
        values.countP (inferred.typeHint.accepts python reader inferred.timestampFormat) ∧
      isEnough inferred.parseSuccessCount values.length = true := by
  simp only [inferProfileStats] at h
  split at h
  case isTrue => subst h; cases h_parsed
  case isFalse =>
  split at h
  case isTrue h_enough =>
    subst h
    exact ⟨rfl, (Bool.and_eq_true_iff.mp h_enough).2⟩
  case isFalse =>
  split at h
  case isTrue h_enough =>
    subst h
    exact ⟨rfl, (Bool.and_eq_true_iff.mp h_enough).2⟩
  case isFalse =>
  split at h
  case isTrue h_enough =>
    subst h
    obtain ⟨h_some, h_enough⟩ := Bool.and_eq_true_iff.mp h_enough
    exact ⟨timestamps_accepted python reader values h_some, h_enough⟩
  case isFalse =>
  split at h
  case isTrue h_enough =>
    subst h
    exact ⟨rfl, h_enough⟩
  case isFalse =>
  -- the types without a rule
  split at h
  · subst h; cases h_parsed
  · subst h; cases h_parsed

end DqScoring
