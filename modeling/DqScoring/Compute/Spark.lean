import DqScoring.Common.PyValue
import DqScoring.Common.Uuid
import DqScoring.Framework.Kleene
import Mathlib.Logic.Function.Basic
import Mathlib.Tactic.Simps.Basic

/-!
# Spark columns

The part of Spark that the compiled rules use, over a dataset whose cells are strings or
NULL. A `Column` is an expression: what it evaluates to on a row, and how it can fail
when a query that contains it runs. A query fails as a whole, either when it starts
(`start`: it cannot be analysed, or a literal in it is not valid) or while it evaluates
a row (`fault`). AND and OR do not evaluate their right side when the left side decides.

`Spark` holds what the engine computes by itself: regular expressions, timestamps,
casts, and the comparison of a string with literals of other types. Values of type
DOUBLE are elements of a linear order `δ`, which is how Spark compares them.
-/

namespace DqScoring

open Framework.Kleene

/-! ### Rows -/

/-- A row: the cells of the dataset, and the row numbers added for uniqueness rules. -/
structure Row where
  cell : String → Option String
  rowNumber : Uuid → ℕ := fun _ => 0

/-- A dataset of string cells. -/
structure Dataset where
  columns : List String
  rows : List Row

/-- Why a query fails. -/
inductive SparkFault where
  | regexInvalid
  | datetimePatternInvalid
  | literalIncomparable
  | castInvalid
  | udfRaised
  deriving DecidableEq, Repr

/-! ### The engine -/

/-- The pattern of the text check for control characters. -/
def controlCharacterPattern : String := "[\\x00-\\x08\\x0b\\x0c\\x0e-\\x1f\\x7f-\\x9f]"

/-- The pattern of the text check for wrongly decoded text. -/
def mojibakePattern : String := "Ã|Â|â€|ðŸ"

/-- A list of strings and NULLs. -/
def IsTextList (values : List PyValue) : Prop :=
  ∀ v ∈ values, v.isNone = true ∨ ∃ s, v = .str s

/-- What the engine computes by itself. -/
structure Spark (δ : Type) where
  /-- The text is a regular expression. -/
  validRegex : String → Bool
  /-- The pattern matches somewhere in the text. -/
  rlike : String → String → Bool
  /-- The text is a datetime pattern. -/
  validDatetimePattern : String → Bool
  /-- The timestamp that a text denotes under a pattern, in microseconds. -/
  tryToTimestamp : String → String → Option ℤ
  year : ℤ → ℤ
  tryCastDouble : String → Option δ
  tryCastBigint : String → Option ℤ
  /-- The value can be written as a literal. -/
  hasLiteral : PyValue → Bool
  /-- A string column can be compared with these literals. -/
  comparable : List PyValue → Bool
  /-- The text can be cast to the type it has in this comparison. -/
  castable : List PyValue → String → Bool
  /-- The text equals one of the literals in this comparison. -/
  equalsLiteral : List PyValue → String → PyValue → Bool
  /-- Strings are compared as they are. -/
  text_comparison : ∀ values, IsTextList values → comparable values = true ∧
    ∀ s, castable values s = true ∧ ∀ t, equalsLiteral values s (.str t) = decide (s = t)
  validRegex_controlCharacter : validRegex controlCharacterPattern = true
  validRegex_mojibake : validRegex mojibakePattern = true

/-- `F.trim`: leading and trailing spaces are removed, and no other whitespace. -/
def sparkTrim (s : String) : String :=
  String.ofList (((s.toList.dropWhile (· = ' ')).reverse.dropWhile (· = ' ')).reverse)

/-! ### Expressions -/

/-- A column expression. -/
structure Column (β : Type) where
  start : Option SparkFault := none
  fault : Row → Option SparkFault := fun _ => none
  value : Row → Option β

namespace Column

variable {β γ : Type}

/-- `F.lit`. -/
@[simps] def lit (b : β) : Column β where
  value := fun _ => some b

/-- `F.col`. -/
@[simps] def cell (name : String) : Column String where
  value := fun row => row.cell name

/-- A function of the values that are not NULL. -/
@[simps] def bind (c : Column β) (f : β → Option γ) : Column γ where
  start := c.start
  fault := c.fault
  value := fun row => (c.value row).bind f

/-- A function that never gives NULL. -/
@[simps] def map (c : Column β) (f : β → γ) : Column γ where
  start := c.start
  fault := c.fault
  value := fun row => (c.value row).map f

/-- A comparison: NULL when one of the sides is. -/
@[simps] def compare (f : β → γ → Bool) (a : Column β) (b : Column γ) : Column Bool where
  start := a.start.or b.start
  fault := fun row => (a.fault row).or (b.fault row)
  value := fun row => (a.value row).bind fun x => (b.value row).map (f x)

/-- `c.isNull()`. -/
@[simps] def isNull (c : Column β) : Column Bool where
  start := c.start
  fault := c.fault
  value := fun row => some (c.value row).isNone

/-- `~c`. -/
@[simps] def not (c : Column Bool) : Column Bool where
  start := c.start
  fault := c.fault
  value := fun row => not3 (c.value row)

/-- `a & b`. -/
@[simps] def and (a b : Column Bool) : Column Bool where
  -- the whole expression is analysed, also a side that no row evaluates
  start := a.start.or b.start
  fault := fun row =>
    (a.fault row).or (if a.value row = some false then none else b.fault row)
  value := fun row => and3 (a.value row) (b.value row)

/-- `a | b`. -/
@[simps] def or (a b : Column Bool) : Column Bool where
  start := a.start.or b.start
  fault := fun row =>
    (a.fault row).or (if a.value row = some true then none else b.fault row)
  value := fun row => or3 (a.value row) (b.value row)

/-- A Python function of a column. -/
@[simps] def udf {ε : Type} (f : Option String → Except ε β) (c : Column String) : Column β where
  start := c.start
  fault := fun row =>
    (c.fault row).or (match f (c.value row) with
      | .ok _ => none
      | .error _ => some .udfRaised)
  value := fun row => (f (c.value row)).toOption

variable {δ : Type}

/-- `c.rlike(pattern)`. -/
@[simps] def rlike (spark : Spark δ) (pattern : String) (c : Column String) : Column Bool :=
  { c.map (spark.rlike pattern) with
    start := c.start.or (if spark.validRegex pattern then none else some .regexInvalid) }

/-- `F.try_to_timestamp(c, F.lit(format))`. -/
@[simps] def tryToTimestamp (spark : Spark δ) (format : String) (c : Column String) : Column ℤ :=
  { c.bind (spark.tryToTimestamp format) with
    start := c.start.or
      (if spark.validDatetimePattern format then none else some .datetimePatternInvalid) }

/-- The value of `s IN values` for a string that is not NULL: NULL when it equals none of
the values and NULL is among them. -/
def isinValue (spark : Spark δ) (values : List PyValue) (s : String) : Option Bool :=
  values.foldr (fun v rest =>
    or3 (if v.isNone then none else some (spark.equalsLiteral values s v)) rest) (some false)

/-- `c.isin(values)`. -/
@[simps] def isin (spark : Spark δ) (values : List PyValue) (c : Column String) : Column Bool where
  start := c.start.or (if spark.comparable values then none else some .literalIncomparable)
  -- a cell is cast to the common type of the comparison, which can fail
  fault := fun row =>
    (c.fault row).or (match c.value row with
      | some s => if spark.castable values s then none else some .castInvalid
      | none => none)
  value := fun row => (c.value row).bind (isinValue spark values)

end Column

/-! ### Queries -/

/-- How a query over the rows fails because of a column in it. -/
def Column.raises {β : Type} (c : Column β) (rows : List Row) : Option SparkFault :=
  c.start.or (rows.findSome? c.fault)

/-- `F.sum(F.when(c, 1).otherwise(0))`: a row where the condition is NULL counts as 0. -/
def Column.count (c : Column Bool) (rows : List Row) : ℕ :=
  rows.countP fun row => c.value row = some true

/-- The numbers of rows within the rows of the same cell. -/
def rowNumbers (seen : List (Option String)) : List (Option String) → List ℕ
  | [] => []
  | c :: cs => (seen.count c + 1) :: rowNumbers (c :: seen) cs

/-- Add `row_number()` over the rows of the same cell. -/
def withRowNumber (ruleId : Uuid) (column : String) (rows : List Row) : List Row :=
  rows.zipWith (fun row n => { row with rowNumber := Function.update row.rowNumber ruleId n })
    (rowNumbers [] (rows.map (·.cell column)))

end DqScoring
