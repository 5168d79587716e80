import DqScoring.Compute.Guards
import DqScoring.Framework.Traverse

/-!
# What a compiled rule does to the query

`StartFault`, `CellFault` and `LosesCell` say of a rule, from its parameters, when the
query that contains it cannot start, when it raises on a cell, and when a row with the
cell is counted nowhere. `compileRule_behaves` is the theorem that they are right. Only a
rule with allowed values can lose a row: when NULL is among the values, and the cell is
none of them.
-/

namespace DqScoring

open Framework Framework.Kleene

variable {α δ : Type}

/-! ### Missing cells and parsed cells -/

/-- A cell that is NULL or blank. -/
def isMissingCell : Option String → Bool
  | none => true
  | some s => decide (sparkTrim s = "")

@[simp] theorem isMissing_start (name : String) : (isMissing name).start = none := rfl

/-- The test for a missing cell raises on no row. -/
@[simp] theorem isMissing_fault (name : String) (row : Row) :
    (isMissing name).fault row = none := by
  simp [isMissing]

/-- The test for a missing cell has a value in every row, the cell's own. -/
@[simp] theorem isMissing_value (name : String) (row : Row) :
    (isMissing name).value row = some (isMissingCell (row.cell name)) := by
  cases h : row.cell name with
  | none => simp [isMissing, isMissingCell, h, or3]
  | some s => simp [isMissing, isMissingCell, h]

/-- A cell is present when it holds a text that Spark's trim does not empty. -/
theorem isMissingCell_eq_false {cell : Option String} :
    isMissingCell cell = false ↔ ∃ s, cell = some s ∧ sparkTrim s ≠ "" := by
  cases cell with
  | none => simp [isMissingCell]
  | some s => simp [isMissingCell]

/-- A temporal type with a format that is not a datetime pattern. -/
def IsBadFormat (spark : Spark δ) (dataType format : String) : Prop :=
  dataType ∈ temporalTypes ∧ spark.validDatetimePattern (temporalFormat dataType format) = false

/-- A parse starts unless Spark refuses its timestamp format. -/
theorem parseColumn_start (spark : Spark δ) (name dataType format : String) :
    (parseColumn spark name dataType format).start = none ↔
      ¬ IsBadFormat spark dataType format := by
  unfold parseColumn IsBadFormat
  by_cases h_temporal : dataType ∈ temporalTypes
  · simp [h_temporal]
  · by_cases h_floating : dataType ∈ floatingTypes <;> simp [h_temporal, h_floating]

/-- The `try_` parses of Spark raise on no row. -/
@[simp] theorem parseColumn_fault (spark : Spark δ) (name dataType format : String) (row : Row) :
    (parseColumn spark name dataType format).fault row = none := by
  unfold parseColumn
  by_cases h_temporal : dataType ∈ temporalTypes
  · simp [h_temporal]
  · by_cases h_floating : dataType ∈ floatingTypes <;> simp [h_temporal, h_floating]

/-- A conjunction is not NULL when its left side is not, and its right side is not where
the left side is true. -/
theorem isSome_and3 {a b : Option Bool} (h_a : a.isSome = true)
    (h_b : a = some true → b.isSome = true) : (and3 a b).isSome = true := by
  match a with
  | some false => simp
  | some true => simpa using h_b rfl

/-! ### DOMAIN_RANGE -/

namespace DomainCheck

/-- The query cannot start. -/
def CannotStart (spark : Spark δ) : DomainCheck δ → Prop
  | allowedValues values => spark.comparable values = false
  | pattern p => spark.validRegex p = false
  | year _ format => spark.validDatetimePattern format = false
  | bounds _ _ => False

/-- The query raises on a cell: the cell cannot be compared with the values. -/
def RaisesOn (spark : Spark δ) (cell : Option String) : DomainCheck δ → Prop
  | allowedValues values =>
    ∃ s, cell = some s ∧ sparkTrim s ≠ "" ∧ spark.castable values s = false
  | _ => False

/-- No condition counts a row with the cell: NULL is among the values, and the cell equals
none of the others. -/
def Loses (spark : Spark δ) (cell : Option String) : DomainCheck δ → Prop
  | allowedValues values =>
    (∃ v ∈ values, v.isNone = true) ∧ ∃ s, cell = some s ∧ sparkTrim s ≠ "" ∧
      ∀ v ∈ values, v.isNone = true ∨ spark.equalsLiteral values s v = false
  | _ => False

end DomainCheck

/-- When `IN` is NULL for a string. -/
theorem isinValue_eq_none (spark : Spark δ) (values : List PyValue) (s : String) :
    Column.isinValue spark values s = none ↔
      (∃ v ∈ values, v.isNone = true) ∧
        ∀ v ∈ values, v.isNone = true ∨ spark.equalsLiteral values s v = false := by
  unfold Column.isinValue
  -- the comparison is with all values, the disjunction over the remaining ones
  generalize h_equals : spark.equalsLiteral values s = equals
  clear h_equals
  have h_or : ∀ b : Bool, ∀ x : Option Bool,
      or3 (some b) x = none ↔ b = false ∧ x = none := by decide
  have h_none : ∀ x : Option Bool, or3 none x = none ↔ x ≠ some true := by decide
  have h_true : ∀ rest : List PyValue,
      rest.foldr (fun v acc => or3 (if v.isNone then none else some (equals v)) acc) (some false) ≠
        some true ↔ ∀ v ∈ rest, v.isNone = true ∨ equals v = false := by
    have h_or_true : ∀ x y : Option Bool, or3 x y ≠ some true ↔ x ≠ some true ∧ y ≠ some true := by
      decide
    intro rest
    induction rest with
    | nil => simp
    | cons v rest ih =>
      rw [List.foldr_cons, h_or_true, ih, List.forall_mem_cons]
      refine and_congr_left fun _ => ?_
      cases v.isNone <;> simp
  induction values with
  | nil => simp
  | cons v values ih =>
    rw [List.foldr_cons, List.exists_mem_cons_iff, List.forall_mem_cons]
    cases h : v.isNone with
    | true => simp [h_none, h_true]
    | false => simp [h_or, ih]; tauto

/-- Guards that are those of a rule over plain columns, and never fail on a row. -/
theorem behaves_of_conditions {target : String} {start : Prop} {miscast failed : Column Bool}
    (h_start : (miscast.start = none ∧ failed.start = none) ↔ ¬ start)
    (h_quiet : ∀ row, miscast.fault row = none ∧ failed.fault row = none)
    (h_total : ∀ row, (miscast.value row).isSome = true ∧ (failed.value row).isSome = true) :
    Behaves [.lit false, isMissing target, miscast, failed] target start
      (fun _ => False) (fun _ => False) := by
  refine .of_total ?_ ?_ ?_
  · simpa using h_start
  · simpa using ⟨fun row => (h_quiet row).1, fun row => (h_quiet row).2⟩
  · simpa using ⟨fun row => (h_total row).1, fun row => (h_total row).2⟩

/-- A parsed timestamp stands on the side of the instants. -/
theorem timestamp_value {spark : Spark δ} {target format : String} {row : Row} {x : δ ⊕ₗ ℤ}
    (h : (parseColumn spark target "TIMESTAMP" format).value row = some x) :
    (ofLex x).getRight?.isSome = true := by
  have h_temporal : "TIMESTAMP" ∈ temporalTypes := by decide
  rw [parseColumn, if_pos h_temporal] at h
  simp only [Column.map_value, Option.map_eq_some_iff] at h
  obtain ⟨t, _, rfl⟩ := h
  rfl

section Bounds

variable [LinearOrder δ]

/-- The bounds start with the parse they look at, and without bounds nothing is evaluated.
-/
@[simp] theorem outOfBounds_start (min max : Option δ) (parsed : Column (δ ⊕ₗ ℤ)) :
    (outOfBounds min max parsed).start =
      if min.isSome || max.isSome then parsed.start else none := by
  cases min <;> cases max <;> simp [outOfBounds]

/-- Comparing with literals adds no fault. -/
theorem outOfBounds_fault {min max : Option δ} {parsed : Column (δ ⊕ₗ ℤ)} {row : Row}
    (h : parsed.fault row = none) : (outOfBounds min max parsed).fault row = none := by
  cases min <;> cases max <;> simp [outOfBounds, h]

/-- A parsed value is on one side of each bound. -/
theorem outOfBounds_value {min max : Option δ} {parsed : Column (δ ⊕ₗ ℤ)} {row : Row}
    (h : (parsed.value row).isSome = true) :
    ((outOfBounds min max parsed).value row).isSome = true := by
  obtain ⟨x, h_x⟩ := Option.isSome_iff_exists.mp h
  cases min <;> cases max <;> simp [outOfBounds, h_x]

/-- The conditions of a DOMAIN_RANGE rule. -/
theorem DomainCheck.behaves (rt : Runtime δ) (target : String) (check : DomainCheck δ) :
    Behaves [.lit false, isMissing target, (check.conditions rt target).1,
        (check.conditions rt target).2] target
      (check.CannotStart rt.spark) (fun cell => check.RaisesOn rt.spark cell)
      (fun cell => check.Loses rt.spark cell) := by
  cases check with
  | allowedValues values =>
    refine ⟨by simp [conditions, CannotStart], fun row => ?_, fun row _ => ?_⟩
    -- a missing cell is counted before the comparison is reached
    · cases h_cell : row.cell target with
      | none => simp [Column.cascadeFault, RaisesOn, isMissingCell, h_cell]
      | some s =>
        by_cases h_blank : sparkTrim s = "" <;>
          simp [Column.cascadeFault, conditions, RaisesOn, isMissingCell, h_cell, h_blank]
    · cases h_cell : row.cell target with
      | none => simp [conditions, Loses, isMissingCell, h_cell, decided]
      | some s =>
        by_cases h_blank : sparkTrim s = ""
        · simp [conditions, Loses, isMissingCell, h_cell, h_blank, decided]
        · -- the row is decided unless the comparison with the values is NULL
          have h_decided : ∀ x : Option Bool,
              decided [some false, some false, some false, not3 x] = true ↔ x ≠ none := by decide
          simp [conditions, Loses, isMissingCell, h_cell, h_blank, h_decided, isinValue_eq_none]
  | pattern p =>
    -- a pattern that Spark refuses stops the query when it is planned
    refine behaves_of_conditions ?_ (fun row => ?_) fun row => ⟨rfl, ?_⟩
    · simp [conditions, CannotStart]
    · simp [conditions]
    · refine isSome_and3 (by simp) fun h_filled => ?_
      -- the cell is not NULL, so neither is the match
      have h_cell := isMissingCell_eq_false.mp (by simpa using h_filled)
      obtain ⟨s, h_s, _⟩ := h_cell
      simp [h_s]
  | year y format =>
    -- a format that Spark refuses stops the query when it is planned
    have h_start : (parseColumn rt.spark target "TIMESTAMP" format).start = none ↔
        ¬ rt.spark.validDatetimePattern format = false := by
      have h_format : temporalFormat "TIMESTAMP" format = format := by simp [temporalFormat]
      rw [parseColumn_start, IsBadFormat, h_format, and_iff_right (by decide)]
    refine behaves_of_conditions ?_ (fun row => ?_) fun row => ⟨?_, ?_⟩
    · simp [conditions, CannotStart, h_start]
    · simp [conditions]
    · simp [conditions]
    · refine isSome_and3 (by simp) fun h_parsed => ?_
      -- the cell parses, so it has a year
      cases h_value : (parseColumn rt.spark target "TIMESTAMP" format).value row with
      | none => simp [h_value] at h_parsed
      | some x =>
        obtain ⟨t, h_t⟩ := Option.isSome_iff_exists.mp (timestamp_value h_value)
        simp [h_value, h_t]
  | bounds min max =>
    -- a parse of numbers has no format that could be refused
    have h_start : (parseColumn rt.spark target "DOUBLE" defaultTimestampFormat).start = none :=
      (parseColumn_start ..).mpr fun h => absurd h.1 (by decide)
    refine behaves_of_conditions ?_ (fun row => ?_) fun row => ⟨?_, ?_⟩
    · simp [conditions, CannotStart, h_start]
    · simp [conditions, outOfBounds_fault]
    · simp [conditions]
    · refine isSome_and3 (by simp) fun h_parsed => outOfBounds_value ?_
      cases h_value :
          (parseColumn rt.spark target "DOUBLE" defaultTimestampFormat).value row with
      | none => simp [h_value] at h_parsed
      | some x => rfl

end Bounds

/-! ### Other rules over plain columns -/

/-- Only a text names a column. -/
theorem quotedCol_ok {v : PyValue} {name : String} (h : quotedCol v = .ok name) :
    v = .str name := by
  cases v <;> cases h
  rfl

/-- A rule without conditions besides `missing`. -/
theorem nonNull_behaves (target : String) :
    Behaves [.lit false, isMissing target, .lit false, .lit false] target False (fun _ => False)
      (fun _ => False) :=
  behaves_of_conditions (by simp) (fun row => by simp) fun row => by simp

/-- The condition `miscast` of a TYPE_PARSE rule. -/
theorem typeParse_behaves (spark : Spark δ) (target dataType format : String) :
    Behaves [.lit false, isMissing target,
        (isMissing target).not.and (parseColumn spark target dataType format).isNull,
        .lit false] target
      (IsBadFormat spark dataType format) (fun _ => False) (fun _ => False) :=
  behaves_of_conditions (by simp [parseColumn_start]) (fun row => by simp) fun row => by simp

/-- The conditions of a CROSS_FIELD rule. -/
theorem crossField_behaves [LinearOrder δ] (spark : Spark δ) (target other dataType format : String)
    (comparator : Comparator) :
    let missing := (isMissing target).or (isMissing other)
    let parsedA := parseColumn spark target dataType format
    let parsedB := parseColumn spark other dataType format
    let miscast := missing.not.and (parsedA.isNull.or parsedB.isNull)
    Behaves [.lit false, missing, miscast,
        (missing.not.and miscast.not).and (Column.compare comparator.apply parsedA parsedB).not]
      target (IsBadFormat spark dataType format) (fun _ => False) (fun _ => False) := by
  intro missing parsedA parsedB miscast
  refine .of_total ?_ ?_ ?_
  · simp [missing, miscast, parsedA, parsedB, parseColumn_start]
  · simp [missing, miscast, parsedA, parsedB]
  · have h_failed : ∀ row, (((missing.not.and miscast.not).and
        (Column.compare comparator.apply parsedA parsedB).not).value row).isSome = true := by
      intro row
      refine isSome_and3 (by simp [missing, miscast]) fun h_parsed => ?_
      -- the row is not miscast, so both cells parse and the comparison is not NULL
      cases h_a : parsedA.value row with
      | none => simp [missing, miscast, h_a] at h_parsed; grind
      | some x =>
        cases h_b : parsedB.value row with
        | none => simp [missing, miscast, h_b] at h_parsed; grind
        | some y => simp [h_a, h_b]
    simpa [missing, miscast] using h_failed

/-- The condition `failed` of a uniqueness rule. -/
theorem uniqueness_behaves (target : String) (isRepeated : Column Bool)
    (h_repeated : ∀ row, isRepeated.start = none ∧ isRepeated.fault row = none ∧
      (isRepeated.value row).isSome = true) :
    Behaves [.lit false, isMissing target, .lit false, (isMissing target).not.and isRepeated]
      target False (fun _ => False) (fun _ => False) := by
  refine behaves_of_conditions ?_ (fun row => ?_) fun row => ⟨rfl, ?_⟩
  · simpa using (h_repeated ⟨fun _ => none, fun _ => 0⟩).1
  · simp [(h_repeated row).2.1]
  · exact isSome_and3 (by simp) fun _ => (h_repeated row).2.2

/-- A text check compiles to expressions that Spark always accepts. -/
theorem rejected_start (spark : Spark δ) (params : TextQualityParameters) (target : String) :
    (params.rejected spark (.cell target)).start = none := by
  unfold TextQualityParameters.rejected outOfLength
  cases params.check with
  | replacementCharacter => rfl
  | controlCharacter => simp [spark.validRegex_controlCharacter]
  | mojibake => simp [spark.validRegex_mojibake]
  | length => cases params.minLength <;> cases params.maxLength <;> simp

/-- A text check raises on no row. -/
theorem rejected_fault (spark : Spark δ) (params : TextQualityParameters) (target : String)
    (row : Row) : (params.rejected spark (.cell target)).fault row = none := by
  unfold TextQualityParameters.rejected outOfLength
  cases params.check with
  | length => cases params.minLength <;> cases params.maxLength <;> simp
  | _ => simp

/-- A text check decides every cell that is present. -/
theorem rejected_value (spark : Spark δ) (params : TextQualityParameters) {target s : String}
    {row : Row} (h : row.cell target = some s) :
    ((params.rejected spark (.cell target)).value row).isSome = true := by
  unfold TextQualityParameters.rejected outOfLength
  cases params.check with
  | length => cases params.minLength <;> cases params.maxLength <;> simp [h]
  | _ => simp [h]

/-- The condition `failed` of a text quality rule. -/
theorem textQuality_behaves (spark : Spark δ) (params : TextQualityParameters)
    (target : String) :
    Behaves [.lit false, isMissing target, .lit false,
        (isMissing target).not.and (params.rejected spark (.cell target))] target
      False (fun _ => False) (fun _ => False) := by
  refine behaves_of_conditions ?_ (fun row => ?_) fun row => ⟨rfl, ?_⟩
  · simp [rejected_start]
  · simp [rejected_fault]
  · refine isSome_and3 (by simp) fun h_filled => ?_
    have h_cell := isMissingCell_eq_false.mp (by simpa using h_filled)
    obtain ⟨s, h_s, _⟩ := h_cell
    exact rejected_value spark params h_s

/-! ### Rules over a Python function -/

/-- The conditions of a rule that labels its cells, where `na` is one of the labels or
never. -/
theorem label_behaves {f : Option String → Except PyError CellLabel} {target : String}
    {na : Column Bool}
    (h_na : na = .lit false ∨
      na = (Column.udf f (.cell target)).map fun l => decide (l = .notApplicable)) :
    Behaves [na, (Column.udf f (.cell target)).map fun l => decide (l = .missing),
        (Column.udf f (.cell target)).map fun l => decide (l = .miscast),
        (Column.udf f (.cell target)).map fun l => decide (l = .failed)] target
      False (fun cell => ∃ e, f cell = .error e) (fun _ => False) := by
  refine .of_function ?_ (fun row e h => ?_) fun row l h => ?_
  · rcases h_na with rfl | rfl <;> simp
  · rcases h_na with rfl | rfl <;> simp [Column.cascadeFault, h]
  · rcases h_na with rfl | rfl <;> simp [h, Except.toOption]

/-- A field that is present has a kind and a text. -/
def JsonField.Complete (field : JsonField) : Prop :=
  field.state = .present → field.kind.isSome = true ∧ field.text.isSome = true

/-- A found value has a text exactly for the kinds that have one. -/
theorem fieldOf_complete (target : Json) : (fieldOf target).Complete := by
  intro h_present
  cases target with
  | null => cases h_present
  | _ => exact ⟨rfl, rfl⟩

/-- Walking a pointer ends at a complete field, or at one that is absent. -/
theorem walk_complete (python : Python δ) (tokens : List String) (target : Json) :
    (walk python tokens target).Complete := by
  -- the walk ends at a value, or early with no value
  fun_induction walk python tokens target with
  | case1 target => exact fieldOf_complete target
  | case2 token tokens entries v h ih => exact ih
  | case5 token tokens items n h_n h_pos v h ih => exact ih
  | _ => exact fun h_present => by cases h_present

/-- Whatever `extract_json_field` returns has the text that its kind promises. -/
theorem extractJsonField_complete {rt : Runtime δ} {value : Option String} {path : String}
    {field : JsonField} (h : extractJsonField rt.python rt.parse value path = .ok field) :
    field.Complete := by
  unfold extractJsonField at h
  have h_missing : ({ state := .missing } : JsonField).Complete := fun h' => by cases h'
  have h_miscast : ({ state := .miscast } : JsonField).Complete := fun h' => by cases h'
  split at h
  case h_1 => cases h; exact h_missing
  case h_2 text =>
    split at h
    case h_1 => cases h; exact h_miscast
    case h_2 => cases h
    case h_3 root h_parse =>
      split at h
      case isTrue => cases h; exact fieldOf_complete root
      case isFalse =>
        split at h
        case isTrue => cases h; exact h_miscast
        case isFalse => cases h; exact walk_complete _ _ _

/-- The query cannot start with the pattern of a JSON field rule. -/
def JsonFieldParameters.CannotStart (spark : Spark δ) (params : JsonFieldParameters) : Prop :=
  params.check = .regex ∧ spark.validRegex (params.pattern.getD "") = false

/-- The function of a JSON field rule raises on a cell. -/
def JsonFieldParameters.RaisesOn (rt : Runtime δ) (params : JsonFieldParameters)
    (cell : Option String) : Prop :=
  if params.check = .range then ∃ e, evaluateJsonField rt.python rt.parse params cell = .error e
  else ∃ e, extractJsonField rt.python rt.parse cell params.path = .error e

/-- Validated allowed values are texts, never null. -/
theorem allowedValues_isTextList (values : List String) : IsTextList (values.map .str) := by
  intro v h_v
  obtain ⟨s, _, rfl⟩ := List.mem_map.mp h_v
  exact Or.inr ⟨s, rfl⟩

/-- `IN` over strings is never NULL for a string. -/
theorem isinValue_texts (spark : Spark δ) (values : List String) (s : String) :
    (Column.isinValue spark (values.map .str) s).isSome = true := by
  rw [Option.isSome_iff_ne_none, ne_eq, isinValue_eq_none]
  rintro ⟨⟨v, h_v, h_none⟩, _⟩
  obtain ⟨t, _, rfl⟩ := List.mem_map.mp h_v
  cases h_none

section Field

variable {field : Column JsonField} {row : Row} {f : JsonField}

/-- The state of an extracted field is decided in every row. -/
theorem stateIs_value (h_value : field.value row = some f) (state : FieldState) :
    (stateIs field state).value row = some (decide (f.state = state)) := by
  simp [stateIs, h_value]

/-- The kind of a complete field is decided. -/
theorem isOtherKind_value (h_value : field.value row = some f) (h_complete : f.Complete)
    (kind : JsonKind) : ((isOtherKind field kind).value row).isSome = true := by
  refine isSome_and3 (by simp [stateIs_value h_value]) fun h_present => ?_
  -- a field that is present has a kind
  have h_kind := (h_complete (by simpa [stateIs_value h_value] using h_present)).1
  obtain ⟨k, h_k⟩ := Option.isSome_iff_exists.mp h_kind
  simp [h_value, h_k]

/-- The comparison of a complete field is decided wherever its test decides the text. -/
theorem mismatched_value {isMatch : Column String → Column Bool}
    (h_value : field.value row = some f)
    (h_complete : f.Complete)
    (h_match : ∀ t, f.text = some t → ((isMatch (field.bind (·.text))).value row).isSome = true) :
    ((mismatched field isMatch).value row).isSome = true := by
  have h_not : ∀ x : Option Bool, (not3 x).isSome = x.isSome := fun x => Option.isSome_map
  by_cases h_present : f.state = .present
  · -- a field that is present has a kind and a text
    obtain ⟨k, h_k⟩ := Option.isSome_iff_exists.mp (h_complete h_present).1
    obtain ⟨t, h_t⟩ := Option.isSome_iff_exists.mp (h_complete h_present).2
    refine isSome_and3 (by simp [stateIs_value h_value, h_value, h_k]) fun _ => ?_
    rw [Column.not_value, h_not]
    exact h_match t h_t
  · simp [mismatched, stateIs_value h_value, h_present]

/-- On a row with a field, the conditions of a JSON field rule do not fail and are not
NULL. -/
theorem JsonFieldParameters.conditions_total (spark : Spark δ) (params : JsonFieldParameters)
    (h_value : field.value row = some f) (h_quiet : field.fault row = none)
    (h_complete : f.Complete) {g : Column Bool}
    (h_g : g = (params.conditions spark field).1 ∨ g = (params.conditions spark field).2) :
    g.fault row = none ∧ (g.value row).isSome = true := by
  -- a text is compared by the values' texts, so the comparison raises nothing
  have h_text := (spark.text_comparison _
    (allowedValues_isTextList (params.allowedValues.getD []))).2
  have h_or : ∀ x y : Option Bool, x.isSome = true → y.isSome = true → (or3 x y).isSome = true := by
    decide
  have h_miscast := stateIs_value h_value .miscast
  -- the kind of a complete field is known
  have h_mistyped : ∀ kind,
      (((stateIs field .miscast).or (isOtherKind field kind)).value row).isSome =
      true := fun kind =>
    h_or _ _ (by simp [h_miscast]) (isOtherKind_value h_value h_complete kind)
  unfold conditions at h_g
  cases h_check : params.check with
  | type =>
    -- the type check has no second condition
    rw [h_check] at h_g
    rcases h_g with rfl | rfl
    · exact ⟨by simp [stateIs, isOtherKind, h_quiet], h_mistyped _⟩
    · simp
  | regex =>
    -- a match is decided wherever the text is
    rw [h_check] at h_g
    rcases h_g with rfl | rfl
    · exact ⟨by simp [stateIs, isOtherKind, h_quiet], h_mistyped _⟩
    · refine ⟨by simp [mismatched, stateIs, h_quiet], ?_⟩
      exact mismatched_value h_value h_complete fun t h_t => by simp [h_value, h_t]
  | allowedValues =>
    -- a comparison with texts is decided wherever the text is
    rw [h_check] at h_g
    rcases h_g with rfl | rfl
    · exact ⟨by simp [stateIs, isOtherKind, h_quiet], h_mistyped _⟩
    · refine ⟨?_, mismatched_value h_value h_complete fun t h_t => ?_⟩
      · cases h_t : f.text <;> simp [mismatched, stateIs, h_quiet, h_value, h_t, h_text]
      · simpa [h_value, h_t] using isinValue_texts spark _ t
  | _ =>
    -- existence needs the state of the field only
    rw [h_check] at h_g
    rcases h_g with rfl | rfl
    · exact ⟨by simp [stateIs, h_quiet], by simp [h_miscast]⟩
    · simp

end Field

/-- The conditions of a JSON field rule with a check other than RANGE. -/
theorem field_behaves (rt : Runtime δ) (params : JsonFieldParameters) (target : String) :
    let field := fieldColumn rt params target
    Behaves [.lit false, stateIs field .missing, (params.conditions rt.spark field).1,
        (params.conditions rt.spark field).2] target
      (params.CannotStart rt.spark)
      (fun cell => ∃ e, extractJsonField rt.python rt.parse cell params.path = .error e)
      (fun _ => False) := by
  intro field
  have h_comparable :=
    (rt.spark.text_comparison _ (allowedValues_isTextList (params.allowedValues.getD []))).1
  refine .of_function ?_ (fun row e h => ?_) fun row f h => ?_
  -- of the checks only the regular expression can keep the query from starting
  · cases h_check : params.check <;>
      simp [JsonFieldParameters.conditions, JsonFieldParameters.CannotStart, h_check, field,
        fieldColumn, stateIs, isOtherKind, mismatched, h_comparable]
  · simp [Column.cascadeFault, field, fieldColumn, stateIs, h]
  · have h_complete := extractJsonField_complete h
    have h_value : field.value row = some f := by simp [field, fieldColumn, h, Except.toOption]
    have h_quiet : field.fault row = none := by simp [field, fieldColumn, h]
    have h_conditions := fun g h_g =>
      params.conditions_total (g := g) rt.spark h_value h_quiet h_complete h_g
    have h_missing := stateIs_value h_value .missing
    simp only [List.forall_mem_cons]
    exact ⟨by simp, ⟨by simp [stateIs, h_quiet], by simp [h_missing]⟩,
      h_conditions _ (Or.inl rfl), h_conditions _ (Or.inr rfl), by simp⟩

/-! ### All rules -/

section Rules

variable (rt : Runtime δ) (rule : QualityRule α)

/-- A query with the rule cannot start: a regular expression or datetime pattern is not
valid, or the values cannot be compared with a text. -/
def StartFault : Prop :=
  match ruleKind rt.python rule with
  | some .typeParse =>
    -- Spark rejects the format before it reads a row
    IsBadFormat rt.spark (parsedType rt.python rule.parameters)
      (formatParameter rt.python rule.parameters)
  | some .domainRange =>
    ∃ check, domainCheck rt rule.parameters = .ok check ∧ check.CannotStart rt.spark
  | some .crossField =>
    ∃ comparison, fieldComparison rt.python rule.ruleCode rule.parameters = .ok comparison ∧
      IsBadFormat rt.spark comparison.dataType comparison.format
  | some .jsonField =>
    -- a range is evaluated in Python, so there is no condition to refuse
    ∃ params, JsonFieldParameters.validate rt.python rule.parameters = .ok params ∧
      params.check ≠ .range ∧ params.CannotStart rt.spark
  | _ => False

/-- A query with the rule raises on a row with this target cell. -/
def CellFault (cell : Option String) : Prop :=
  -- conditions on cells raise inside the shared query
  match ruleKind rt.python rule with
  | some .domainRange =>
    ∃ check, domainCheck rt rule.parameters = .ok check ∧ check.RaisesOn rt.spark cell
  | some .jsonField =>
    ∃ params, JsonFieldParameters.validate rt.python rule.parameters = .ok params ∧
      params.RaisesOn rt cell
  | some .jsonArray =>
    ∃ params, JsonArrayParameters.validate rt.python rule.parameters = .ok params ∧
      ∃ e, evaluateJsonArray rt.python rt.parse params cell = .error e
  | some .spelling =>
    ∃ params bundle, SpellingParameters.validate rule.parameters = .ok params ∧
      pinnedBundle rt params = .ok bundle ∧
      ∃ e, spellLabel rt bundle params.acceptedTerms cell = .error e
  | _ => False

/-- No condition counts a row with this target cell. -/
def LosesCell (cell : Option String) : Prop :=
  ruleKind rt.python rule = some .domainRange ∧
    ∃ check, domainCheck rt rule.parameters = .ok check ∧ check.Loses rt.spark cell

variable {rt rule}

/-- What the compiled form of a rule has in common for all types. -/
structure CompiledFrom (target : PyValue) (start : Prop) (cellFault lost : Option String → Prop)
    (rule : QualityRule α) (cr : CompiledRule) : Prop where
  ruleId_eq : cr.ruleId = rule.ruleId
  target_eq : target = .str cr.targetColumn
  behaves : Behaves cr.guards cr.targetColumn start cellFault lost

/-- The three descriptions of a compiled rule may be replaced by equivalent ones. -/
theorem CompiledFrom.congr {target : PyValue} {start start' : Prop}
    {cellFault cellFault' lost lost' : Option String → Prop} {cr : CompiledRule}
    (h : CompiledFrom target start cellFault lost rule cr) (h_start : start' ↔ start)
    (h_fault : ∀ cell, cellFault' cell ↔ cellFault cell) (h_lost : ∀ cell, lost' cell ↔ lost cell) :
    CompiledFrom target start' cellFault' lost' rule cr := by
  -- equivalent descriptions are equal
  obtain rfl := propext h_start
  obtain rfl := funext fun cell => propext (h_fault cell)
  obtain rfl := funext fun cell => propext (h_lost cell)
  exact h

/-- A result that is known is the only one. -/
theorem exists_ok_iff {β : Type} {x : Except PyError β} {b : β} (h : x = .ok b) (p : β → Prop) :
    (∃ b', x = .ok b' ∧ p b') ↔ p b := by
  subst h
  constructor
  · rintro ⟨b', h_b', h_p⟩
    cases h_b'
    exact h_p
  · exact fun h_p => ⟨b, rfl, h_p⟩

/-- A compiled `DOMAIN_RANGE` rule stops, raises and loses rows exactly as its check says.
-/
theorem compileDomainRange_ok [LinearOrder δ] {target : PyValue} {cr : CompiledRule}
    (h : compileDomainRange rt rule target = .ok cr) :
    ∃ check, domainCheck rt rule.parameters = .ok check ∧
      CompiledFrom target (check.CannotStart rt.spark) (check.RaisesOn rt.spark ·)
        (check.Loses rt.spark ·) rule cr := by
  obtain ⟨name, h_name, h⟩ := ok_of_bind h
  obtain ⟨check, h_check, h⟩ := ok_of_bind h
  cases h
  exact ⟨check, h_check, rfl, quotedCol_ok h_name, check.behaves rt name⟩

/-- A compiled `NON_NULL` rule has no fault. -/
theorem compileNonNull_ok {target : PyValue} {cr : CompiledRule}
    (h : compileNonNull rule target = .ok cr) :
    CompiledFrom target False (fun _ => False) (fun _ => False) rule cr := by
  obtain ⟨name, h_name, h⟩ := ok_of_bind h
  cases h
  exact ⟨rfl, quotedCol_ok h_name, nonNull_behaves name⟩

/-- A compiled `UNIQUENESS` rule has no fault. -/
theorem compileUniqueness_ok {target : PyValue} {cr : CompiledRule}
    (h : compileUniqueness rule target = .ok cr) :
    CompiledFrom target False (fun _ => False) (fun _ => False) rule cr := by
  obtain ⟨name, h_name, h⟩ := ok_of_bind h
  cases h
  exact ⟨rfl, quotedCol_ok h_name, uniqueness_behaves name _ fun row => ⟨rfl, rfl, rfl⟩⟩

/-- A compiled `TYPE_PARSE` rule can only stop at its timestamp format. -/
theorem compileTypeParse_ok {target : PyValue} {cr : CompiledRule}
    (h : compileTypeParse rt rule target = .ok cr) :
    CompiledFrom target
      (IsBadFormat rt.spark (parsedType rt.python rule.parameters)
        (formatParameter rt.python rule.parameters))
      (fun _ => False) (fun _ => False) rule cr := by
  obtain ⟨name, h_name, h⟩ := ok_of_bind h
  cases h
  exact ⟨rfl, quotedCol_ok h_name, typeParse_behaves ..⟩

/-- A compiled `CROSS_FIELD_CONSISTENCY` rule can only stop at its timestamp format. -/
theorem compileCrossField_ok [LinearOrder δ] {target : PyValue} {cr : CompiledRule}
    (h : compileCrossField rt rule target = .ok cr) :
    ∃ comparison, fieldComparison rt.python rule.ruleCode rule.parameters = .ok comparison ∧
      CompiledFrom target (IsBadFormat rt.spark comparison.dataType comparison.format)
        (fun _ => False) (fun _ => False) rule cr := by
  obtain ⟨comparison, h_comparison, h⟩ := ok_of_bind h
  obtain ⟨name, h_name, h⟩ := ok_of_bind h
  obtain ⟨other, _, h⟩ := ok_of_bind h
  cases h
  exact ⟨comparison, h_comparison, rfl, quotedCol_ok h_name, crossField_behaves ..⟩

/-- A compiled `TEXT_QUALITY` rule has no fault. -/
theorem compileTextQuality_ok {target : PyValue} {cr : CompiledRule}
    (h : compileTextQuality rt rule target = .ok cr) :
    CompiledFrom target False (fun _ => False) (fun _ => False) rule cr := by
  obtain ⟨params, _, h⟩ := ok_of_bind h
  obtain ⟨name, h_name, h⟩ := ok_of_bind h
  obtain ⟨_, _, h⟩ := ok_of_bind h
  cases h
  exact ⟨rfl, quotedCol_ok h_name, textQuality_behaves ..⟩

/-- A compiled `JSON_FIELD` rule raises where the extraction does, and stops at a pattern
Spark refuses. -/
theorem compileJsonField_ok {target : PyValue} {cr : CompiledRule}
    (h : compileJsonField rt rule target = .ok cr) :
    ∃ params, JsonFieldParameters.validate rt.python rule.parameters = .ok params ∧
      CompiledFrom target (params.check ≠ .range ∧ params.CannotStart rt.spark)
        (params.RaisesOn rt ·) (fun _ => False) rule cr := by
  obtain ⟨params, h_params, h⟩ := ok_of_bind h
  obtain ⟨name, h_name, h⟩ := ok_of_bind h
  refine ⟨params, h_params, ?_⟩
  unfold JsonFieldParameters.RaisesOn
  -- a range labels its cells, and every other check extracts a field
  by_cases h_range : params.check = .range
  · rw [if_pos h_range] at h
    cases h
    simp only [h_range, ne_eq, not_true_eq_false, false_and, if_true]
    exact ⟨rfl, quotedCol_ok h_name, label_behaves (Or.inl rfl)⟩
  · rw [if_neg h_range] at h
    cases h
    simp only [h_range, ne_eq, not_false_eq_true, true_and, if_false]
    exact ⟨rfl, quotedCol_ok h_name, field_behaves rt params name⟩

/-- A compiled `JSON_ARRAY` rule raises where the evaluation of the array does. -/
theorem compileJsonArray_ok {target : PyValue} {cr : CompiledRule}
    (h : compileJsonArray rt rule target = .ok cr) :
    ∃ params, JsonArrayParameters.validate rt.python rule.parameters = .ok params ∧
      CompiledFrom target False
        (fun cell => ∃ e, evaluateJsonArray rt.python rt.parse params cell = .error e)
        (fun _ => False) rule cr := by
  obtain ⟨params, h_params, h⟩ := ok_of_bind h
  obtain ⟨name, h_name, h⟩ := ok_of_bind h
  cases h
  exact ⟨params, h_params, rfl, quotedCol_ok h_name, label_behaves (Or.inl rfl)⟩

/-- A compiled `SPELLING` rule raises where the labelling of the text does. -/
theorem compileSpelling_ok {target : PyValue} {cr : CompiledRule}
    (h : compileSpelling rt rule target = .ok cr) :
    ∃ params bundle, SpellingParameters.validate rule.parameters = .ok params ∧
      pinnedBundle rt params = .ok bundle ∧
      CompiledFrom target False
        (fun cell => ∃ e, spellLabel rt bundle params.acceptedTerms cell = .error e)
        (fun _ => False) rule cr := by
  obtain ⟨params, h_params, h⟩ := ok_of_bind h
  obtain ⟨bundle, h_bundle, h⟩ := ok_of_bind h
  obtain ⟨name, h_name, h⟩ := ok_of_bind h
  cases h
  exact ⟨params, bundle, h_params, ok_of_orUnavailable h_bundle, rfl, quotedCol_ok h_name,
    label_behaves (Or.inr rfl)⟩

/-- **What a compiled rule does to the query** is what its parameters say. -/
theorem compileRule_behaves [LinearOrder δ] {cr : CompiledRule} (h : compileRule rt rule = .ok cr) :
    CompiledFrom (ruleTargetColumn rule) (StartFault rt rule) (CellFault rt rule)
      (LosesCell rt rule) rule cr := by
  simp only [compileRule] at h
  split at h
  case isTrue => cases h
  case isFalse =>
    split at h
    case h_1 => cases h
    case h_2 kind h_kind =>
      have h_domain : ruleKind rt.python rule = some kind := h_kind
      -- only one type of rule loses rows
      have h_never : kind ≠ .domainRange → ∀ cell, LosesCell rt rule cell ↔ False := by
        rintro h_other cell
        simp [LosesCell, h_domain, h_other]
      unfold StartFault CellFault
      rw [h_kind]
      cases kind with
      | nonNull =>
        -- these types read no parameter that could fail later
        exact (compileNonNull_ok h).congr Iff.rfl (fun _ => Iff.rfl) (h_never (by decide))
      | uniqueness =>
        exact (compileUniqueness_ok h).congr Iff.rfl (fun _ => Iff.rfl) (h_never (by decide))
      | textQuality =>
        exact (compileTextQuality_ok h).congr Iff.rfl (fun _ => Iff.rfl) (h_never (by decide))
      | typeParse =>
        exact (compileTypeParse_ok h).congr Iff.rfl (fun _ => Iff.rfl) (h_never (by decide))
      | crossField =>
        -- the type and format of the comparison decide whether it starts
        obtain ⟨comparison, h_comparison, h_from⟩ := compileCrossField_ok h
        exact h_from.congr (exists_ok_iff h_comparison _) (fun _ => Iff.rfl) (h_never (by decide))
      | domainRange =>
        -- a domain check may lose rows whose comparison with the values is NULL
        obtain ⟨check, h_check, h_from⟩ := compileDomainRange_ok h
        refine h_from.congr (exists_ok_iff h_check _) (fun _ => exists_ok_iff h_check _)
          fun cell => ?_
        rw [LosesCell, exists_ok_iff h_check, and_iff_right h_domain]
      | jsonField =>
        -- the extraction raises where the parser or the pointer does
        obtain ⟨params, h_params, h_from⟩ := compileJsonField_ok h
        exact h_from.congr (exists_ok_iff h_params _) (fun _ => exists_ok_iff h_params _)
          (h_never (by decide))
      | jsonArray =>
        obtain ⟨params, h_params, h_from⟩ := compileJsonArray_ok h
        exact h_from.congr Iff.rfl (fun _ => exists_ok_iff h_params _) (h_never (by decide))
      | spelling =>
        -- the labelling raises where a dictionary does
        obtain ⟨params, bundle, h_params, h_bundle, h_from⟩ := compileSpelling_ok h
        refine h_from.congr Iff.rfl (fun cell => ?_) (h_never (by decide))
        simp [h_params, h_bundle]

end Rules

end DqScoring
