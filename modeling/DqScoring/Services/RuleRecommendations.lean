import DqScoring.Framework.ListOrder
import DqScoring.Imports.ColumnProfile
import DqScoring.Services.BoundRules

/-!
# Suggested rules

The rules of `recommend_rules` (`services/rule_recommendations.py`): a TYPE_PARSE rule is
suggested when at least 95 % of the sampled values count as parsed. What counts is what
Python reads, and what the rule counts as miscast is what Spark does not read.

`miscastsFew_of_reads` compares the two readings on the sample itself: the rule miscasts few
values if Spark reads what Python counted, and in a small sample only then. The matching of
templates is left out.
-/

namespace DqScoring

open Framework Framework.Kleene

variable {α δ : Type} [Field α]

/-! ### The suggestions -/

/-- A suggested rule and why it is suggested. -/
structure Suggestion (α : Type) where
  rule : CreateQualityRuleInput α
  reasonCode : String
  column : String
  nullCount : ℕ
  sampleRows : ℕ
  isSample : Bool := true

/-- A rule that a column may get. -/
structure Candidate where
  dimension : String
  ruleType : String
  parameters : PyDict
  reasonCode : String

/-- The parameters of the TYPE_PARSE rule of a column, when its format is known. -/
def typeParseParameters (name : String) (kind : TypeHint) (timestampFormat : Option String) :
    Option PyDict :=
  let params := [("column", .str name), ("data_type", .str kind.text)]
  if kind = .date ∨ kind = .timestamp then
    let format := timestampFormat.or (if kind = .date then some "yyyy-MM-dd" else none)
    (format.filter (· ≠ "")).map fun f => params ++ [("format", .str f)]
  else some params

/-- A column is to be parsed as its type. -/
def asksTypeParse (priorities : List String) (stat : ColumnProfile) : Bool :=
  priorities.contains "VALIDITY" && stat.typeHint.isParsed && decide (stat.nonNullCount ≠ 0) &&
    isEnough stat.parseSuccessCount stat.nonNullCount

/-- The rules of a column. -/
def columnCandidates (reader : SampleReader) (priorities : List String) (name : String)
    (stat : Option ColumnProfile) : List Candidate :=
  let completeness := if priorities.contains "COMPLETENESS" then
    [⟨"COMPLETENESS", "NON_NULL", [("column", .str name)], "SAMPLE_NULL_STATISTICS"⟩] else []
  let tokens := (reader.casefold name).toList.splitOnP fun c => !(c.isLower || c.isDigit)
  let uniqueness := if priorities.contains "UNIQUENESS" && tokens.contains ['i', 'd'] &&
      stat.any fun s => decide (s.nonNullCount ≠ 0 ∧ s.distinctCount = s.nonNullCount) then
    [⟨"UNIQUENESS", "UNIQUENESS", [("column", .str name)], "SAMPLE_UNIQUENESS_NOT_PROOF"⟩] else []
  match stat.filter (asksTypeParse priorities) with
  | none => completeness ++ uniqueness
  | some s =>
    match typeParseParameters name s.typeHint s.timestampFormat with
    -- without a format the column gets no rule at all
    | none => []
    | some params =>
      completeness ++ [⟨"VALIDITY", "TYPE_PARSE", params, "SAMPLE_PARSE_SUCCESS"⟩] ++ uniqueness

/-- The suggestion of a candidate. -/
def Candidate.suggestion (candidate : Candidate) (index : ℕ) (name : String)
    (stat : Option ColumnProfile) (sampleRows : ℕ) : Suggestion α where
  rule := {
    ruleCode := "suggested_" ++ toString index ++ "_" ++
      String.ofList (candidate.ruleType.toList.map Char.toLower)
    dimension := candidate.dimension
    ruleType := candidate.ruleType
    parameters := candidate.parameters
    -- a suggestion has the weight of the schema
    contributionWeight := 1 }
  reasonCode := candidate.reasonCode
  column := name
  nullCount := stat.elim 0 (·.nullCount)
  sampleRows

/-- The statistics of a name: of two columns with one name the last. -/
def SampleProfile.stat (profile : SampleProfile) (name : String) : Option ColumnProfile :=
  profile.columns.reverse.find? (·.name = name)

/-- What the suggestions are sorted by. -/
def Suggestion.key (s : Suggestion α) : String ×ₗ String ×ₗ String :=
  toLex (s.rule.dimension, toLex (s.column, s.rule.ruleType))

/-- The rules of `recommend_rules`. -/
def recommendRules (reader : SampleReader) (schema : List String) (profile : SampleProfile)
    (priorities : List String) : List (Suggestion α) :=
  sortByKey Suggestion.key (schema.zipIdx.flatMap fun column =>
    (columnCandidates reader priorities column.1 (profile.stat column.1)).map
      (·.suggestion column.2 column.1 (profile.stat column.1) profile.sampleRows))

/-! ### The sample as a dataset -/

/-- The index of a column: of two columns with one name the last. -/
def columnIndex (columnNames : List String) (name : String) : Option ℕ :=
  (columnNames.zipIdx.reverse.find? fun column => column.1 = name).map (·.2)

/-- A sampled row as a row of the dataset. -/
def sampleRow (columnNames : List String) (row : List (Option String)) : Row where
  cell name := (columnIndex columnNames name).bind fun i => row[i]?.join

/-- At most 5 % of the values that are not missing are miscast. -/
def MiscastsFew (cr : CompiledRule) (rows : List Row) : Prop :=
  20 * cr.miscastExpr.count rows ≤ cr.missingExpr.not.count rows

instance (cr : CompiledRule) (rows : List Row) : Decidable (MiscastsFew cr rows) :=
  inferInstanceAs (Decidable (_ ≤ _))

/-- The values of a column that are not NULL. -/
def columnValues (rows : List Row) (name : String) : List String :=
  rows.filterMap (·.cell name)

/-- The reading that a value was counted with for the parameters of a suggested rule. -/
def profileReads (python : Python δ) (reader : SampleReader) (params : PyDict) (v : String) :
    Bool :=
  match params.get "data_type" with
  | .str "INTEGER" => readsInteger python reader v
  | .str "DOUBLE" => readsDouble python v
  | .str "DATE" => readsDate reader v
  | .str "TIMESTAMP" =>
    -- a format that Spark has and Python lacks reads nothing
    (((params.get "format").text?).bind pythonFormat).any fun f => readsTimestamp reader f v
  | _ => false

/-- What Spark reads a value as. -/
def parsedText (spark : Spark δ) (dataType format v : String) : Option (δ ⊕ₗ ℤ) :=
  if dataType ∈ temporalTypes then
    (spark.tryToTimestamp (temporalFormat dataType format) v).map Sum.inrₗ
  else if dataType ∈ floatingTypes then (spark.tryCastDouble v).map Sum.inlₗ
  else (spark.tryCastBigint v).map Sum.inrₗ

/-- The rule reads the value. -/
def ruleReads (rt : Runtime δ) (params : PyDict) (v : String) : Bool :=
  (parsedText rt.spark (parsedType rt.python params) (formatParameter rt.python params) v).isSome

/-- The value is not missing. -/
def isPresent (v : String) : Bool := !isMissingCell (some v)

/-- Spark reads what Python counted: each value that the profile accepts is there for the rule,
which reads it. -/
def ReadsCounted (rt : Runtime δ) (reader : SampleReader) (params : PyDict)
    (values : List String) : Prop :=
  ∀ v ∈ values, profileReads rt.python reader params v = true →
    isPresent v = true ∧ ruleReads rt params v = true

instance (rt : Runtime δ) (reader : SampleReader) (params : PyDict) (values : List String) :
    Decidable (ReadsCounted rt reader params values) :=
  inferInstanceAs (Decidable (∀ v ∈ values, _ → _))

/-! ### What is suggested -/

/-- Each suggestion comes from a candidate of one column. -/
theorem mem_recommendRules {reader : SampleReader} {schema priorities : List String}
    {profile : SampleProfile} {s : Suggestion α}
    (h : s ∈ recommendRules reader schema profile priorities) :
    ∃ name index candidate,
      candidate ∈ columnCandidates reader priorities name (profile.stat name) ∧
      s = candidate.suggestion index name (profile.stat name) profile.sampleRows := by
  have h_mem := (perm_sortByKey _ _).mem_iff.mp h
  obtain ⟨⟨name, index⟩, -, h_mem⟩ := List.mem_flatMap.mp h_mem
  obtain ⟨candidate, h_candidate, rfl⟩ := List.mem_map.mp h_mem
  exact ⟨name, index, candidate, h_candidate, rfl⟩

/-- A TYPE_PARSE candidate comes from statistics that ask for it. -/
theorem typeParse_of_candidate {reader : SampleReader} {priorities : List String} {name : String}
    {stat : Option ColumnProfile} {candidate : Candidate}
    (h : candidate ∈ columnCandidates reader priorities name stat)
    (h_type : candidate.ruleType = "TYPE_PARSE") :
    ∃ p, stat = some p ∧ asksTypeParse priorities p = true ∧
      typeParseParameters name p.typeHint p.timestampFormat = some candidate.parameters := by
  -- the candidates of the other types are told apart by their type
  have h_completeness : ∀ b : Bool, candidate ∉ (if b then
      [⟨"COMPLETENESS", "NON_NULL", [("column", .str name)], "SAMPLE_NULL_STATISTICS"⟩] else
      ([] : List Candidate)) := by
    intro b h_mem
    obtain ⟨-, h_mem⟩ := List.mem_ite_nil_right.mp h_mem
    rw [List.mem_singleton.mp h_mem] at h_type
    exact absurd h_type (by decide : "NON_NULL" ≠ "TYPE_PARSE")
  have h_uniqueness : ∀ b : Bool, candidate ∉ (if b then
      [⟨"UNIQUENESS", "UNIQUENESS", [("column", .str name)], "SAMPLE_UNIQUENESS_NOT_PROOF"⟩] else
      ([] : List Candidate)) := by
    intro b h_mem
    obtain ⟨-, h_mem⟩ := List.mem_ite_nil_right.mp h_mem
    rw [List.mem_singleton.mp h_mem] at h_type
    exact absurd h_type (by decide : "UNIQUENESS" ≠ "TYPE_PARSE")
  simp only [columnCandidates] at h
  cases h_stat : stat.filter (asksTypeParse priorities) with
  | none =>
    -- no type to recommend
    simp only [h_stat] at h
    rcases List.mem_append.mp h with h | h
    · exact absurd h (h_completeness _)
    · exact absurd h (h_uniqueness _)
  | some p =>
    -- the candidate is the one of the inferred type
    obtain ⟨h_some, h_asks⟩ := Option.filter_eq_some_iff.mp h_stat
    cases h_params : typeParseParameters name p.typeHint p.timestampFormat with
    | none =>
      simp only [h_stat, h_params] at h
      cases h
    | some params =>
      simp only [h_stat, h_params] at h
      rcases List.mem_append.mp h with h | h
      · rcases List.mem_append.mp h with h | h
        · exact absurd h (h_completeness _)
        · obtain rfl := List.mem_singleton.mp h
          exact ⟨p, h_some, h_asks, h_params⟩
      · exact absurd h (h_uniqueness _)

/-! ### The profiled column in the sample -/

/-- The statistics of a name are those of the column that its cells are read from. -/
theorem stat_buildProfile {python : Python δ} {reader : SampleReader}
    {columnNames : List String} {rows : List (List (Option String))} {totalRows : ℕ}
    {containers : List String} {name : String} {p : ColumnProfile}
    (h : (buildProfile python reader columnNames rows totalRows containers).stat name = some p) :
    p = profileColumn python reader containers name
      ((rows.map (sampleRow columnNames)).map (·.cell name)) := by
  rw [SampleProfile.stat, buildProfile, ← List.map_reverse, List.find?_map] at h
  obtain ⟨⟨name', index⟩, h_find, rfl⟩ := Option.map_eq_some_iff.mp h
  have h_index : columnIndex columnNames name = some index :=
    congrArg (Option.map Prod.snd) h_find
  have h_name := List.find?_some h_find
  obtain rfl : name' = name := of_decide_eq_true h_name
  have h_cells : columnCells rows index =
      (rows.map (sampleRow columnNames)).map (·.cell name') := by
    rw [List.map_map]
    refine List.map_congr_left fun row _ => ?_
    show row[index]?.join = (columnIndex columnNames name').bind fun i => row[i]?.join
    rw [h_index, Option.bind_some]
  rw [h_cells]

/-- The parameters of a suggestion name the reading that its values were counted with. -/
theorem typeParseParameters_reads (python : Python δ) (reader : SampleReader) {name : String}
    {hint : TypeHint} {format : Option String} {params : PyDict} (h_parsed : hint.isParsed = true)
    (h : typeParseParameters name hint format = some params) :
    params.get "column" = .str name ∧ params.has "target_column" = false ∧
      profileReads python reader params = hint.accepts python reader format := by
  cases hint with
  | string | boolean | json => cases h_parsed
  | integer | double =>
    cases h
    exact ⟨rfl, rfl, rfl⟩
  | date =>
    obtain ⟨f, -, rfl⟩ := Option.map_eq_some_iff.mp h
    exact ⟨rfl, rfl, rfl⟩
  | timestamp =>
    obtain ⟨f, h_format, rfl⟩ := Option.map_eq_some_iff.mp h
    have h_some : format = some f := by
      rw [← (Option.filter_eq_some_iff.mp h_format).1, if_neg (by decide), Option.or_none]
    subst h_some
    exact ⟨rfl, rfl, rfl⟩

/-- A TYPE_PARSE rule is suggested for a column of the sample of which 95 % were counted. -/
theorem counted_of_suggested {python : Python δ} {reader : SampleReader}
    {schema columnNames : List String} {rows : List (List (Option String))} {totalRows : ℕ}
    {containers priorities : List String} {s : Suggestion α} (ruleId : Uuid)
    (h : s ∈ recommendRules reader schema
      (buildProfile python reader columnNames rows totalRows containers) priorities)
    (h_type : s.rule.ruleType = "TYPE_PARSE") :
    ∃ name, ruleTargetColumn (s.rule.toRule ruleId) = .str name ∧
      19 * (columnValues (rows.map (sampleRow columnNames)) name).length ≤
        20 * (columnValues (rows.map (sampleRow columnNames)) name).countP
          (profileReads python reader s.rule.parameters) := by
  obtain ⟨name, index, candidate, h_candidate, rfl⟩ := mem_recommendRules h
  obtain ⟨p, h_stat, h_asks, h_params⟩ := typeParse_of_candidate h_candidate h_type
  obtain ⟨⟨⟨-, h_parsed⟩, -⟩, -⟩ : ((_ ∧ _) ∧ _) ∧ _ := by
    simpa only [asksTypeParse, Bool.and_eq_true] using h_asks
  obtain ⟨h_column, h_target, h_reads⟩ := typeParseParameters_reads python reader h_parsed h_params
  refine ⟨name, ?_, ?_⟩
  · show (candidate.parameters.get "target_column").orElse (candidate.parameters.get "column") = _
    rw [PyDict.get_of_not_has h_target, h_column]
    rfl
  show _ ≤ 20 * List.countP (profileReads python reader candidate.parameters) _
  rw [h_reads]
  have h_profile := stat_buildProfile h_stat
  have h_values : ((rows.map (sampleRow columnNames)).map (·.cell name)).filterMap id =
      columnValues (rows.map (sampleRow columnNames)) name := by
    rw [List.filterMap_map]
    rfl
  simp only [profileColumn, h_values] at h_profile
  split at h_profile
  case isTrue =>
    subst h_profile
    cases h_parsed
  case isFalse =>
    subst h_profile
    obtain ⟨h_counts, h_enough⟩ := inferProfileStats_counts python reader name _ rfl h_parsed
    rw [isEnough, decide_eq_true_eq, h_counts] at h_enough
    exact h_enough

/-! ### What the rule counts -/

/-- The parsed value of a cell. -/
theorem parseColumn_value (spark : Spark δ) (name dataType format : String) (row : Row) :
    (parseColumn spark name dataType format).value row =
      (row.cell name).bind (parsedText spark dataType format) := by
  unfold parseColumn parsedText
  by_cases h_temporal : dataType ∈ temporalTypes
  · cases h : row.cell name <;> simp [h_temporal, h]
  · by_cases h_floating : dataType ∈ floatingTypes <;> cases h : row.cell name <;>
      simp [h_temporal, h_floating, h]

/-- The rows that a condition on the values of a column counts. -/
theorem count_values {c : Column Bool} {name : String} {p : String → Bool}
    (h : ∀ row, c.value row = some ((row.cell name).any p)) (rows : List Row) :
    c.count rows = (columnValues rows name).countP p := by
  rw [columnValues, List.countP_filterMap, Column.count]
  refine List.countP_congr fun row _ => ?_
  rw [h row]
  cases row.cell name <;> simp

section Counts

variable [LinearOrder δ] {rt : Runtime δ} {rule : QualityRule α} {cr : CompiledRule}

omit [Field α] in
/-- What a compiled TYPE_PARSE rule counts. -/
theorem typeParse_counts {name : String} (h_upper : rt.python.UppersAscii)
    (h_type : rule.ruleType = "TYPE_PARSE") (h_target : ruleTargetColumn rule = .str name)
    (h : compileRule rt rule = .ok cr) (rows : List Row) :
    cr.targetColumn = name ∧
      cr.miscastExpr.count rows = (columnValues rows name).countP (fun v =>
        isPresent v && !ruleReads rt rule.parameters v) ∧
      cr.missingExpr.not.count rows = (columnValues rows name).countP isPresent := by
  have h_kind : ruleKind rt.python rule = some .typeParse := ruleKind_of_value h_upper h_type
  simp only [compileRule, h_kind, h_target] at h
  split at h
  case isTrue => cases h
  case isFalse =>
    obtain ⟨target, h_quoted, h⟩ := ok_of_bind h
    cases h
    obtain rfl := PyValue.str.inj (quotedCol_ok h_quoted)
    refine ⟨rfl, count_values (fun row => ?_) rows, count_values (fun row => ?_) rows⟩
    · rw [Column.and_value, Column.not_value, isMissing_value, Column.isNull_value,
        parseColumn_value]
      cases row.cell name with
      | none => rfl
      | some v =>
        rw [Option.bind_some, ← Option.not_isSome, not3_some, and3_some]
        rfl
    · rw [Column.not_value, isMissing_value]
      cases row.cell name with
      | none => rfl
      | some v => rfl

end Counts

/-- Few values are miscast when all that were counted are read: the miscast values are then
among those that were not counted. -/
theorem few_of_counted_read {values : List String} {counted present read : String → Bool}
    (h_enough : 19 * values.length ≤ 20 * values.countP counted)
    (h_read : ∀ v ∈ values, counted v = true → present v = true ∧ read v = true) :
    20 * values.countP (fun v => present v && !read v) ≤ values.countP present := by
  have h_length : values.length = values.countP counted + values.countP fun v => !counted v := by
    rw [List.length_eq_countP_add_countP counted]
    congr 1
    exact List.countP_congr fun v _ => by simp
  have h_miscast : values.countP (fun v => present v && !read v) ≤
      values.countP fun v => present v && !counted v := by
    refine List.countP_mono_left fun v h_v h => ?_
    obtain ⟨h_present, h_unread⟩ := Bool.and_eq_true_iff.mp h
    cases h_counted : counted v with
    | true =>
      rw [(h_read v h_v h_counted).2] at h_unread
      cases h_unread
    | false => rw [h_present]; rfl
  have h_present : values.countP present =
      values.countP counted + values.countP fun v => present v && !counted v := by
    rw [List.countP_eq_countP_filter_add values present counted, List.countP_filter,
      List.countP_filter]
    congr 1
    refine List.countP_congr fun v h_v => ?_
    rw [Bool.and_eq_true_iff]
    exact ⟨And.right, fun h => ⟨(h_read v h_v h).1, h⟩⟩
  have h_uncounted : values.countP (fun v => present v && !counted v) ≤
      values.countP fun v => !counted v :=
    List.countP_mono_left fun v _ h => (Bool.and_eq_true_iff.mp h).2
  omega

/-- Of fewer than 20 values a twentieth is none: 95 % of them are all of them, and at most 5 % are
none. -/
theorem few_iff_of_length_lt {values : List String} {counted present read : String → Bool}
    (h_length : values.length < 20) (h_enough : 19 * values.length ≤ 20 * values.countP counted) :
    20 * values.countP (fun v => present v && !read v) ≤ values.countP present ↔
      ∀ v ∈ values, counted v = true → present v = true → read v = true := by
  have h_counted : values.countP counted = values.length := by
    have h_le : values.countP counted ≤ values.length := List.countP_le_length
    omega
  have h_present : values.countP present ≤ values.length := List.countP_le_length
  constructor
  · intro h_few v h_v _ h_v_present
    have h_none : values.countP (fun v => present v && !read v) = 0 := by omega
    have h_not := List.countP_eq_zero.mp h_none v h_v
    simpa [h_v_present] using h_not
  · intro h_read
    have h_none : values.countP (fun v => present v && !read v) = 0 := by
      refine List.countP_eq_zero.mpr fun v h_v h_miscast => ?_
      obtain ⟨h_v_present, h_unread⟩ := Bool.and_eq_true_iff.mp h_miscast
      rw [h_read v h_v (List.countP_eq_length.mp h_counted v h_v) h_v_present] at h_unread
      cases h_unread
    omega

/-- **A suggested TYPE_PARSE rule on its own sample**: it miscasts at most 5 % of the values
that are there if Spark reads all values that the profile counted. Of fewer than 20 values none
may be miscast, and each that is there and was counted has to be read. -/
theorem miscastsFew_of_reads [LinearOrder δ] {rt : Runtime δ} {reader : SampleReader}
    {schema columnNames : List String} {rows : List (List (Option String))} {totalRows : ℕ}
    {containers priorities : List String} {s : Suggestion α} {ruleId : Uuid} {cr : CompiledRule}
    (h_upper : rt.python.UppersAscii)
    (h : s ∈ recommendRules reader schema
      (buildProfile rt.python reader columnNames rows totalRows containers) priorities)
    (h_type : s.rule.ruleType = "TYPE_PARSE")
    (h_compile : compileRule rt (s.rule.toRule ruleId) = .ok cr) :
    let sample := rows.map (sampleRow columnNames)
    let values := columnValues sample cr.targetColumn
    (ReadsCounted rt reader s.rule.parameters values → MiscastsFew cr sample) ∧
      (values.length < 20 → (MiscastsFew cr sample ↔
        ∀ v ∈ values, profileReads rt.python reader s.rule.parameters v = true →
          isPresent v = true → ruleReads rt s.rule.parameters v = true)) := by
  intro sample values
  obtain ⟨name, h_target, h_enough⟩ := counted_of_suggested ruleId h h_type
  obtain ⟨h_name, h_miscast, h_present⟩ :=
    typeParse_counts h_upper h_type h_target h_compile sample
  have h_values : values = columnValues sample name :=
    congrArg (columnValues sample) h_name
  rw [← h_values] at h_miscast h_present h_enough
  rw [MiscastsFew, h_miscast, h_present]
  exact ⟨few_of_counted_read h_enough, fun h_length => few_iff_of_length_lt h_length h_enough⟩

/-! ### An integer that does not fit -/

/-- The number that ASCII digits denote. -/
def readDigits (text : String) : Option ℤ :=
  if text ≠ "" ∧ (text.toList.all Char.isDigit) = true then
    some (text.toList.foldl (fun n c => 10 * n + (c.toNat - '0'.toNat : ℕ)) 0)
  else none

/-- Python that reads integers of any size. -/
def digitsPython : Python ℚ :=
  { upperPython with
    parseInt := readDigits
    decimal := fun s => (readDigits s).map fun n => .finite n }

/-- Spark that reads integers of 64 bits. -/
def digitsSpark : Spark ℚ :=
  { literalSpark with
    tryCastBigint := fun s => (readDigits s).filter fun n => decide (-2 ^ 63 ≤ n ∧ n < 2 ^ 63)
    tryCastDouble := fun s => (readDigits s).map fun n => (n : ℚ) }

/-- The runtime of the two. -/
def digitsRuntime : Runtime ℚ :=
  { literalRuntime with python := digitsPython, spark := digitsSpark }

/-- A reader of samples without times. -/
def digitsReader : SampleReader where
  casefold := id
  isDecimal := Char.isDigit
  strptime := fun _ _ => none

/-- The suggestions for the column `amount` with one value. -/
def amountSuggestions (value : String) : List (Suggestion ℚ) :=
  recommendRules digitsReader ["amount"]
    (buildProfile digitsRuntime.python digitsReader ["amount"] [[some value]] 1 []) ["VALIDITY"]

/-- The rule that `amount` is an integer. -/
def amountSuggestion : Suggestion ℚ where
  rule := {
    ruleCode := "suggested_0_type_parse"
    dimension := "VALIDITY"
    ruleType := "TYPE_PARSE"
    parameters := [("column", .str "amount"), ("data_type", .str "INTEGER")]
    contributionWeight := 1 }
  reasonCode := "SAMPLE_PARSE_SUCCESS"
  column := "amount"
  nullCount := 0
  sampleRows := 1

/-- For a small amount a rule is suggested that parses integers. -/
theorem amountSuggestions_small : amountSuggestions "12" = [amountSuggestion] := rfl

/-- So it is for an amount that no 64-bit integer holds. -/
theorem amountSuggestions_large :
    amountSuggestions "9223372036854775808" = [amountSuggestion] := rfl

/-- The sample with one value as a dataset. -/
def amountSample (value : String) : List Row := [[some value]].map (sampleRow ["amount"])

/-- The rule that `amount` is an integer, compiled. -/
def amountCompiled : CompiledRule where
  ruleId := Uuid.repeated 1
  targetColumn := "amount"
  referencedColumns := ["amount"]
  missingExpr := isMissing "amount"
  miscastExpr := (isMissing "amount").not.and
    (parseColumn digitsSpark "amount" "INTEGER" defaultTimestampFormat).isNull

/-- The suggested rule compiles. -/
theorem compileRule_amount :
    compileRule digitsRuntime (amountSuggestion.rule.toRule (Uuid.repeated 1)) =
      .ok amountCompiled := rfl

theorem miscastsFew_of_reads_amount : MiscastsFew amountCompiled (amountSample "12") := by
  have h_suggested : amountSuggestion ∈ amountSuggestions "12" := by
    rw [amountSuggestions_small]
    exact List.mem_cons_self
  exact (miscastsFew_of_reads (fun _ _ => rfl) h_suggested rfl compileRule_amount).1
    (by decide +kernel)

/-- The profile counts an integer of any size, the API accepts the suggested rule, and the
rule miscasts the only value. -/
theorem amountSuggestion_miscasts :
    amountSuggestion ∈ amountSuggestions "9223372036854775808" ∧
      amountSuggestion.rule.modelValidate digitsPython = .ok amountSuggestion.rule ∧
      compileRule digitsRuntime (amountSuggestion.rule.toRule (Uuid.repeated 1)) =
        .ok amountCompiled ∧
      ¬ MiscastsFew amountCompiled (amountSample "9223372036854775808") := by
  refine ⟨?_, rfl, compileRule_amount, by decide +kernel⟩
  rw [amountSuggestions_large]
  exact List.mem_cons_self

end DqScoring
