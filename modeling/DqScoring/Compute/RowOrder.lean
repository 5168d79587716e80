import DqScoring.Compute.Partition
import Mathlib.Data.Finset.Card

/-!
# The order of the rows

Spark gives the rows of a dataset in no order, and the window of a uniqueness rule is ordered by a
constant, so two executions over the same rows may number them differently. The outputs of both
are the same up to the rows that are shown as evidence (`executeRules_sameRows`). For the other
types this is because their conditions look at one row at a time (`Column.ReadsCells`); for
uniqueness because, whatever the order, one row of each cell comes first (`card_first`).
-/

namespace DqScoring

open Framework Framework.Kleene

variable {α δ : Type}

/-! ### Conditions on cells -/

/-- The cells of these columns decide the value of the expression on a row. -/
def Column.ReadsCells {β : Type} (c : Column β) (names : List String) : Prop :=
  ∀ row row' : Row, (∀ name ∈ names, row.cell name = row'.cell name) → c.value row = c.value row'

namespace Column.ReadsCells

variable {β γ : Type} {names : List String} {name : String}

/-- A literal reads no cell. -/
theorem lit (b : β) : (Column.lit b).ReadsCells names := fun _ _ _ => rfl

/-- A reference reads the cell it names. -/
theorem cell (h : name ∈ names) : (Column.cell name).ReadsCells names :=
  fun _ _ h_cell => h_cell name h

/-- What is computed from a column reads what the column reads. -/
theorem bind {c : Column β} (h : c.ReadsCells names) (f : β → Option γ) :
    (c.bind f).ReadsCells names :=
  fun row row' h_cell => congrArg (Option.bind · f) (h row row' h_cell)

theorem map {c : Column β} (h : c.ReadsCells names) (f : β → γ) : (c.map f).ReadsCells names :=
  fun row row' h_cell => congrArg (Option.map f) (h row row' h_cell)

/-- A comparison reads the cells of its two sides. -/
theorem compare {a : Column β} {b : Column γ} (h_a : a.ReadsCells names) (h_b : b.ReadsCells names)
    (f : β → γ → Bool) : (Column.compare f a b).ReadsCells names := by
  intro row row' h_cell
  rw [Column.compare_value, Column.compare_value, h_a row row' h_cell, h_b row row' h_cell]

theorem isNull {c : Column β} (h : c.ReadsCells names) : c.isNull.ReadsCells names :=
  fun row row' h_cell => congrArg (fun v : Option β => some v.isNone) (h row row' h_cell)

theorem not {c : Column Bool} (h : c.ReadsCells names) : c.not.ReadsCells names :=
  fun row row' h_cell => congrArg not3 (h row row' h_cell)

theorem and {a b : Column Bool} (h_a : a.ReadsCells names) (h_b : b.ReadsCells names) :
    (a.and b).ReadsCells names :=
  fun row row' h_cell => congrArg₂ and3 (h_a row row' h_cell) (h_b row row' h_cell)

theorem or {a b : Column Bool} (h_a : a.ReadsCells names) (h_b : b.ReadsCells names) :
    (a.or b).ReadsCells names :=
  fun row row' h_cell => congrArg₂ or3 (h_a row row' h_cell) (h_b row row' h_cell)

/-- A user defined function sees its argument only. -/
theorem udf {ε : Type} (f : Option String → Except ε β) {c : Column String}
    (h : c.ReadsCells names) : (Column.udf f c).ReadsCells names :=
  fun row row' h_cell => congrArg (fun v => (f v).toOption) (h row row' h_cell)

theorem rlike (spark : Spark δ) (pattern : String) {c : Column String} (h : c.ReadsCells names) :
    (Column.rlike spark pattern c).ReadsCells names :=
  fun row row' h_cell => congrArg (Option.map _) (h row row' h_cell)

theorem tryToTimestamp (spark : Spark δ) (format : String) {c : Column String}
    (h : c.ReadsCells names) : (Column.tryToTimestamp spark format c).ReadsCells names :=
  fun row row' h_cell => congrArg (Option.bind · _) (h row row' h_cell)

theorem isin (spark : Spark δ) (values : List PyValue) {c : Column String}
    (h : c.ReadsCells names) : (Column.isin spark values c).ReadsCells names :=
  fun row row' h_cell => congrArg (Option.bind · _) (h row row' h_cell)

theorem isMissing (h : name ∈ names) : (isMissing name).ReadsCells names :=
  (cell h).isNull.or ((cell h).map _)

/-- The parsed value of a column depends on its cell alone. -/
theorem parseColumn (spark : Spark δ) (h : name ∈ names) (dataType format : String) :
    (parseColumn spark name dataType format).ReadsCells names := by
  unfold DqScoring.parseColumn
  dsimp only
  split
  · exact ((cell h).tryToTimestamp spark _).map _
  split
  · exact (cell h).bind _
  · exact (cell h).bind _

/-- Such a condition counts as many rows of one list as of another with the same cells. -/
theorem count_eq {c : Column Bool} (h : c.ReadsCells names) {rows rows' : List Row}
    (h_rows : (rows.map (·.cell)).Perm (rows'.map (·.cell))) : c.count rows = c.count rows' := by
  have h_count : ∀ rows : List Row, c.count rows =
      (rows.map (·.cell)).countP fun cell => c.value { cell } = some true := by
    intro rows
    rw [Column.count, List.countP_map]
    refine List.countP_congr fun row _ => ?_
    rw [Function.comp_apply, h row { cell := row.cell } fun _ _ => rfl]
  calc c.count rows
      = (rows.map (·.cell)).countP fun cell => c.value { cell } = some true := h_count rows
    _ = (rows'.map (·.cell)).countP fun cell => c.value { cell } = some true := h_rows.countP_eq _
    _ = c.count rows' := (h_count rows').symm

end Column.ReadsCells

/-- What the counts of a rule are counts of: of cells, or of the rows that are not the first of
their cell. -/
inductive CountsCells (cr : CompiledRule) : Prop
  | each : cr.isUniqueness = false → cr.isNa.ReadsCells cr.referencedColumns →
      cr.missingExpr.ReadsCells cr.referencedColumns →
      cr.miscastExpr.ReadsCells cr.referencedColumns →
      cr.failedExpr.ReadsCells cr.referencedColumns → CountsCells cr
  | repeated (column : String) : cr.isUniqueness = true → cr.uniquenessColumn = some column →
      cr.isNa = .lit false → cr.missingExpr = isMissing column → cr.miscastExpr = .lit false →
      CountsCells cr

section Compilers

variable {rt : Runtime δ} {rule : QualityRule α} {target : PyValue} {cr : CompiledRule}

/-- Rules without a scope. -/
theorem CountsCells.of_unscoped (h_unique : cr.isUniqueness = false) (h_scope : cr.scopeExpr = none)
    (h_missing : cr.missingExpr.ReadsCells cr.referencedColumns)
    (h_miscast : cr.miscastExpr.ReadsCells cr.referencedColumns)
    (h_failed : cr.failedExpr.ReadsCells cr.referencedColumns) : CountsCells cr := by
  have h_na : cr.isNa = .lit false := by
    unfold CompiledRule.isNa
    rw [h_scope]
    rfl
  refine .each h_unique ?_ h_missing h_miscast h_failed
  rw [h_na]
  exact .lit false

/-- `NON_NULL` looks at the target's cell only. -/
theorem compileNonNull_countsCells (h : compileNonNull rule target = .ok cr) : CountsCells cr := by
  obtain ⟨name, _, h⟩ := ok_of_bind h
  cases h
  exact .of_unscoped rfl rfl (.isMissing (List.mem_singleton_self name)) (.lit false) (.lit false)

/-- Apart from the window number, `UNIQUENESS` looks at the target's cell only. -/
theorem compileUniqueness_countsCells (h : compileUniqueness rule target = .ok cr) :
    CountsCells cr := by
  obtain ⟨name, _, h⟩ := ok_of_bind h
  cases h
  exact .repeated name rfl rfl rfl rfl rfl

/-- `TYPE_PARSE` looks at the target's cell only. -/
theorem compileTypeParse_countsCells (h : compileTypeParse rt rule target = .ok cr) :
    CountsCells cr := by
  obtain ⟨name, _, h⟩ := ok_of_bind h
  cases h
  have h_missing := Column.ReadsCells.isMissing (List.mem_singleton_self name)
  have h_miscast := Column.ReadsCells.isNull
    (.parseColumn rt.spark (List.mem_singleton_self name) (parsedType rt.python rule.parameters)
      (formatParameter rt.python rule.parameters))
  exact .of_unscoped rfl rfl h_missing (h_missing.not.and h_miscast) (.lit false)

/-- Both bounds are literals, so they read what the parsed value reads. -/
theorem outOfBounds_readsCells [LinearOrder δ] (min max : Option δ) {parsed : Column (δ ⊕ₗ ℤ)}
    {names : List String} (h : parsed.ReadsCells names) :
    (outOfBounds min max parsed).ReadsCells names := by
  have h_below : ∀ lo : δ, ((Column.lit false).or
      (parsed.map fun x => decide (x < Sum.inlₗ lo))).ReadsCells names :=
    fun lo => (Column.ReadsCells.lit false).or (h.map _)
  cases min with
  | none =>
    cases max with
    | none => exact .lit false
    | some hi => exact (Column.ReadsCells.lit false).or (h.map _)
  | some lo =>
    cases max with
    | none => exact h_below lo
    | some hi => exact (h_below lo).or (h.map _)

/-- Both conditions of a domain check read the target's cell, whatever the kind of the
check. -/
theorem conditions_readsCells [LinearOrder δ] (rt : Runtime δ) (check : DomainCheck δ)
    (name : String) :
    (check.conditions rt name).1.ReadsCells [name] ∧
      (check.conditions rt name).2.ReadsCells [name] := by
  have h_name : name ∈ [name] := List.mem_singleton_self name
  have h_present := (Column.ReadsCells.isMissing h_name).not
  have h_cell := Column.ReadsCells.cell h_name
  cases check with
  | allowedValues values =>
    exact ⟨.lit false, h_present.and (h_cell.isin rt.spark values).not⟩
  | pattern p =>
    exact ⟨.lit false, h_present.and (h_cell.rlike rt.spark p).not⟩
  | year y format =>
    have h_parsed := Column.ReadsCells.parseColumn rt.spark h_name "TIMESTAMP" format
    have h_miscast := h_present.and h_parsed.isNull
    exact ⟨h_miscast, (h_present.and h_miscast.not).and ((h_parsed.bind _).map _)⟩
  | bounds min max =>
    have h_parsed := Column.ReadsCells.parseColumn rt.spark h_name "DOUBLE" defaultTimestampFormat
    have h_miscast := h_present.and h_parsed.isNull
    exact ⟨h_miscast, (h_present.and h_miscast.not).and (outOfBounds_readsCells min max h_parsed)⟩

/-- `DOMAIN_RANGE` looks at the target's cell only. -/
theorem compileDomainRange_countsCells [LinearOrder δ]
    (h : compileDomainRange rt rule target = .ok cr) : CountsCells cr := by
  obtain ⟨name, _, h⟩ := ok_of_bind h
  obtain ⟨check, _, h⟩ := ok_of_bind h
  cases h
  obtain ⟨h_miscast, h_failed⟩ := conditions_readsCells rt check name
  exact .of_unscoped rfl rfl (.isMissing (List.mem_singleton_self name)) h_miscast h_failed

/-- `CROSS_FIELD_CONSISTENCY` looks at the target and the comparison column. -/
theorem compileCrossField_countsCells [LinearOrder δ]
    (h : compileCrossField rt rule target = .ok cr) : CountsCells cr := by
  obtain ⟨comparison, _, h⟩ := ok_of_bind h
  obtain ⟨name, _, h⟩ := ok_of_bind h
  obtain ⟨other, _, h⟩ := ok_of_bind h
  cases h
  have h_name : name ∈ [name, other] := List.mem_cons_self
  have h_other : other ∈ [name, other] := List.mem_cons_of_mem _ List.mem_cons_self
  have h_missing := (Column.ReadsCells.isMissing h_name).or (.isMissing h_other)
  have h_a := Column.ReadsCells.parseColumn rt.spark h_name comparison.dataType comparison.format
  have h_b := Column.ReadsCells.parseColumn rt.spark h_other comparison.dataType comparison.format
  have h_miscast := h_missing.not.and (h_a.isNull.or h_b.isNull)
  exact .of_unscoped rfl rfl h_missing h_miscast
    ((h_missing.not.and h_miscast.not).and (h_a.compare h_b _).not)

/-- The rejection of a text check is a disjunction of tests of one column. -/
theorem rejected_readsCells (spark : Spark δ) (params : TextQualityParameters)
    {col : Column String} {names : List String} (h : col.ReadsCells names) :
    (params.rejected spark col).ReadsCells names := by
  unfold TextQualityParameters.rejected
  cases params.check with
  | replacementCharacter => exact h.map _
  | controlCharacter => exact h.rlike spark _
  | mojibake => exact h.rlike spark _
  | length =>
    have h_short : ∀ lo : ℕ, ((Column.lit false).or
        (col.map fun s => decide (s.length < lo))).ReadsCells names :=
      fun lo => (Column.ReadsCells.lit false).or (h.map _)
    show (outOfLength params.minLength params.maxLength col).ReadsCells names
    cases params.minLength with
    | none =>
      cases params.maxLength with
      | none => exact .lit false
      | some hi => exact (Column.ReadsCells.lit false).or (h.map _)
    | some lo =>
      cases params.maxLength with
      | none => exact h_short lo
      | some hi => exact (h_short lo).or (h.map _)

/-- `TEXT_QUALITY` looks at the target's cell only. -/
theorem compileTextQuality_countsCells (h : compileTextQuality rt rule target = .ok cr) :
    CountsCells cr := by
  obtain ⟨params, _, h⟩ := ok_of_bind h
  obtain ⟨name, _, h⟩ := ok_of_bind h
  obtain ⟨_, _, h⟩ := ok_of_bind h
  cases h
  have h_missing := Column.ReadsCells.isMissing (List.mem_singleton_self name)
  exact .of_unscoped rfl rfl h_missing (.lit false)
    (h_missing.not.and (rejected_readsCells rt.spark params (.cell (List.mem_singleton_self name))))

/-- A compiled label reads what the label reads. -/
theorem compileLabel_countsCells (name : String) {label : Column CellLabel}
    (h : label.ReadsCells [name]) : CountsCells (compileLabel rule name label) :=
  .of_unscoped rfl rfl (h.map _) (h.map _) (h.map _)

/-- `JSON_ARRAY` looks at the document's cell only. -/
theorem compileJsonArray_countsCells (h : compileJsonArray rt rule target = .ok cr) :
    CountsCells cr := by
  obtain ⟨params, _, h⟩ := ok_of_bind h
  obtain ⟨name, _, h⟩ := ok_of_bind h
  cases h
  exact compileLabel_countsCells name (.udf _ (.cell (List.mem_singleton_self name)))

/-- `SPELLING` looks at the target's cell only. -/
theorem compileSpelling_countsCells (h : compileSpelling rt rule target = .ok cr) :
    CountsCells cr := by
  obtain ⟨params, _, h⟩ := ok_of_bind h
  obtain ⟨bundle, _, h⟩ := ok_of_bind h
  obtain ⟨name, _, h⟩ := ok_of_bind h
  cases h
  have h_label := Column.ReadsCells.udf (spellLabel rt bundle params.acceptedTerms)
    (.cell (List.mem_singleton_self name))
  exact .each rfl (h_label.map _) (h_label.map _) (h_label.map _) (h_label.map _)

/-- Both conditions of a JSON field check read the extracted field. -/
theorem jsonConditions_readsCells (spark : Spark δ) (params : JsonFieldParameters)
    {field : Column JsonField} {names : List String} (h : field.ReadsCells names) :
    (params.conditions spark field).1.ReadsCells names ∧
      (params.conditions spark field).2.ReadsCells names := by
  have h_state : ∀ state, (stateIs field state).ReadsCells names := fun _ => h.map _
  have h_other : ∀ kind, (isOtherKind field kind).ReadsCells names :=
    fun _ => (h_state _).and ((h.bind _).map _)
  have h_text : (field.bind (·.text)).ReadsCells names := h.bind _
  have h_string := (h_state .present).and ((h.bind (·.kind)).map fun k => decide (k = .string))
  unfold JsonFieldParameters.conditions
  cases params.check with
  | type => exact ⟨(h_state _).or (h_other _), .lit false⟩
  | regex => exact ⟨(h_state _).or (h_other _), h_string.and (h_text.rlike _ _).not⟩
  | allowedValues => exact ⟨(h_state _).or (h_other _), h_string.and (h_text.isin _ _).not⟩
  | _ => exact ⟨h_state _, .lit false⟩

/-- `JSON_FIELD` looks at the document's cell only. -/
theorem compileJsonField_countsCells (h : compileJsonField rt rule target = .ok cr) :
    CountsCells cr := by
  obtain ⟨params, _, h⟩ := ok_of_bind h
  obtain ⟨name, _, h⟩ := ok_of_bind h
  by_cases h_range : params.check = .range
  · rw [if_pos h_range] at h
    cases h
    exact compileLabel_countsCells name (.udf _ (.cell (List.mem_singleton_self name)))
  · rw [if_neg h_range] at h
    cases h
    have h_field : (fieldColumn rt params name).ReadsCells [name] :=
      .udf _ (.cell (List.mem_singleton_self name))
    obtain ⟨h_miscast, h_failed⟩ := jsonConditions_readsCells rt.spark params h_field
    exact .of_unscoped rfl rfl (h_field.map _) h_miscast h_failed

/-- The counts of every compiled rule are such counts. -/
theorem compileRule_countsCells [LinearOrder δ] (h : compileRule rt rule = .ok cr) :
    CountsCells cr := by
  simp only [compileRule] at h
  split at h
  case isTrue => cases h
  case isFalse =>
    split at h
    case h_1 => cases h
    case h_2 kind _ =>
      cases kind with
      | nonNull => exact compileNonNull_countsCells h
      | typeParse => exact compileTypeParse_countsCells h
      | domainRange => exact compileDomainRange_countsCells h
      | crossField => exact compileCrossField_countsCells h
      | uniqueness => exact compileUniqueness_countsCells h
      | textQuality => exact compileTextQuality_countsCells h
      | jsonField => exact compileJsonField_countsCells h
      | jsonArray => exact compileJsonArray_countsCells h
      | spelling => exact compileSpelling_countsCells h

end Compilers

/-! ### Row numbers -/

/-- Whatever the order of the rows is, one row of each cell is the first of it. -/
theorem card_first (p : Option String → Bool) (seen cells : List (Option String)) :
    ((cells.zip (rowNumbers seen cells)).countP fun x => p x.1 && decide (x.2 ≤ 1)) =
      ((cells.filter p).toFinset \ seen.toFinset).card := by
  induction cells generalizing seen with
  | nil => simp
  | cons c cells ih =>
    have h_first : (seen.count c + 1 ≤ 1) ↔ c ∉ seen := by
      rw [← List.count_eq_zero]
      omega
    rw [rowNumbers, List.zip_cons_cons, List.countP_cons, ih, List.toFinset_cons]
    by_cases h_p : p c = true
    · rw [List.filter_cons_of_pos h_p, List.toFinset_cons]
      by_cases h_seen : c ∈ seen
      · -- a later row of the cell
        have h_mem : c ∈ seen.toFinset := List.mem_toFinset.mpr h_seen
        rw [Finset.insert_eq_of_mem h_mem, Finset.insert_sdiff_of_mem _ h_mem]
        simp [h_first, h_seen]
      · -- the first one: it is not among those that still come
        have h_new : c ∉ seen.toFinset := fun h => h_seen (List.mem_toFinset.mp h)
        rw [Finset.insert_sdiff_of_notMem _ h_new, Finset.sdiff_insert,
          ← Finset.card_erase_add_one (Finset.mem_insert_self c _), Finset.erase_insert_eq_erase]
        simp [h_first, h_seen, h_p]
    · rw [List.filter_cons_of_neg h_p]
      have h_other : c ∉ (cells.filter p).toFinset := by
        rw [List.mem_toFinset, List.mem_filter]
        exact fun h => h_p h.2
      rw [Finset.sdiff_insert_of_notMem h_other]
      simp [h_p]

/-- The window numbers the cells of its column in the order of the rows. -/
theorem rowNumber_withRowNumber (ruleId : Uuid) (column : String) (rows : List Row) :
    (withRowNumber ruleId column rows).map (·.rowNumber ruleId) =
      rowNumbers [] (rows.map (·.cell column)) := by
  refine List.ext_getElem ?_ fun i h_i h_i' => ?_
  · simp [withRowNumber, length_rowNumbers]
  · simp [withRowNumber]

/-- A window writes the number of its own rule only. -/
theorem rowNumber_withRowNumber_of_ne {ruleId other : Uuid} (h : other ≠ ruleId) (column : String)
    (rows : List Row) :
    (withRowNumber ruleId column rows).map (·.rowNumber other) = rows.map (·.rowNumber other) := by
  refine List.ext_getElem ?_ fun i h_i h_i' => ?_
  · simp [withRowNumber, length_rowNumbers]
  · simp [withRowNumber, Function.update_of_ne h]

/-- The windows of the list are added one after the other. -/
theorem evalRows_cons (cr : CompiledRule) (compiled : List CompiledRule) (rows : List Row) :
    evalRows (cr :: compiled) rows = evalRows compiled (evalRows [cr] rows) := rfl

/-- The windows of other rules leave a rule's number alone. -/
theorem rowNumber_evalRows_of_notMem {compiled : List CompiledRule} {ruleId : Uuid}
    (h : ruleId ∉ compiled.map (·.ruleId)) (rows : List Row) :
    (evalRows compiled rows).map (·.rowNumber ruleId) = rows.map (·.rowNumber ruleId) := by
  induction compiled generalizing rows with
  | nil => rfl
  | cons cr compiled ih =>
    rw [List.map_cons, List.mem_cons, not_or] at h
    rw [evalRows_cons, ih h.2]
    unfold evalRows
    rw [List.foldl_cons, List.foldl_nil]
    split
    · split
      · exact rowNumber_withRowNumber_of_ne h.1 ..
      · rfl
    · rfl

/-- A uniqueness rule finds the row numbers of its column. -/
theorem rowNumber_evalRows {compiled : List CompiledRule} (h_ids : (compiled.map (·.ruleId)).Nodup)
    {cr : CompiledRule} (h_cr : cr ∈ compiled) (h_unique : cr.isUniqueness = true) {column : String}
    (h_column : cr.uniquenessColumn = some column) (rows : List Row) :
    (evalRows compiled rows).map (·.rowNumber cr.ruleId) =
      rowNumbers [] (rows.map (·.cell column)) := by
  induction compiled generalizing rows with
  | nil => cases h_cr
  | cons head compiled ih =>
    rw [List.map_cons, List.nodup_cons] at h_ids
    rw [evalRows_cons]
    rcases List.mem_cons.mp h_cr with rfl | h_tail
    · -- the later rules have other numbers
      rw [rowNumber_evalRows_of_notMem h_ids.1]
      have h_own : evalRows [cr] rows = withRowNumber cr.ruleId column rows := by
        unfold evalRows
        rw [List.foldl_cons, List.foldl_nil, h_column]
        exact if_pos h_unique
      rw [h_own, rowNumber_withRowNumber]
    · -- the earlier rule leaves the cells as they are
      have h_cells : (evalRows [head] rows).map (·.cell column) = rows.map (·.cell column) := by
        have h_all := congrArg (List.map fun cell => cell column) (cells_evalRows [head] rows)
        rwa [List.map_map, List.map_map] at h_all
      rw [ih h_ids.2 h_tail, h_cells]

/-! ### Counts -/

/-- The rows carry the numbers that a uniqueness rule looks at. -/
def Numbered (cr : CompiledRule) (rows : List Row) : Prop :=
  cr.isUniqueness = true → ∀ column, cr.uniquenessColumn = some column →
    rows.map (·.rowNumber cr.ruleId) = rowNumbers [] (rows.map (·.cell column))

/-- Without a window the failed predicate is the compiled expression. -/
theorem isFailed_of_not_unique {cr : CompiledRule} (h : cr.isUniqueness = false) :
    cr.isFailed = cr.failedExpr := by
  unfold CompiledRule.isFailed
  rw [h]
  rfl

/-- With a window a row fails when its value stands in an earlier row. -/
theorem isFailed_of_unique {cr : CompiledRule} (h : cr.isUniqueness = true) :
    cr.isFailed = cr.missingExpr.not.and cr.isRepeated := by
  unfold CompiledRule.isFailed
  rw [h]
  rfl

/-- Without repetition, every condition that is counted reads the columns of the rule. -/
theorem CountsCells.readsCells {cr : CompiledRule} (h : CountsCells cr)
    (h_unique : cr.isUniqueness = false) :
    ∀ b ∈ cr.buckets, b.ReadsCells cr.referencedColumns := by
  cases h with
  | repeated column h_repeated =>
    rw [h_unique] at h_repeated
    cases h_repeated
  | each _ h_na h_missing h_miscast h_failed =>
    rw [← isFailed_of_not_unique h_unique] at h_failed
    have h_present := h_na.not.and h_missing.not
    have h_parsed := h_present.and h_miscast.not
    intro b h_b
    simp only [CompiledRule.buckets, List.mem_cons, List.not_mem_nil, or_false] at h_b
    rcases h_b with rfl | rfl | rfl | rfl | rfl
    · exact h_na
    · exact h_na.not.and h_missing
    · exact h_present.and h_miscast
    · exact h_parsed.and h_failed
    · exact h_parsed.and h_failed.not

section Repeated

variable {cr : CompiledRule} {column : String}

/-- The row is the first of its cell, which is not missing. -/
theorem passedBucket_iff (h_unique : cr.isUniqueness = true) (h_na : cr.isNa = .lit false)
    (h_missing : cr.missingExpr = isMissing column) (h_miscast : cr.miscastExpr = .lit false)
    (row : Row) : cr.passedBucket.value row = some true ↔
      isMissingCell (row.cell column) = false ∧ row.rowNumber cr.ruleId ≤ 1 := by
  unfold CompiledRule.passedBucket
  rw [isFailed_of_unique h_unique, h_na, h_missing, h_miscast]
  simp only [Column.and_value, Column.not_value, Column.lit_value, isMissing_value,
    CompiledRule.isRepeated]
  cases isMissingCell (row.cell column) with
  | true => simp
  | false => simp [not_lt]

/-- The row is a later one of its cell. -/
theorem failedBucket_iff (h_unique : cr.isUniqueness = true) (h_na : cr.isNa = .lit false)
    (h_missing : cr.missingExpr = isMissing column) (h_miscast : cr.miscastExpr = .lit false)
    (row : Row) : cr.failedBucket.value row = some true ↔
      isMissingCell (row.cell column) = false ∧ 1 < row.rowNumber cr.ruleId := by
  unfold CompiledRule.failedBucket
  rw [isFailed_of_unique h_unique, h_na, h_missing, h_miscast]
  simp only [Column.and_value, Column.not_value, Column.lit_value, isMissing_value,
    CompiledRule.isRepeated]
  cases isMissingCell (row.cell column) with
  | true => simp
  | false => simp

/-- As many rows pass as there are cells that are not missing. -/
theorem count_passedBucket (h_unique : cr.isUniqueness = true) (h_na : cr.isNa = .lit false)
    (h_missing : cr.missingExpr = isMissing column) (h_miscast : cr.miscastExpr = .lit false)
    {rows : List Row} (h_numbers : rows.map (·.rowNumber cr.ruleId) =
      rowNumbers [] (rows.map (·.cell column))) :
    cr.passedBucket.count rows =
      ((rows.map (·.cell column)).filter fun c => !isMissingCell c).toFinset.card := by
  have h_pairs : (rows.map fun row => (row.cell column, row.rowNumber cr.ruleId)) =
      (rows.map (·.cell column)).zip (rowNumbers [] (rows.map (·.cell column))) := by
    rw [← h_numbers, List.zip_map']
  calc cr.passedBucket.count rows
      = rows.countP ((fun x : Option String × ℕ => !isMissingCell x.1 && decide (x.2 ≤ 1)) ∘
          fun row => (row.cell column, row.rowNumber cr.ruleId)) := by
        refine List.countP_congr fun row _ => ?_
        rw [decide_eq_true_iff, passedBucket_iff h_unique h_na h_missing h_miscast]
        simp
    _ = ((rows.map (·.cell column)).zip (rowNumbers [] (rows.map (·.cell column)))).countP
          fun x => !isMissingCell x.1 && decide (x.2 ≤ 1) := by
        rw [← List.countP_map, h_pairs]
    _ = ((rows.map (·.cell column)).filter fun c => !isMissingCell c).toFinset.card := by
        have h_first := card_first (fun c => !isMissingCell c) [] (rows.map (·.cell column))
        rwa [List.toFinset_nil, Finset.sdiff_empty] at h_first

/-- The rows that are not missing have passed or failed. -/
theorem count_passed_add_failed (h_unique : cr.isUniqueness = true) (h_na : cr.isNa = .lit false)
    (h_missing : cr.missingExpr = isMissing column) (h_miscast : cr.miscastExpr = .lit false)
    (rows : List Row) :
    cr.passedBucket.count rows + cr.failedBucket.count rows =
      (isMissing column).not.count rows := by
  have h_passed := passedBucket_iff h_unique h_na h_missing h_miscast
  have h_failed := failedBucket_iff h_unique h_na h_missing h_miscast
  rw [Column.count, Column.count, ← countP_or]
  · refine List.countP_congr fun row _ => ?_
    have h_split : row.rowNumber cr.ruleId ≤ 1 ∨ 1 < row.rowNumber cr.ruleId := le_or_gt ..
    rw [Bool.or_eq_true, decide_eq_true_iff, decide_eq_true_iff, decide_eq_true_iff, h_passed,
      h_failed, Column.not_value, isMissing_value, ← and_or_left, and_iff_left h_split]
    cases isMissingCell (row.cell column) <;> simp
  · intro row _ h_row
    rw [decide_eq_true_iff, h_passed] at h_row
    rw [decide_eq_false_iff_not, h_failed]
    exact fun h => absurd h.2 (not_lt.mpr h_row.2)

end Repeated

/-- The counts of a rule are the same in every order of the rows. -/
theorem CountsCells.counts_eq {cr : CompiledRule} (h : CountsCells cr) {rows rows' : List Row}
    (h_rows : (rows.map (·.cell)).Perm (rows'.map (·.cell))) (h_numbers : Numbered cr rows)
    (h_numbers' : Numbered cr rows') : cr.counts rows = cr.counts rows' := by
  -- the five sums decide the counts
  suffices h_buckets : cr.naBucket.count rows = cr.naBucket.count rows' ∧
      cr.missingBucket.count rows = cr.missingBucket.count rows' ∧
      cr.miscastBucket.count rows = cr.miscastBucket.count rows' ∧
      cr.failedBucket.count rows = cr.failedBucket.count rows' ∧
      cr.passedBucket.count rows = cr.passedBucket.count rows' by
    obtain ⟨h_na, h_missing, h_miscast, h_failed, h_passed⟩ := h_buckets
    simp only [CompiledRule.counts, h_na, h_missing, h_miscast, h_failed, h_passed]
  have h_reads := h.readsCells
  cases h with
  | each h_unique =>
    -- without a window each bucket reads its cells
    have h_each : ∀ b ∈ cr.buckets, b.count rows = b.count rows' :=
      fun b h_b => (h_reads h_unique b h_b).count_eq h_rows
    simpa [CompiledRule.buckets] using h_each
  | repeated column h_unique h_column h_na h_missing h_miscast =>
    -- with a window the numbers depend on the order, but as many rows pass as there are values
    have h_column_rows : (rows.map (·.cell column)).Perm (rows'.map (·.cell column)) := by
      have h_map := h_rows.map fun cell => cell column
      rwa [List.map_map, List.map_map] at h_map
    have h_passed : cr.passedBucket.count rows = cr.passedBucket.count rows' := by
      rw [count_passedBucket h_unique h_na h_missing h_miscast (h_numbers h_unique _ h_column),
        count_passedBucket h_unique h_na h_missing h_miscast (h_numbers' h_unique _ h_column),
        List.toFinset_eq_of_perm _ _ (h_column_rows.filter _)]
    -- passed and failed rows are the present ones together, so the failed ones agree too
    have h_sum := count_passed_add_failed h_unique h_na h_missing h_miscast rows
    have h_sum' := count_passed_add_failed h_unique h_na h_missing h_miscast rows'
    have h_own : column ∈ [column] := List.mem_singleton_self column
    have h_present := (Column.ReadsCells.isMissing h_own).not.count_eq h_rows
    have h_na_cells : cr.isNa.ReadsCells [column] := by
      rw [h_na]
      exact .lit false
    have h_missing_cells : cr.missingExpr.ReadsCells [column] := by
      rw [h_missing]
      exact .isMissing h_own
    have h_miscast_cells : cr.miscastExpr.ReadsCells [column] := by
      rw [h_miscast]
      exact .lit false
    refine ⟨h_na_cells.count_eq h_rows, (h_na_cells.not.and h_missing_cells).count_eq h_rows,
      ((h_na_cells.not.and h_missing_cells.not).and h_miscast_cells).count_eq h_rows, ?_, h_passed⟩
    omega

/-! ### Executions -/

/-- The snapshots hold the same rows, in any order. -/
structure Snapshot.SameRows (snapshot snapshot' : Snapshot) : Prop where
  totalRows : snapshot.totalRows = snapshot'.totalRows
  schemaColumns : snapshot.schemaColumns = snapshot'.schemaColumns
  columns : snapshot.data.columns = snapshot'.data.columns
  rows : (snapshot.data.rows.map (·.cell)).Perm (snapshot'.data.rows.map (·.cell))

theorem Snapshot.SameRows.symm {snapshot snapshot' : Snapshot} (h : snapshot.SameRows snapshot') :
    snapshot'.SameRows snapshot :=
  ⟨h.totalRows.symm, h.schemaColumns.symm, h.columns.symm, h.rows.symm⟩

/-- An output without the rows that it shows. -/
def RuleExecutionOutput.withoutEvidence (out : RuleExecutionOutput) : RuleExecutionOutput :=
  { out with evidenceSamples := [] }

section Execution

variable [LinearOrder δ] {rt : Runtime δ} {snapshot snapshot' : Snapshot}

/-- Column checks look at the header, which the order of the rows leaves alone. -/
theorem checkRule_congr (h : snapshot.SameRows snapshot') (rule : QualityRule α) :
    checkRule rt snapshot rule = checkRule rt snapshot' rule := by
  unfold checkRule isStructuralMismatch Snapshot.structuredColumns
  rw [h.columns, h.schemaColumns]

/-- Rules are compiled one by one, so permuted rules compile to permuted results. -/
theorem measuredRules_congr (h : snapshot.SameRows snapshot') {rules rules' : List (QualityRule α)}
    (h_rules : rules.Perm rules') :
    (measuredRules rt snapshot rules).Perm (measuredRules rt snapshot' rules') := by
  have h_same : measuredRules rt snapshot rules = measuredRules rt snapshot' rules :=
    List.filterMap_congr fun r _ => congrArg Except.toOption (checkRule_congr h r)
  rw [h_same]
  exact h_rules.filterMap _

/-- The query raises over the rows in every order or in none. -/
theorem noneRaises_congr (h : snapshot.SameRows snapshot') {rules rules' : List (QualityRule α)}
    (h_rules : rules.Perm rules') (h_quiet : NoneRaises rt snapshot rules) :
    NoneRaises rt snapshot' rules' := by
  intro r h_r cr h_passes
  rw [← checkRule_ok_iff, ← checkRule_congr h, checkRule_ok_iff] at h_passes
  obtain ⟨h_start, h_cells⟩ := h_quiet r (h_rules.mem_iff.mpr h_r) cr h_passes
  refine ⟨h_start, fun row h_row => ?_⟩
  have h_mem : row.cell ∈ snapshot.data.rows.map (·.cell) :=
    h.rows.mem_iff.mpr (List.mem_map_of_mem h_row)
  obtain ⟨row', h_row', h_cell⟩ := List.mem_map.mp h_mem
  rw [← h_cell]
  exact h_cells row' h_row'

/-- A compiled rule keeps the id of its rule. -/
theorem ruleId_of_compileRule {rule : QualityRule α} {cr : CompiledRule}
    (h : compileRule rt rule = .ok cr) : cr.ruleId = rule.ruleId :=
  (compileRule_behaves h).ruleId_eq

/-- Rules with distinct ids compile to rules with distinct ids. -/
theorem nodup_measuredRules {rules : List (QualityRule α)} (h_ids : (rules.map (·.ruleId)).Nodup) :
    ((measuredRules rt snapshot rules).map (·.ruleId)).Nodup := by
  refine h_ids.sublist ?_
  unfold measuredRules
  induction rules with
  | nil => exact List.Sublist.refl _
  | cons r rules ih =>
    have h_tail := ih (List.nodup_cons.mp h_ids).2
    cases h_check : checkRule rt snapshot r with
    | error message =>
      rw [List.filterMap_cons_none (by rw [h_check]; rfl)]
      exact h_tail.cons _
    | ok cr =>
      rw [List.filterMap_cons_some (b := cr) (by rw [h_check]; rfl), List.map_cons, List.map_cons,
        ruleId_of_compileRule (checkRule_ok_iff.mp h_check).compiles]
      exact h_tail.cons_cons _

/-- As the ids are distinct, each window of the shared query numbers the rows for its own
rule. -/
theorem numbered_of_measured {rules : List (QualityRule α)} (h_ids : (rules.map (·.ruleId)).Nodup)
    {cr : CompiledRule} (h_cr : cr ∈ measuredRules rt snapshot rules) :
    Numbered cr (queryRows rt snapshot rules) := by
  intro h_unique column h_column
  rw [queryRows, rowNumber_evalRows (nodup_measuredRules h_ids) h_cr h_unique h_column]
  have h_cells := congrArg (List.map fun cell => cell column)
    (cells_evalRows (measuredRules rt snapshot rules) snapshot.data.rows)
  rw [List.map_map, List.map_map] at h_cells
  exact congrArg (rowNumbers []) h_cells.symm

/-- The output of one rule, evidence apart, is a function of the multiset of the rows. -/
theorem ruleOutput_sameRows (h : snapshot.SameRows snapshot') {rules rules' : List (QualityRule α)}
    (h_rules : rules.Perm rules') (h_ids : (rules.map (·.ruleId)).Nodup) {rule : QualityRule α}
    (h_rule : rule ∈ rules) (sampleLimit sampleLimit' : ℕ) :
    (ruleOutput rt snapshot sampleLimit (queryRows rt snapshot rules) rule).withoutEvidence =
      (ruleOutput rt snapshot' sampleLimit'
        (queryRows rt snapshot' rules') rule).withoutEvidence := by
  unfold ruleOutput
  rw [← checkRule_congr h]
  cases h_check : checkRule rt snapshot rule with
  | error message => rfl
  | ok cr =>
    have h_measured : cr ∈ measuredRules rt snapshot rules :=
      List.mem_filterMap.mpr ⟨rule, h_rule, by rw [h_check]; rfl⟩
    have h_measured' : cr ∈ measuredRules rt snapshot' rules' :=
      (measuredRules_congr h h_rules).mem_iff.mp h_measured
    have h_ids' : (rules'.map (·.ruleId)).Nodup := (h_rules.map _).nodup_iff.mp h_ids
    have h_rows : ((queryRows rt snapshot rules).map (·.cell)).Perm
        ((queryRows rt snapshot' rules').map (·.cell)) := by
      rw [queryRows, queryRows, cells_evalRows, cells_evalRows]
      exact h.rows
    have h_counts := (compileRule_countsCells (checkRule_ok_iff.mp h_check).compiles).counts_eq
      h_rows (numbered_of_measured h_ids h_measured) (numbered_of_measured h_ids' h_measured')
    dsimp only
    simp only [CompiledRule.output, RuleExecutionOutput.withoutEvidence, h_counts, h.totalRows]

/-- **The order of the rows**, and that of the rules: in another one the query raises again, or
every rule has the same output up to the evidence. -/
theorem executeRules_sameRows (h : snapshot.SameRows snapshot')
    {rules rules' : List (QualityRule α)}
    (h_rules : rules.Perm rules') (h_ids : (rules.map (·.ruleId)).Nodup) {sampleLimit : ℕ}
    (sampleLimit' : ℕ) {outputs : List RuleExecutionOutput}
    (h_run : executeRules rt snapshot rules sampleLimit = .ok outputs) :
    ∃ outputs' output, executeRules rt snapshot' rules' sampleLimit' = .ok outputs' ∧
      (∀ r ∈ rules, (output r).ruleId = r.ruleId) ∧
      outputs.map (·.withoutEvidence) = rules.map output ∧
      outputs'.map (·.withoutEvidence) = rules'.map output := by
  by_cases h_empty : snapshot.totalRows = 0
  · -- without rows no rule is measured, in either order
    rw [executeRules_of_noRows h_empty] at h_run
    cases h_run
    have h_empty' : snapshot'.totalRows = 0 := h.totalRows ▸ h_empty
    refine ⟨_, fun r => { ruleId := r.ruleId, counts := {}, status := .notMeasurable },
      executeRules_of_noRows h_empty', fun _ _ => rfl, ?_, ?_⟩
    · rw [List.map_map]
      rfl
    · rw [List.map_map]
      rfl
  have h_some : snapshot'.totalRows ≠ 0 := h.totalRows ▸ h_empty
  have h_ids' : (rules'.map (·.ruleId)).Nodup := (h_rules.map _).nodup_iff.mp h_ids
  rw [executeRules_eq h_empty h_ids] at h_run
  -- the queries raise together
  cases h_fault : queryFault (measuredRules rt snapshot rules)
      (evalRows (measuredRules rt snapshot rules) snapshot.data.rows) with
  | some fault =>
    rw [h_fault] at h_run
    cases h_run
  | none =>
    rw [h_fault] at h_run
    cases h_run
    -- where nothing raises the outputs are those of the rules, one by one
    have h_quiet := noneRaises_congr h h_rules (queryFault_eq_none.mp h_fault)
    rw [executeRules_eq h_some h_ids', queryFault_eq_none.mpr h_quiet]
    refine ⟨_, fun r => (ruleOutput rt snapshot sampleLimit
      (queryRows rt snapshot rules) r).withoutEvidence, rfl, ?_, ?_, ?_⟩
    · exact fun r _ => ruleOutput_ruleId sampleLimit _ r
    · rw [List.map_map]
      rfl
    · rw [List.map_map]
      refine List.map_congr_left fun r h_r => ?_
      exact (ruleOutput_sameRows h h_rules h_ids (h_rules.mem_iff.mpr h_r) sampleLimit
        sampleLimit').symm

end Execution

end DqScoring
