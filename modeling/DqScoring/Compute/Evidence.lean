import DqScoring.Compute.Partition

/-!
# The evidence of a rule

The rows that are shown for a rule are selected by another condition than those that are summed:
`miscast | failed`, without the guards before them. That the two agree is a property of what the
compilers build. Each later condition of a rule is `Behind` each earlier one: where the earlier one
holds, the later one is false and is not evaluated. So the evidence query does not fail where the
first query did not, and the rows it finds are those that were counted (`evidenceCondition_iff`).
-/

namespace DqScoring

open Framework Framework.Kleene

variable {α δ : Type}

/-! ### Conditions behind a guard -/

/-- Where the guard holds, the condition is false and does not fail; the condition holds only where
the guard is false. -/
structure Behind (g c : Column Bool) : Prop where
  value : ∀ {row}, g.value row = some true → c.value row = some false
  fault : ∀ {row}, g.fault row = none → g.value row = some true → c.fault row = none
  guard : ∀ {row}, c.value row = some true → g.value row = some false

namespace Behind

variable {g a b : Column Bool}

theorem lit_false : Behind g (.lit false) where
  value := fun _ => rfl
  fault := fun _ _ => rfl
  guard := fun h => by cases h

theorem of_lit_false : Behind (.lit false) a where
  value := fun h => by cases h
  fault := fun _ h => by cases h
  guard := fun _ => rfl

/-- What is guarded by the negation of a condition is false where the condition holds. -/
theorem not_and (x : Column Bool) : Behind g (g.not.and x) where
  value := fun {row} h => by
    show and3 (not3 (g.value row)) _ = _
    rw [h]
    exact false_and3 _
  fault := fun {row} h_fault h => by
    show (g.fault row).or (if not3 (g.value row) = some false then none else x.fault row) = none
    rw [h_fault, h]
    rfl
  guard := fun h => not3_eq_true_iff.mp (and3_eq_true_iff.mp h).1

/-- A conjunction is behind whatever its first part is behind. -/
theorem and (h : Behind g a) (x : Column Bool) : Behind g (a.and x) where
  value := fun {row} h_g => by
    show and3 (a.value row) _ = _
    rw [h.value h_g]
    exact false_and3 _
  fault := fun {row} h_fault h_g => by
    show (a.fault row).or (if a.value row = some false then none else x.fault row) = none
    rw [h.fault h_fault h_g, if_pos (h.value h_g)]
    rfl
  guard := fun h_c => h.guard (and3_eq_true_iff.mp h_c).1

/-- A disjunction is behind what both of its parts are behind. -/
theorem or (h_a : Behind g a) (h_b : Behind g b) : Behind g (a.or b) where
  value := fun {row} h_g => by
    show or3 (a.value row) (b.value row) = _
    rw [h_a.value h_g, h_b.value h_g]
    rfl
  fault := fun {row} h_fault h_g => by
    show (a.fault row).or (if a.value row = some true then none else b.fault row) = none
    rw [h_a.fault h_fault h_g, h_b.fault h_fault h_g, ite_self]
    rfl
  guard := fun h_c => by
    rcases or3_eq_true_iff.mp h_c with h | h
    · exact h_a.guard h
    · exact h_b.guard h

/-- Where a guarded predicate holds, its complement under the same guard is false. -/
theorem value_not_and_not {p : Column Bool} {row : Row} (h : (g.not.and p).value row = some true) :
    (g.not.and (g.not.and p).not).value row = some false := by
  show and3 (not3 (g.value row)) (not3 ((g.not.and p).value row)) = _
  rw [h]
  cases g.value row with
  | none => rfl
  | some b => cases b <;> rfl

/-- A condition behind a guard and behind what is itself behind this guard. -/
theorem not_and_not (p x : Column Bool) :
    Behind (g.not.and p) ((g.not.and (g.not.and p).not).and x) where
  value := fun {row} h => by
    show and3 ((g.not.and (g.not.and p).not).value row) _ = _
    rw [value_not_and_not h]
    exact false_and3 _
  fault := fun {row} h_fault h => by
    have h_guard : g.fault row = none := (Option.or_eq_none_iff.mp h_fault).1
    have h_both : (g.not.and (g.not.and p).not).fault row = none := by
      show (g.fault row).or (if not3 (g.value row) = some false then none
        else (g.not.and p).fault row) = none
      rw [h_guard, h_fault, ite_self]
      rfl
    show ((g.not.and (g.not.and p).not).fault row).or
      (if (g.not.and (g.not.and p).not).value row = some false then none else x.fault row) = none
    rw [h_both, if_pos (value_not_and_not h)]
    rfl
  guard := fun h => not3_eq_true_iff.mp (and3_eq_true_iff.mp (and3_eq_true_iff.mp h).1).2

/-- Two labels of one cell. -/
theorem label {c : Column CellLabel} {l l' : CellLabel} (h_ne : l ≠ l') :
    Behind (c.map fun m => decide (m = l)) (c.map fun m => decide (m = l')) where
  value := fun {row} h => by
    obtain ⟨m, h_m, h_l⟩ := Option.map_eq_some_iff.mp h
    obtain rfl := of_decide_eq_true h_l
    show (c.value row).map _ = _
    rw [h_m, Option.map_some, decide_eq_false h_ne]
  fault := fun h_fault _ => h_fault
  guard := fun {row} h => by
    obtain ⟨m, h_m, h_l⟩ := Option.map_eq_some_iff.mp h
    obtain rfl := of_decide_eq_true h_l
    show (c.value row).map _ = _
    rw [h_m, Option.map_some, decide_eq_false h_ne.symm]

/-- Two states of one field. -/
theorem state {field : Column JsonField} {state state' : FieldState} (h_ne : state ≠ state') :
    Behind (stateIs field state) (stateIs field state') where
  value := fun {row} h => by
    obtain ⟨f, h_f, h_state⟩ := Option.map_eq_some_iff.mp h
    obtain rfl := of_decide_eq_true h_state
    show (field.value row).map _ = _
    rw [h_f, Option.map_some, decide_eq_false h_ne]
  fault := fun h_fault _ => h_fault
  guard := fun {row} h => by
    obtain ⟨f, h_f, h_state⟩ := Option.map_eq_some_iff.mp h
    obtain rfl := of_decide_eq_true h_state
    show (field.value row).map _ = _
    rw [h_f, Option.map_some, decide_eq_false h_ne.symm]

end Behind

/-! ### The conditions of a compiled rule -/

/-- Each condition of a rule is behind the earlier ones. -/
structure Exclusive (cr : CompiledRule) : Prop where
  na_miscast : Behind cr.isNa cr.miscastExpr
  na_failed : Behind cr.isNa cr.isFailed
  missing_miscast : Behind cr.missingExpr cr.miscastExpr
  missing_failed : Behind cr.missingExpr cr.isFailed
  miscast_failed : Behind cr.miscastExpr cr.isFailed
  uniqueness : cr.isUniqueness = true → cr.miscastExpr = .lit false

/-- Rules without a scope. -/
theorem Exclusive.of_guarded {cr : CompiledRule} (h_scope : cr.scopeExpr = none)
    (h_miscast : Behind cr.missingExpr cr.miscastExpr)
    (h_failed : Behind cr.missingExpr cr.isFailed)
    (h_both : Behind cr.miscastExpr cr.isFailed)
    (h_unique : cr.isUniqueness = true → cr.miscastExpr = .lit false) : Exclusive cr := by
  have h_na : cr.isNa = .lit false := by
    unfold CompiledRule.isNa
    rw [h_scope]
    rfl
  refine ⟨?_, ?_, h_miscast, h_failed, h_both, h_unique⟩
  · rw [h_na]
    exact .of_lit_false
  · rw [h_na]
    exact .of_lit_false

section Compilers

variable {rt : Runtime δ} {rule : QualityRule α} {target : PyValue}
  {cr : CompiledRule}

/-- The buckets of a `NON_NULL` rule exclude each other. -/
theorem compileNonNull_exclusive (h : compileNonNull rule target = .ok cr) : Exclusive cr := by
  obtain ⟨name, _, h⟩ := ok_of_bind h
  cases h
  exact .of_guarded rfl .lit_false .lit_false .lit_false fun _ => rfl

/-- The buckets of a `UNIQUENESS` rule exclude each other. -/
theorem compileUniqueness_exclusive (h : compileUniqueness rule target = .ok cr) :
    Exclusive cr := by
  obtain ⟨name, _, h⟩ := ok_of_bind h
  cases h
  exact .of_guarded rfl .lit_false (.not_and _) .of_lit_false fun _ => rfl

/-- The buckets of a `TYPE_PARSE` rule exclude each other. -/
theorem compileTypeParse_exclusive (h : compileTypeParse rt rule target = .ok cr) :
    Exclusive cr := by
  obtain ⟨name, _, h⟩ := ok_of_bind h
  cases h
  exact .of_guarded rfl (.not_and _) .lit_false .lit_false fun h => by cases h

/-- A domain check fails only what it can parse, and looks only at cells that are present.
-/
theorem conditions_exclusive [LinearOrder δ] (rt : Runtime δ) (check : DomainCheck δ)
    (name : String) :
    Behind (isMissing name) (check.conditions rt name).1 ∧
      Behind (isMissing name) (check.conditions rt name).2 ∧
      Behind (check.conditions rt name).1 (check.conditions rt name).2 := by
  cases check with
  | allowedValues values => exact ⟨.lit_false, .not_and _, .of_lit_false⟩
  | pattern p => exact ⟨.lit_false, .not_and _, .of_lit_false⟩
  | year y format => exact ⟨.not_and _, (Behind.not_and _).and _, .not_and_not _ _⟩
  | bounds min max => exact ⟨.not_and _, (Behind.not_and _).and _, .not_and_not _ _⟩

/-- The buckets of a `DOMAIN_RANGE` rule exclude each other. -/
theorem compileDomainRange_exclusive [LinearOrder δ]
    (h : compileDomainRange rt rule target = .ok cr) :
    Exclusive cr := by
  obtain ⟨name, _, h⟩ := ok_of_bind h
  obtain ⟨check, _, h⟩ := ok_of_bind h
  cases h
  obtain ⟨h_miscast, h_failed, h_both⟩ := conditions_exclusive rt check name
  exact .of_guarded rfl h_miscast h_failed h_both fun h => by cases h

/-- The buckets of a `CROSS_FIELD_CONSISTENCY` rule exclude each other. -/
theorem compileCrossField_exclusive [LinearOrder δ]
    (h : compileCrossField rt rule target = .ok cr) :
    Exclusive cr := by
  obtain ⟨comparison, _, h⟩ := ok_of_bind h
  obtain ⟨name, _, h⟩ := ok_of_bind h
  obtain ⟨other, _, h⟩ := ok_of_bind h
  cases h
  exact .of_guarded rfl (.not_and _) ((Behind.not_and _).and _) (.not_and_not _ _)
    fun h => by cases h

/-- The buckets of a `TEXT_QUALITY` rule exclude each other. -/
theorem compileTextQuality_exclusive (h : compileTextQuality rt rule target = .ok cr) :
    Exclusive cr := by
  obtain ⟨params, _, h⟩ := ok_of_bind h
  obtain ⟨name, _, h⟩ := ok_of_bind h
  obtain ⟨_, _, h⟩ := ok_of_bind h
  cases h
  exact .of_guarded rfl .lit_false (.not_and _) .of_lit_false fun h => by cases h

/-- A cell has one label, so the buckets of a labelling rule exclude each other. -/
theorem compileLabel_exclusive (name : String) (label : Column CellLabel) :
    Exclusive (compileLabel rule name label) :=
  .of_guarded rfl (.label (by decide)) (.label (by decide)) (.label (by decide)) fun h => by cases h

/-- The buckets of a `JSON_ARRAY` rule exclude each other. -/
theorem compileJsonArray_exclusive (h : compileJsonArray rt rule target = .ok cr) :
    Exclusive cr := by
  obtain ⟨params, _, h⟩ := ok_of_bind h
  obtain ⟨name, _, h⟩ := ok_of_bind h
  cases h
  exact compileLabel_exclusive name _

/-- The buckets of a `SPELLING` rule exclude each other. -/
theorem compileSpelling_exclusive (h : compileSpelling rt rule target = .ok cr) :
    Exclusive cr := by
  obtain ⟨params, _, h⟩ := ok_of_bind h
  obtain ⟨bundle, _, h⟩ := ok_of_bind h
  obtain ⟨name, _, h⟩ := ok_of_bind h
  cases h
  exact ⟨.label (by decide), .label (by decide), .label (by decide), .label (by decide),
    .label (by decide), fun h => by cases h⟩

/-- A field that is not a string, and a text that does not match. -/
theorem mismatched_behind (field : Column JsonField) (isMatch : Column String → Column Bool) :
    Behind ((stateIs field .miscast).or (isOtherKind field .string))
      (mismatched field isMatch) := by
  -- the field is a string where the text is looked at
  have h_value : ∀ {row},
      ((stateIs field .miscast).or (isOtherKind field .string)).value row = some true →
      ((stateIs field .present).and
        ((field.bind (·.kind)).map fun k => decide (k = JsonKind.string))).value row =
          some false := by
    intro row h
    show and3 ((field.value row).map _) (((field.value row).bind _).map _) = _
    rcases or3_eq_true_iff.mp h with h | h
    · -- the guard is a miscast field, which is not present
      obtain ⟨f, h_f, h_state⟩ := Option.map_eq_some_iff.mp h
      rw [h_f, Option.map_some, of_decide_eq_true h_state]
      exact false_and3 _
    · -- the guard is a present field that is no string
      obtain ⟨h_state, h_kind⟩ := and3_eq_true_iff.mp h
      obtain ⟨k, h_k, h_ne⟩ := Option.map_eq_some_iff.mp h_kind
      obtain ⟨f, h_f, h_present⟩ := Option.map_eq_some_iff.mp h_state
      have h_bind : (field.value row).bind (·.kind) = some k := h_k
      rw [h_bind, h_f, Option.map_some, Option.map_some, h_present,
        decide_eq_false (of_decide_eq_true h_ne)]
      rfl
  refine ⟨fun {row} h => ?_, fun {row} h_fault h => ?_, fun {row} h => ?_⟩
  · -- the mismatch is false behind its guard
    show and3 (((stateIs field .present).and _).value row) _ = _
    rw [h_value h]
    exact false_and3 _
  · -- the text is not looked at where the guard already holds
    have h_field : field.fault row = none := (Option.or_eq_none_iff.mp h_fault).1
    have h_string : ((stateIs field .present).and
        ((field.bind (·.kind)).map fun k => decide (k = JsonKind.string))).fault row = none := by
      show (field.fault row).or (if _ then none else field.fault row) = none
      rw [h_field, ite_self]
      rfl
    show (((stateIs field .present).and _).fault row).or (if _ then none else _) = none
    rw [h_string, if_pos (h_value h)]
    rfl
  · -- where the mismatch holds the field is a string, so the guard is false
    obtain ⟨h_state, h_kind⟩ := and3_eq_true_iff.mp (and3_eq_true_iff.mp h).1
    obtain ⟨f, h_f, h_present⟩ := Option.map_eq_some_iff.mp h_state
    obtain ⟨k, h_k, h_string⟩ := Option.map_eq_some_iff.mp h_kind
    have h_bind : (field.value row).bind (·.kind) = some k := h_k
    show or3 ((field.value row).map _) (and3 ((field.value row).map _)
      (((field.value row).bind _).map _)) = _
    rw [h_bind, h_f, Option.map_some, Option.map_some, Option.map_some,
      of_decide_eq_true h_present, of_decide_eq_true h_string]
    rfl

/-- A field check fails only what it does not call a mismatch, and looks only at fields that
are there. -/
theorem jsonConditions_behind (rt : Runtime δ) (params : JsonFieldParameters)
    (field : Column JsonField) :
    Behind (stateIs field .missing) (params.conditions rt.spark field).1 ∧
      Behind (stateIs field .missing) (params.conditions rt.spark field).2 ∧
      Behind (params.conditions rt.spark field).1 (params.conditions rt.spark field).2 := by
  have h_miscast : Behind (stateIs field .missing) (stateIs field .miscast) := .state (by decide)
  have h_present : Behind (stateIs field .missing) (stateIs field .present) := .state (by decide)
  unfold JsonFieldParameters.conditions
  cases params.check with
  | type => exact ⟨h_miscast.or (h_present.and _), .lit_false, .lit_false⟩
  | regex =>
    exact ⟨h_miscast.or (h_present.and _), (h_present.and _).and _, mismatched_behind ..⟩
  | allowedValues =>
    exact ⟨h_miscast.or (h_present.and _), (h_present.and _).and _, mismatched_behind ..⟩
  | _ => exact ⟨h_miscast, .lit_false, .lit_false⟩

/-- The buckets of a `JSON_FIELD` rule exclude each other. -/
theorem compileJsonField_exclusive (h : compileJsonField rt rule target = .ok cr) :
    Exclusive cr := by
  obtain ⟨params, _, h⟩ := ok_of_bind h
  obtain ⟨name, _, h⟩ := ok_of_bind h
  by_cases h_range : params.check = .range
  · rw [if_pos h_range] at h
    cases h
    exact compileLabel_exclusive name _
  · rw [if_neg h_range] at h
    cases h
    obtain ⟨h_miscast, h_failed, h_both⟩ :=
      jsonConditions_behind rt params (fieldColumn rt params name)
    exact .of_guarded rfl h_miscast h_failed h_both fun h => by cases h

/-- The conditions of every compiled rule exclude each other. -/
theorem compileRule_exclusive [LinearOrder δ] (h : compileRule rt rule = .ok cr) :
    Exclusive cr := by
  simp only [compileRule] at h
  split at h
  case isTrue => cases h
  case isFalse =>
    split at h
    case h_1 => cases h
    case h_2 kind _ =>
      cases kind with
      | nonNull => exact compileNonNull_exclusive h
      | typeParse => exact compileTypeParse_exclusive h
      | domainRange => exact compileDomainRange_exclusive h
      | crossField => exact compileCrossField_exclusive h
      | uniqueness => exact compileUniqueness_exclusive h
      | textQuality => exact compileTextQuality_exclusive h
      | jsonField => exact compileJsonField_exclusive h
      | jsonArray => exact compileJsonArray_exclusive h
      | spelling => exact compileSpelling_exclusive h

end Compilers

/-! ### The rows of the evidence -/

/-- The row is counted as miscast or as failed. -/
def IsViolation (cr : CompiledRule) (row : Row) : Prop :=
  cr.miscastBucket.value row = some true ∨ cr.failedBucket.value row = some true

instance (cr : CompiledRule) (row : Row) : Decidable (IsViolation cr row) :=
  inferInstanceAs (Decidable (_ ∨ _))

namespace Exclusive

variable {cr : CompiledRule}

/-- As the buckets exclude each other, the guard of the miscast bucket changes nothing. -/
theorem miscastBucket_iff (h : Exclusive cr) (row : Row) :
    cr.miscastBucket.value row = some true ↔ cr.miscastExpr.value row = some true := by
  show and3 (and3 (not3 _) (not3 _)) _ = _ ↔ _
  rw [and3_eq_true_iff, and3_eq_true_iff, not3_eq_true_iff, not3_eq_true_iff]
  exact ⟨fun h_c => h_c.2, fun h_c => ⟨⟨h.na_miscast.guard h_c, h.missing_miscast.guard h_c⟩, h_c⟩⟩

/-- As the buckets exclude each other, the guards of the failed bucket change nothing. -/
theorem failedBucket_iff (h : Exclusive cr) (row : Row) :
    cr.failedBucket.value row = some true ↔ cr.isFailed.value row = some true := by
  show and3 (and3 (and3 (not3 _) (not3 _)) (not3 _)) _ = _ ↔ _
  rw [and3_eq_true_iff, and3_eq_true_iff, and3_eq_true_iff, not3_eq_true_iff, not3_eq_true_iff,
    not3_eq_true_iff]
  exact ⟨fun h_c => h_c.2, fun h_c => ⟨⟨⟨h.na_failed.guard h_c, h.missing_failed.guard h_c⟩,
    h.miscast_failed.guard h_c⟩, h_c⟩⟩

/-- No row is counted twice. -/
theorem not_both (h : Exclusive cr) (row : Row)
    (h_miscast : cr.miscastBucket.value row = some true) :
    cr.failedBucket.value row ≠ some true := by
  intro h_failed
  have h_false := h.miscast_failed.guard ((h.failedBucket_iff row).mp h_failed)
  rw [(h.miscastBucket_iff row).mp h_miscast] at h_false
  cases h_false

/-- A rule with a window shows the repeated values. -/
theorem evidenceCondition_of_unique (h : cr.isUniqueness = true) :
    cr.evidenceCondition = cr.isFailed := by
  unfold CompiledRule.evidenceCondition CompiledRule.isFailed
  rw [h]
  rfl

/-- Any other rule shows what it counts as miscast or failed. -/
theorem evidenceCondition_of_not_unique (h : cr.isUniqueness = false) :
    cr.evidenceCondition = cr.miscastExpr.or cr.isFailed := by
  unfold CompiledRule.evidenceCondition CompiledRule.isFailed
  rw [h]
  rfl

/-- The rows that are shown are those that were counted. -/
theorem evidenceCondition_iff (h : Exclusive cr) (row : Row) :
    cr.evidenceCondition.value row = some true ↔ IsViolation cr row := by
  rw [IsViolation, h.miscastBucket_iff, h.failedBucket_iff]
  cases h_unique : cr.isUniqueness with
  | true =>
    rw [evidenceCondition_of_unique h_unique, h.uniqueness h_unique]
    constructor
    · exact Or.inr
    · rintro (h_miscast | h_failed)
      · cases h_miscast
      · exact h_failed
  | false =>
    rw [evidenceCondition_of_not_unique h_unique]
    exact or3_eq_true_iff

/-- Where the counting cascade raised nothing, the evidence query raises nothing either. -/
theorem fault_of_quiet (h : Exclusive cr) {row : Row}
    (h_quiet : Column.cascadeFault cr.guards row = none) :
    cr.miscastExpr.fault row = none ∧
      (cr.miscastExpr.value row ≠ some true → cr.isFailed.fault row = none) := by
  -- the cascade is followed up to the first guard that holds
  obtain ⟨h_na, h_rest⟩ := Option.or_eq_none_iff.mp h_quiet
  by_cases h_na_true : cr.isNa.value row = some true
  · exact ⟨h.na_miscast.fault h_na h_na_true, fun _ => h.na_failed.fault h_na h_na_true⟩
  rw [if_neg h_na_true] at h_rest
  obtain ⟨h_missing, h_rest⟩ := Option.or_eq_none_iff.mp h_rest
  by_cases h_missing_true : cr.missingExpr.value row = some true
  · exact ⟨h.missing_miscast.fault h_missing h_missing_true,
      fun _ => h.missing_failed.fault h_missing h_missing_true⟩
  rw [if_neg h_missing_true] at h_rest
  obtain ⟨h_miscast, h_rest⟩ := Option.or_eq_none_iff.mp h_rest
  refine ⟨h_miscast, fun h_false => ?_⟩
  rw [if_neg h_false] at h_rest
  exact (Option.or_eq_none_iff.mp h_rest).1

/-- The evidence query does not fail where the first query did not. -/
theorem raises_evidenceCondition (h : Exclusive cr) {rows : List Row}
    (h_quiet : (Column.cascade cr.guards).findSome? (·.raises rows) = none) :
    cr.evidenceCondition.raises rows = none := by
  obtain ⟨h_start, h_rows⟩ := (Column.raises_cascade cr.guards rows).mp h_quiet
  have h_miscast : cr.miscastExpr.start = none := h_start _ (by simp [CompiledRule.guards])
  have h_failed : cr.isFailed.start = none := h_start _ (by simp [CompiledRule.guards])
  rw [Column.raises_eq_none]
  cases h_unique : cr.isUniqueness with
  | true =>
    rw [evidenceCondition_of_unique h_unique]
    refine ⟨h_failed, fun row h_row => (h.fault_of_quiet (h_rows row h_row)).2 ?_⟩
    rw [h.uniqueness h_unique]
    exact fun h_true => by cases h_true
  | false =>
    rw [evidenceCondition_of_not_unique h_unique]
    refine ⟨Option.or_eq_none_iff.mpr ⟨h_miscast, h_failed⟩, fun row h_row => ?_⟩
    obtain ⟨h_fault, h_other⟩ := h.fault_of_quiet (h_rows row h_row)
    refine Option.or_eq_none_iff.mpr ⟨h_fault, ?_⟩
    by_cases h_true : cr.miscastExpr.value row = some true
    · rw [if_pos h_true]
    · rw [if_neg h_true]
      exact h_other h_true

/-- As many rows are violations as were counted. -/
theorem length_violations (h : Exclusive cr) (rows : List Row) :
    (rows.filter fun row => IsViolation cr row).length =
      cr.miscastBucket.count rows + cr.failedBucket.count rows := by
  rw [← List.countP_eq_length_filter, Column.count, Column.count, ← countP_or]
  · refine List.countP_congr fun row _ => ?_
    rw [decide_eq_true_iff, Bool.or_eq_true, decide_eq_true_iff, decide_eq_true_iff]
    exact Iff.rfl
  · intro row _ h_miscast
    exact decide_eq_false (h.not_both row (of_decide_eq_true h_miscast))

end Exclusive

/-! ### What is shown -/

/-- The evidence is the first counted rows, each shown by the masked columns of the rule. -/
theorem evidenceSamples_eq {cr : CompiledRule} (h : Exclusive cr) (sampleLimit : ℕ)
    {rows : List Row} (h_quiet : (Column.cascade cr.guards).findSome? (·.raises rows) = none) :
    cr.evidenceSamples sampleLimit rows =
      ((rows.filter fun row => IsViolation cr row).take sampleLimit).map fun row =>
        cr.referencedColumns.dedup.map fun c => (c, CompiledRule.maskedCell (row.cell c)) := by
  have h_filter : (rows.filter fun row => cr.evidenceCondition.value row = some true) =
      rows.filter fun row => IsViolation cr row := by
    refine List.filter_congr fun row _ => ?_
    rw [decide_eq_decide]
    exact h.evidenceCondition_iff row
  rw [CompiledRule.evidenceSamples, h.raises_evidenceCondition h_quiet, h_filter]
  rfl

/-- The output shows what the rule counted: as many rows are violations as it says, and the evidence
is the first of these rows, with the columns of the rule, and of each cell only whether it is NULL
or blank. -/
structure ShowsViolations (cr : CompiledRule) (rows : List Row) (sampleLimit : ℕ)
    (o : RuleExecutionOutput) : Prop where
  counted : (rows.filter fun row => IsViolation cr row).length = o.counts.failed + o.counts.miscast
  samples : o.evidenceSamples =
    ((rows.filter fun row => IsViolation cr row).take sampleLimit).map fun row =>
      cr.referencedColumns.dedup.map fun c => (c, CompiledRule.maskedCell (row.cell c))

/-- The output counts no violation and shows nothing. -/
structure ShowsNothing (o : RuleExecutionOutput) : Prop where
  failed : o.counts.failed = 0
  miscast : o.counts.miscast = 0
  samples : o.evidenceSamples = []

section

variable [LinearOrder δ] {rt : Runtime δ} {snapshot : Snapshot}

/-- What the output of a rule shows. Where the rule passes the checks it shows the rows of the query
(the rows of the data, with their numbers for the uniqueness rules) that the rule counted as failed
or as miscast; where it does not, or where there is no data, it shows nothing. -/
inductive ShowsCounted (rt : Runtime δ) (snapshot : Snapshot) (rules : List (QualityRule α))
    (sampleLimit : ℕ) (rule : QualityRule α) (o : RuleExecutionOutput) : Prop
  | measured (cr : CompiledRule) (h_check : PassesChecks rt snapshot rule cr)
    (h : ShowsViolations cr (evalRows (measuredRules rt snapshot rules) snapshot.data.rows)
      sampleLimit o) : ShowsCounted rt snapshot rules sampleLimit rule o
  | unmeasured (h_none : snapshot.totalRows = 0 ∨ ∀ cr, ¬ PassesChecks rt snapshot rule cr)
    (h : ShowsNothing o) : ShowsCounted rt snapshot rules sampleLimit rule o

/-- The output of a rule shows rows that it counted, no more than the limit. -/
theorem CompiledRule.output_showsViolations {cr : CompiledRule} (h_exclusive : Exclusive cr)
    (ruleId : Uuid) (totalRows sampleLimit : ℕ) {rows : List Row}
    (h_quiet : (Column.cascade cr.guards).findSome? (·.raises rows) = none) :
    ShowsViolations cr rows sampleLimit (cr.output ruleId totalRows sampleLimit rows) := by
  have h_length := h_exclusive.length_violations rows
  refine ⟨h_length.trans (Nat.add_comm _ _), ?_⟩
  show (if _ then cr.evidenceSamples sampleLimit rows else []) = _
  by_cases h_some : (0 < (cr.counts rows).failed ∨ 0 < (cr.counts rows).miscast) ∧ 0 < sampleLimit
  · rw [if_pos h_some, evidenceSamples_eq h_exclusive sampleLimit h_quiet]
  · rw [if_neg h_some]
    -- nothing was counted, or nothing is asked for
    have h_none : (rows.filter fun row => IsViolation cr row).take sampleLimit = [] := by
      rw [not_and_or, not_or, Nat.not_lt, Nat.not_lt, Nat.not_lt] at h_some
      rw [List.take_eq_nil_iff]
      rcases h_some with ⟨h_failed, h_miscast⟩ | h_limit
      · refine Or.inr (List.length_eq_zero_iff.mp ?_)
        rw [h_length]
        exact Nat.add_eq_zero_iff.mpr ⟨Nat.le_zero.mp h_miscast, Nat.le_zero.mp h_failed⟩
      · exact Or.inl (Nat.le_zero.mp h_limit)
    rw [h_none]
    rfl

/-- The guards of a measured rule are among the conditions that the query did not fail on. -/
theorem guards_quiet_of_measured {rules : List (QualityRule α)} {rule : QualityRule α}
    {cr : CompiledRule} {rows : List Row} (h_rule : rule ∈ rules)
    (h_check : checkRule rt snapshot rule = .ok cr)
    (h_fault : queryFault (measuredRules rt snapshot rules) rows = none) :
    (Column.cascade cr.guards).findSome? (·.raises rows) = none := by
  rw [← CompiledRule.buckets_eq, List.findSome?_eq_none_iff]
  intro b h_b
  have h_measured : cr ∈ measuredRules rt snapshot rules :=
    List.mem_filterMap.mpr ⟨rule, h_rule, by rw [h_check]; rfl⟩
  exact List.findSome?_eq_none_iff.mp h_fault b (List.mem_flatMap.mpr ⟨cr, h_measured, h_b⟩)

/-- **Evidence.** There is one output for each rule, in their order, and its evidence shows what was
counted for the rule: the first rows that are miscast or failed, as many as there are within the
limit. Of the data it shows no more than which cells are NULL or blank. -/
theorem evidence_shows_violations {rules : List (QualityRule α)} {sampleLimit : ℕ}
    {outputs : List RuleExecutionOutput} (h_ids : (rules.map (·.ruleId)).Nodup)
    (h_run : executeRules rt snapshot rules sampleLimit = .ok outputs) :
    List.Forall₂ (fun rule o => o.ruleId = rule.ruleId ∧
      ShowsCounted rt snapshot rules sampleLimit rule o) rules outputs := by
  by_cases h_rows : snapshot.totalRows = 0
  · rw [executeRules_of_noRows h_rows] at h_run
    cases h_run
    rw [List.forall₂_map_right_iff, List.forall₂_same]
    exact fun r _ => ⟨rfl, .unmeasured (Or.inl h_rows) ⟨rfl, rfl, rfl⟩⟩
  rw [executeRules_eq h_rows h_ids] at h_run
  cases h_fault : queryFault (measuredRules rt snapshot rules)
      (evalRows (measuredRules rt snapshot rules) snapshot.data.rows) with
  | some fault =>
    rw [h_fault] at h_run
    cases h_run
  | none =>
    rw [h_fault] at h_run
    cases h_run
    rw [List.forall₂_map_right_iff, List.forall₂_same]
    intro r h_r
    refine ⟨ruleOutput_ruleId _ _ r, ?_⟩
    unfold ruleOutput
    cases h_check : checkRule rt snapshot r with
    | error message =>
      refine .unmeasured (Or.inr fun cr h_passes => ?_) ⟨rfl, rfl, rfl⟩
      rw [checkRule_ok_iff.mpr h_passes] at h_check
      cases h_check
    | ok cr =>
      have h_passes := checkRule_ok_iff.mp h_check
      exact .measured cr h_passes (CompiledRule.output_showsViolations
        (compileRule_exclusive h_passes.compiles) _ _ _
        (guards_quiet_of_measured h_r h_check h_fault))

end

/-- The rule of `allowedInput` with one text that is allowed. -/
def activeRule : QualityRule ℚ :=
  { allowedRule with
    parameters := [("column", .str "status"), ("allowed_values", .list [.str "active"])] }

theorem evidence_shows_activeRule :
    ∃ o, executeRules literalRuntime oneRow [activeRule] 50 = .ok [o] ∧ o.counts.failed = 1 ∧
      o.evidenceSamples = [[("status", some "[REDACTED]")]] ∧
      ShowsCounted literalRuntime oneRow [activeRule] 50 activeRule o := by
  have h_run : executeRules literalRuntime oneRow [activeRule] 50 =
      .ok [{ ruleId := Uuid.repeated 1
             counts := { failed := 1, totalObserved := 1 }
             evidenceSamples := [[("status", some "[REDACTED]")]] }] := by
    decide +kernel
  have h_ids : ([activeRule].map (·.ruleId)).Nodup := List.nodup_singleton _
  obtain ⟨⟨-, h_shows⟩, -⟩ := List.forall₂_cons.mp (evidence_shows_violations h_ids h_run)
  exact ⟨_, h_run, rfl, rfl, h_shows⟩

end DqScoring
