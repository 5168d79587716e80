import DqScoring.Compute.Containment
import DqScoring.Services.TemplateRules

/-!
# Validated rules and compiled rules

`validate_bound_rule` is to accept the parameters of the basic types that `compile_rule` enforces.
The two read alternative names of a parameter, absent values and `None` on their own. What the
validator has found is a derivation (`ValidatedDomain`, `ValidatedComparison`), from which the
reading of the compiler follows.

`Enforces` says that a compiled rule checks what was validated. Every accepted rule compiles, and
`accepted_enforced_iff` says when it is enforced: when a range has a bound that is not `None`, and
the type of a TYPE_PARSE rule is not `None` under the name `type`. The validator takes both for a
parameter that is not given, and the compiler does not.
-/

namespace DqScoring

open Framework

variable {α δ : Type} [LinearOrder δ] {rt : Runtime δ} {reading : NumberReading α δ}

/-! ### What a compiled rule enforces -/

/-- The conditions of the rule are those of a check. -/
structure CompiledRule.Tests (rt : Runtime δ) (cr : CompiledRule) (check : DomainCheck δ) :
    Prop where
  miscast : cr.miscastExpr = (check.conditions rt cr.targetColumn).1
  failed : cr.failedExpr = (check.conditions rt cr.targetColumn).2

/-- The number fails one of the bounds. -/
def IsOutside (min max : Option δ) (x : δ) : Prop := (∃ lo ∈ min, x < lo) ∨ ∃ hi ∈ max, hi < x

/-- The bound that the validator reads under two names. -/
def IsValidatedBound (python : Python δ) (reading : NumberReading α δ) (params : PyDict)
    (name other : String) (bound : Option δ) : Prop :=
  ∃ v, aliasPair params name other = .ok v ∧ givenNumber python reading v = .ok (bound.map some)

/-- The rule enforces the validated mode of a DOMAIN_RANGE rule. -/
structure EnforcesDomain (rt : Runtime δ) (reading : NumberReading α δ) (params : PyDict)
    (cr : CompiledRule) : Prop where
  allowedValues : (params.has "allowed_values" || params.has "values") = true →
    ∃ values, aliasPair params "allowed_values" "values" = .ok (.list values) ∧
      cr.Tests rt (.allowedValues values)
  pattern : (params.has "pattern" || params.has "regex") = true →
    ∃ pattern, aliasPair params "pattern" "regex" = .ok (.str pattern) ∧
      cr.Tests rt (.pattern pattern)
  year : params.has "year" = true →
    ∃ year, params.get "year" = .int year ∧
      cr.Tests rt (.year year (formatParameter rt.python params))
  bounds : (boundKeys.any fun key => params.has key) = true →
    ∃ min max, IsValidatedBound rt.python reading params "min" "min_value" min ∧
      IsValidatedBound rt.python reading params "max" "max_value" max ∧
      cr.Tests rt (.bounds min max) ∧ ∃ x, IsOutside min max x

/-- The type that the validator finds: DOUBLE when none is given. -/
def validatedType (python : Python δ) (declared : PyValue) : String :=
  if declared.isNone then "DOUBLE" else python.upper (python.str declared)

/-- The rule parses its target as the validated type. -/
def EnforcesType (rt : Runtime δ) (params : PyDict) (cr : CompiledRule) : Prop :=
  ∃ declared, aliasPair params "data_type" "type" = .ok declared ∧
    validatedType rt.python declared ∈ typeNames ∧
    cr.miscastExpr = (isMissing cr.targetColumn).not.and (parseColumn rt.spark cr.targetColumn
      (validatedType rt.python declared) (formatParameter rt.python params)).isNull

/-- The rule parses its target and the validated column as one type. -/
def EnforcesComparison (rt : Runtime δ) (params : PyDict) (cr : CompiledRule) : Prop :=
  ∃ other dataType, aliasPair params "comparison_column" "compare_to" = .ok (.str other) ∧
    dataType ∈ typeNames ∧ (params.has "data_type" = false → dataType = "DOUBLE") ∧
    let format := formatParameter rt.python params
    cr.miscastExpr = ((isMissing cr.targetColumn).or (isMissing other)).not.and
      ((parseColumn rt.spark cr.targetColumn dataType format).isNull.or
        (parseColumn rt.spark other dataType format).isNull)

/-- The compiled rule enforces what was validated. -/
def Enforces (rt : Runtime δ) (reading : NumberReading α δ) (ruleType : String) (params : PyDict)
    (cr : CompiledRule) : Prop :=
  match ruleType with
  | "DOMAIN_RANGE" => EnforcesDomain rt reading params cr
  | "TYPE_PARSE" => EnforcesType rt params cr
  | "CROSS_FIELD" => EnforcesComparison rt params cr
  | _ => True

/-- A number that is outside the bounds fails the rule. -/
theorem CompiledRule.Tests.failed_value {cr : CompiledRule} {min max : Option δ}
    (h : cr.Tests rt (.bounds min max)) {row : Row} {s : String} {x : δ}
    (h_cell : row.cell cr.targetColumn = some s) (h_filled : sparkTrim s ≠ "")
    (h_cast : rt.spark.tryCastDouble s = some x) (h_outside : IsOutside min max x) :
    cr.failedExpr.value row = some true := by
  have h_parsed : (parseColumn rt.spark cr.targetColumn "DOUBLE" defaultTimestampFormat).value row =
      some (Sum.inlₗ x) := by
    simp [parseColumn, temporalTypes, floatingTypes, h_cell, h_cast]
  have h_out : (outOfBounds min max
      (parseColumn rt.spark cr.targetColumn "DOUBLE" defaultTimestampFormat)).value row =
        some true := by
    rcases h_outside with ⟨lo, rfl, h_lo⟩ | ⟨hi, rfl, h_hi⟩
    · cases max <;> simp [outOfBounds, h_parsed, h_lo]
    · cases min <;> simp [outOfBounds, h_parsed, h_hi]
  rw [h.failed]
  simp [DomainCheck.conditions, isMissing, h_cell, h_filled, h_parsed, h_out]

/-! ### What the validator has found -/

/-- Of a parameter with two names one is given at most. -/
theorem aliasPair_ok {params : PyDict} {name other : String} {v : PyValue}
    (h : aliasPair params name other = .ok v) :
    (params.has name && params.has other) = false ∧
      v = if params.has name then params.get name else params.get other := by
  unfold aliasPair at h
  split at h
  case isTrue => cases h
  case isFalse h_both =>
    cases h
    exact ⟨Bool.eq_false_of_not_eq_true h_both, rfl⟩

/-- Where the value is not empty, the compiler reads the same one. -/
theorem orElse_of_aliasPair {params : PyDict} {name other : String} {v : PyValue}
    (h : aliasPair params name other = .ok v) (h_truthy : v.truthy = true) (default : PyValue) :
    (params.get name).orElse (params.getD other default) = v := by
  obtain ⟨-, h_v⟩ := aliasPair_ok h
  unfold PyValue.orElse
  cases h_name : params.has name with
  | true =>
    rw [h_name, if_pos rfl] at h_v
    rw [← h_v, if_pos h_truthy]
  | false =>
    rw [h_name, if_neg Bool.false_ne_true] at h_v
    rw [PyDict.get_of_not_has h_name, if_neg (by exact Bool.false_ne_true)]
    cases h_other : params.has other with
    | true => rw [PyDict.getD_of_has h_other, h_v]
    | false =>
      -- a value that is absent is empty
      rw [PyDict.get_of_not_has h_other] at h_v
      rw [h_v] at h_truthy
      cases h_truthy

/-- The bounds are looked up under their two names in either order. -/
theorem get_of_aliasPair {params : PyDict} {name other : String} {v : PyValue}
    (h : aliasPair params name other = .ok v) :
    (if params.has other then params.get other else params.get name) = v := by
  obtain ⟨h_both, h_v⟩ := aliasPair_ok h
  rw [h_v]
  cases h_name : params.has name with
  | true =>
    rw [h_name, Bool.true_and] at h_both
    rw [h_both, if_neg Bool.false_ne_true, if_pos rfl]
  | false =>
    cases h_other : params.has other with
    | true => rfl
    | false =>
      rw [if_neg Bool.false_ne_true, if_neg Bool.false_ne_true, PyDict.get_of_not_has h_name,
        PyDict.get_of_not_has h_other]

/-- A text parameter is a text that is not empty. -/
theorem isText_iff {limit : ℕ} {v : PyValue} (h : isText limit v = true) :
    ∃ s, v = .str s ∧ s ≠ "" := by
  cases v with
  | str s =>
    refine ⟨s, rfl, ?_⟩
    rintro rfl
    -- nothing is left of an empty text
    simp [isText, pyStrip] at h
  | _ => cases h

omit [LinearOrder δ] in
/-- A validated number is finite. -/
theorem number_ok {python : Python δ} {v : PyValue} {x : δ}
    (h : number python reading v = .ok (some x)) :
    python.float v = .ok x ∧ reading.isFinite x = true := by
  have h_float : finiteFloat python reading v = .ok (some x) := by
    cases v with
    | int n => exact h
    | float q => exact h
    | str s => exact h
    | _ => cases h
  unfold finiteFloat at h_float
  split at h_float
  · next y h_y =>
    split at h_float
    · next h_finite =>
      obtain rfl := Option.some.inj (Except.ok.inj h_float)
      exact ⟨h_y, h_finite⟩
    · cases h_float
  · cases h_float
  · cases h_float

omit [LinearOrder δ] in
/-- The bound that the compiler reads is the one that was validated. -/
theorem boundParameter_of_given {python : Python δ} {v : PyValue} {bound : Option δ}
    (h : givenNumber python reading v = .ok (bound.map some)) :
    boundParameter python v = .ok bound := by
  unfold givenNumber at h
  unfold boundParameter
  split at h
  · next h_none =>
    rw [if_pos h_none]
    cases bound with
    | none => rfl
    | some x => cases h
  · next h_given =>
    rw [if_neg h_given]
    cases h_number : number python reading v with
    | error e =>
      rw [h_number] at h
      cases h
    | ok x =>
      rw [h_number] at h
      cases bound with
      | none => cases h
      | some y =>
        obtain rfl := Option.some.inj (Except.ok.inj h)
        rw [(number_ok h_number).1]
        rfl

omit [LinearOrder δ] in
/-- A bound that is given is a number. -/
theorem map_some_bind_id {bound : Option (Option δ)} (h : bound ≠ some none) :
    (bound.bind id).map some = bound := by
  rcases bound with _ | _ | x
  · rfl
  · exact absurd rfl h
  · rfl

/-- What `_validate_domain_range` has found, by mode. -/
inductive ValidatedDomain (python : Python δ) (reading : NumberReading α δ) (params : PyDict) :
    Prop
  | allowedValues (values : List PyValue)
    (modes : domainModes params = [true, false, false, false])
    (found : aliasPair params "allowed_values" "values" = .ok (.list values))
    (nonempty : values ≠ []) (texts : ∀ v ∈ values, isText 255 v = true)
  | pattern (pattern : String) (modes : domainModes params = [false, true, false, false])
    (found : aliasPair params "pattern" "regex" = .ok (.str pattern)) (nonempty : pattern ≠ "")
  | year (year : ℤ) (modes : domainModes params = [false, false, true, false])
    (found : params.get "year" = .int year) (mem : 1 ≤ year ∧ year ≤ 9999)
  | bounds (min max : Option δ) (modes : domainModes params = [false, false, false, true])
    (min_found : IsValidatedBound python reading params "min" "min_value" min)
    (max_found : IsValidatedBound python reading params "max" "max_value" max)

/-- Of four modes of which one is given, it is one of the four. -/
theorem modes_of_countP : ∀ a b c d : Bool, [a, b, c, d].countP id = 1 →
    [a, b, c, d] ∈ [[true, false, false, false], [false, true, false, false],
      [false, false, true, false], [false, false, false, true]] := by
  decide

/-- What `validate_domain_range` has established when it returns, mode by mode. -/
theorem validateDomainRange_ok {python : Python δ} {params : PyDict}
    (h : validateDomainRange python reading params = .ok ()) :
    ValidatedDomain python reading params := by
  unfold validateDomainRange at h
  dsimp only at h
  split at h
  case isTrue => cases h
  case isFalse h_count =>
    split at h
    case isTrue => cases h
    case isFalse =>
      have h_modes := modes_of_countP _ _ _ _ (not_not.mp h_count)
      simp only [List.mem_cons, List.not_mem_nil, or_false] at h_modes
      -- exactly one of the four modes is named
      rcases h_modes with h_list | h_pattern | h_year | h_bounds
      · rw [show domainModes params = _ from h_list] at h
        obtain ⟨v, h_found, h⟩ := ok_of_bind h
        split at h
        case isFalse => cases h
        case isTrue h_allowed =>
          cases v with
          | list values =>
            simp only [isAllowedValues, Bool.and_eq_true, decide_eq_true_eq, List.all_eq_true]
              at h_allowed
            refine .allowedValues values h_list h_found ?_ h_allowed.2
            rintro rfl
            exact absurd h_allowed.1.1 (by decide)
          | _ => cases h_allowed
      · -- a pattern is a text that is not empty
        rw [show domainModes params = _ from h_pattern] at h
        obtain ⟨v, h_found, h⟩ := ok_of_bind h
        split at h
        case isFalse => cases h
        case isTrue h_text =>
          obtain ⟨pattern, rfl, h_ne⟩ := isText_iff h_text
          exact .pattern pattern h_pattern h_found h_ne
      · -- a year is an integer in its range
        rw [show domainModes params = _ from h_year] at h
        split at h
        case isTrue h_false => cases h_false
        case isFalse =>
          split at h
          case isTrue h_false => cases h_false
          case isFalse =>
            split at h
            case isFalse h_false => exact absurd rfl h_false
            case isTrue =>
              split at h
              case isFalse => cases h
              case isTrue h_valid =>
                cases h_get : params.get "year" with
                | int year =>
                  rw [h_get] at h_valid
                  simp only [isYear, Bool.and_eq_true, decide_eq_true_eq] at h_valid
                  exact .year year h_year h_get h_valid
                | _ =>
                  rw [h_get] at h_valid
                  cases h_valid
      · -- each bound is a finite number, and one at least is there
        rw [show domainModes params = _ from h_bounds] at h
        split at h
        case isTrue h_false => cases h_false
        case isFalse =>
          split at h
          case isTrue h_false => cases h_false
          case isFalse =>
            split at h
            case isTrue h_false => cases h_false
            case isFalse =>
              obtain ⟨low, h_low, h⟩ := ok_of_bind h
              obtain ⟨high, h_high, h⟩ := ok_of_bind h
              obtain ⟨min, h_min, h⟩ := ok_of_bind h
              obtain ⟨max, h_max, h⟩ := ok_of_bind h
              split at h
              case isTrue => cases h
              case isFalse h_accepted =>
                obtain ⟨h_min_number, h_rest⟩ := not_or.mp h_accepted
                obtain ⟨h_max_number, -⟩ := not_or.mp h_rest
                refine .bounds (min.bind id) (max.bind id) h_bounds ⟨low, h_low, ?_⟩
                  ⟨high, h_high, ?_⟩
                · rw [h_min, map_some_bind_id h_min_number]
                · rw [h_max, map_some_bind_id h_max_number]

/-! ### What the compiler reads -/

/-- What is relied on of Spark: texts and years are literals, and a decimal fraction is a DOUBLE
and no BIGINT. -/
structure Spark.ReadsLiterals (spark : Spark δ) : Prop where
  text_literal : ∀ s, spark.hasLiteral (.str s) = true
  year_literal : ∀ n : ℤ, 1 ≤ n → n ≤ 9999 → spark.hasLiteral (.int n) = true
  fraction_double : (spark.tryCastDouble "1.5").isSome = true
  fraction_bigint : spark.tryCastBigint "1.5" = none

/-- A finite number is between two others, if only the infinite ones. -/
def NumberReading.FiniteInside (reading : NumberReading α δ) : Prop :=
  ∀ x, reading.isFinite x = true → (∃ y, y < x) ∧ ∃ y, x < y

omit [LinearOrder δ] in
/-- A validated bound is absent exactly if the values under its two names are `None`. -/
theorem IsValidatedBound.isSome_iff {python : Python δ} {params : PyDict} {name other : String}
    {bound : Option δ} (h : IsValidatedBound python reading params name other bound) :
    bound.isSome = true ↔
      (params.get name).isNone = false ∨ (params.get other).isNone = false := by
  obtain ⟨v, h_found, h_given⟩ := h
  have h_bound : bound.isSome = true ↔ v.isNone = false := by
    unfold givenNumber at h_given
    split at h_given
    · next h_none =>
      rw [h_none]
      cases bound with
      | none => simp
      | some x => cases h_given
    · next h_some =>
      rw [Bool.eq_false_of_not_eq_true h_some]
      cases bound with
      | none =>
        cases h_number : number python reading v with
        | error e =>
          rw [h_number] at h_given
          cases h_given
        | ok x =>
          rw [h_number] at h_given
          cases h_given
      | some x => simp
  obtain ⟨h_both, h_v⟩ := aliasPair_ok h_found
  rw [h_bound, h_v]
  cases h_name : params.has name with
  | true =>
    rw [h_name, Bool.true_and] at h_both
    rw [if_pos rfl, PyDict.get_of_not_has h_both]
    exact (or_iff_left Bool.noConfusion).symm
  | false =>
    rw [if_neg Bool.false_ne_true, PyDict.get_of_not_has h_name]
    exact (or_iff_right Bool.noConfusion).symm

omit [LinearOrder δ] in
/-- A validated bound is finite. -/
theorem IsValidatedBound.isFinite {python : Python δ} {params : PyDict} {name other : String}
    {x : δ} (h : IsValidatedBound python reading params name other (some x)) :
    reading.isFinite x = true := by
  obtain ⟨v, -, h_given⟩ := h
  unfold givenNumber at h_given
  split at h_given
  · cases h_given
  · cases h_number : number python reading v with
    | error e =>
      rw [h_number] at h_given
      cases h_given
    | ok y =>
      rw [h_number] at h_given
      obtain rfl := Option.some.inj (Except.ok.inj h_given)
      exact (number_ok h_number).2

/-- A range names a bound that is not `None`. -/
def NamesBound (params : PyDict) : Prop :=
  (boundKeys.any fun key => params.has key) = true →
    ∃ key ∈ boundKeys, (params.get key).isNone = false

/-- **The check of a validated DOMAIN_RANGE rule**: its parameters give one, and a rule with its
conditions enforces what was validated if a bound is named where bounds are asked for. -/
theorem domainCheck_of_validated {params : PyDict} (h_spark : rt.spark.ReadsLiterals)
    (h_inside : reading.FiniteInside) (h : ValidatedDomain rt.python reading params) :
    ∃ check, domainCheck rt params = .ok check ∧
      ∀ cr : CompiledRule, cr.Tests rt check →
        (EnforcesDomain rt reading params cr ↔ NamesBound params) := by
  -- the compiler reads each mode as it was validated
  cases h with
  | allowedValues values modes found nonempty texts =>
    simp only [domainModes, List.cons.injEq] at modes
    obtain ⟨h_list, h_pattern, h_year, h_bounds, -⟩ := modes
    have h_read : (params.get "allowed_values").orElse (params.getD "values" (.list [])) =
        .list values := by
      refine orElse_of_aliasPair found ?_ _
      -- the list is not empty, so the second name is not asked
      cases values with
      | nil => exact absurd rfl nonempty
      | cons v values => rfl
    have h_literals : values.forM rt.spark.literal = .ok () := by
      rw [forM_eq_ok_iff]
      intro v h_v
      obtain ⟨s, rfl, -⟩ := isText_iff (texts v h_v)
      rw [Spark.literal, if_pos (h_spark.text_literal s)]
    -- the check is compiled, and some text is outside the list
    refine ⟨.allowedValues values, ?_, fun cr h_tests => iff_of_true ?_ ?_⟩
    · unfold domainCheck
      rw [if_pos h_list, h_read]
      simp only [Python.list, bind, Except.bind, h_literals]
      rfl
    · exact ⟨fun _ => ⟨values, found, h_tests⟩, fun h => by simp [h_pattern] at h,
        fun h => by simp [h_year] at h, fun h => by simp [h_bounds] at h⟩
    · intro h
      rw [h_bounds] at h
      cases h
  | pattern pattern modes found nonempty =>
    -- some text does not match the pattern
    simp only [domainModes, List.cons.injEq] at modes
    obtain ⟨h_list, h_pattern, h_year, h_bounds, -⟩ := modes
    have h_read : (params.get "pattern").orElse (params.getD "regex" (.str "")) = .str pattern :=
      orElse_of_aliasPair found (PyValue.truthy_str.mpr nonempty) _
    refine ⟨.pattern pattern, ?_, fun cr h_tests => iff_of_true ?_ ?_⟩
    · unfold domainCheck
      rw [h_list, if_neg Bool.false_ne_true, if_pos h_pattern, h_read]
      rfl
    · exact ⟨fun h => by simp [h_list] at h, fun _ => ⟨pattern, found, h_tests⟩,
        fun h => by simp [h_year] at h, fun h => by simp [h_bounds] at h⟩
    · intro h
      rw [h_bounds] at h
      cases h
  | year year modes found mem =>
    -- some year is another one
    simp only [domainModes, List.cons.injEq] at modes
    obtain ⟨h_list, h_pattern, h_year, h_bounds, -⟩ := modes
    have h_literal : rt.spark.literal (.int year) = .ok () := by
      rw [Spark.literal, if_pos (h_spark.year_literal year mem.1 mem.2)]
    refine ⟨.year year (formatParameter rt.python params), ?_, fun cr h_tests => iff_of_true ?_ ?_⟩
    · unfold domainCheck
      rw [h_list, if_neg Bool.false_ne_true, h_pattern, if_neg Bool.false_ne_true, if_pos h_year,
        found]
      simp only [Python.int, bind, Except.bind, h_literal]
      rfl
    · exact ⟨fun h => by simp [h_list] at h, fun h => by simp [h_pattern] at h,
        fun _ => ⟨year, found, h_tests⟩, fun h => by simp [h_bounds] at h⟩
    · intro h
      rw [h_bounds] at h
      cases h
  | bounds min max modes min_found max_found =>
    -- the bounds decide whether anything is outside
    simp only [domainModes, List.cons.injEq] at modes
    obtain ⟨h_list, h_pattern, h_year, h_bounds, -⟩ := modes
    refine ⟨.bounds min max, ?_, fun cr h_tests => ?_⟩
    · obtain ⟨low, h_low, h_min⟩ := min_found
      obtain ⟨high, h_high, h_max⟩ := max_found
      unfold domainCheck
      rw [h_list, if_neg Bool.false_ne_true, h_pattern, if_neg Bool.false_ne_true, h_year,
        if_neg Bool.false_ne_true]
      simp only [get_of_aliasPair h_low, get_of_aliasPair h_high, boundParameter_of_given h_min,
        boundParameter_of_given h_max]
      rfl
    · -- some number is outside exactly if one of the bounds is there
      have h_named : NamesBound params ↔ min.isSome = true ∨ max.isSome = true := by
        rw [min_found.isSome_iff, max_found.isSome_iff, NamesBound, h_bounds, imp_iff_right rfl]
        simp only [boundKeys, List.mem_cons, List.not_mem_nil, or_false, exists_eq_or_imp,
          exists_eq_left]
        tauto
      rw [h_named]
      constructor
      · intro h_enforces
        obtain ⟨min', max', h_min', h_max', -, x, h_outside⟩ := h_enforces.bounds h_bounds
        rw [min_found.isSome_iff, max_found.isSome_iff, ← h_min'.isSome_iff, ← h_max'.isSome_iff]
        rcases h_outside with ⟨lo, rfl, -⟩ | ⟨hi, rfl, -⟩
        · exact Or.inl rfl
        · exact Or.inr rfl
      · intro h_some
        refine ⟨fun h => by simp [h_list] at h, fun h => by simp [h_pattern] at h,
          fun h => by simp [h_year] at h, fun _ => ⟨min, max, min_found, max_found, h_tests, ?_⟩⟩
        rcases h_some with h_min | h_max
        · obtain ⟨lo, rfl⟩ := Option.isSome_iff_exists.mp h_min
          obtain ⟨⟨x, h_x⟩, -⟩ := h_inside lo min_found.isFinite
          exact ⟨x, Or.inl ⟨lo, rfl, h_x⟩⟩
        · obtain ⟨hi, rfl⟩ := Option.isSome_iff_exists.mp h_max
          obtain ⟨-, x, h_x⟩ := h_inside hi max_found.isFinite
          exact ⟨x, Or.inr ⟨hi, rfl, h_x⟩⟩

omit [LinearOrder δ] in
/-- The upper case of a literal, whose letters can be tested. -/
theorem Python.UppersAscii.of_all {python : Python δ} (h : python.UppersAscii) {s : String}
    (h_ascii : (s.toList.all fun c => decide (c.toNat < 128)) = true) :
    python.upper s = String.ofList (s.toList.map Char.toUpper) :=
  h s fun c h_c => of_decide_eq_true (List.all_eq_true.mp h_ascii c h_c)

omit [LinearOrder δ] in
/-- A name in upper case is spelled as it is. -/
theorem Python.UppersAscii.eq_self {python : Python δ} (h : python.UppersAscii) {s : String}
    (h_ascii : (s.toList.all fun c => decide (c.toNat < 128)) = true)
    (h_plain : s.toList.map Char.toUpper = s.toList) : python.upper s = s := by
  rw [h.of_all h_ascii, h_plain, String.ofList_toList]

omit [LinearOrder δ] in
/-- A name is looked up in upper case. -/
theorem isNameIn_ok {python : Python δ} {names : List String} {v : PyValue}
    (h : isNameIn python names v = true) : ∃ s, v = .str s ∧ python.upper s ∈ names := by
  cases v with
  | str s => exact ⟨s, rfl, List.contains_iff_mem.mp h⟩
  | _ => cases h

omit [LinearOrder δ] in
/-- An empty text is the name of nothing. -/
theorem truthy_of_upper_mem {python : Python δ} (h_upper : python.UppersAscii) {s : String}
    {names : List String} (h : python.upper s ∈ names) (h_names : "" ∉ names) :
    (PyValue.str s).truthy = true := by
  rw [PyValue.truthy_str]
  rintro rfl
  rw [h_upper "" (by simp)] at h
  exact h_names h

/-- The type of a TYPE_PARSE rule is not `None` under the name `type`. -/
def NamesType (params : PyDict) : Prop :=
  params.has "type" = true → (params.get "type").isNone = false

omit [LinearOrder δ] in
/-- A DOUBLE and a BIGINT differ on a decimal fraction. -/
theorem parseColumn_double_ne (h_spark : rt.spark.ReadsLiterals) {target dataType format : String}
    (h_temporal : dataType ∉ temporalTypes) (h_floating : dataType ∉ floatingTypes) :
    (isMissing target).not.and (parseColumn rt.spark target dataType format).isNull ≠
      (isMissing target).not.and (parseColumn rt.spark target "DOUBLE" format).isNull := by
  intro h
  have h_value := congrFun (congrArg Column.value h) { cell := fun _ => some "1.5" }
  obtain ⟨x, h_x⟩ := Option.isSome_iff_exists.mp h_spark.fraction_double
  have h_filled : sparkTrim "1.5" ≠ "" := by decide
  rw [show parseColumn rt.spark target "DOUBLE" format =
    (Column.cell target).bind fun s => (rt.spark.tryCastDouble s).map Sum.inlₗ from rfl,
    show parseColumn rt.spark target dataType format =
      (Column.cell target).bind fun s => (rt.spark.tryCastBigint s).map Sum.inrₗ by
        unfold parseColumn
        rw [if_neg h_temporal, if_neg h_floating]] at h_value
  simp [isMissing, h_filled, h_x, h_spark.fraction_bigint] at h_value

omit [LinearOrder δ] in
/-- **A validated TYPE_PARSE rule** parses as the validated type, unless that is `None` under the
name `type`: the compiler parses as a BIGINT then. -/
theorem enforcesType_iff {params : PyDict} (h_upper : rt.python.UppersAscii)
    (h_spark : rt.spark.ReadsLiterals) (h : validateTypeParse rt.python params = .ok ())
    {cr : CompiledRule} (h_cr : cr.miscastExpr = (isMissing cr.targetColumn).not.and
      (parseColumn rt.spark cr.targetColumn (parsedType rt.python params)
        (formatParameter rt.python params)).isNull) :
    EnforcesType rt params cr ↔ NamesType params := by
  obtain ⟨declared, h_declared, h⟩ := ok_of_bind h
  -- the declared type is one of those the compiler knows
  split at h
  case isFalse => cases h
  case isTrue h_known =>
    -- the rule enforces its type if the compiler has found the validated one
    have h_enforces : parsedType rt.python params = validatedType rt.python declared →
        validatedType rt.python declared ∈ typeNames → EnforcesType rt params cr :=
      fun h_same h_mem => ⟨declared, h_declared, h_mem, h_same ▸ h_cr⟩
    obtain ⟨h_both, h_value⟩ := aliasPair_ok h_declared
    have h_double : rt.python.upper "DOUBLE" = "DOUBLE" :=
      h_upper.eq_self (by decide) (by decide)
    rcases Bool.or_eq_true_iff.mp h_known with h_none | h_name
    · have h_validated : validatedType rt.python declared = "DOUBLE" := if_pos h_none
      cases h_type : params.has "type" with
      | false =>
        -- no type is given, or `None` under the first name
        refine iff_of_true (h_enforces ?_ (h_validated ▸ by decide)) fun h => ?_
        · have h_first : (params.get "data_type").truthy = false := by
            cases h_data : params.has "data_type" with
            | false => rw [PyDict.get_of_not_has h_data]; rfl
            | true =>
              rw [h_data, if_pos rfl] at h_value
              rw [← h_value]
              cases declared with
              | none => rfl
              | _ => cases h_none
          rw [h_validated, parsedType, PyValue.orElse, h_first, if_neg Bool.false_ne_true,
            PyDict.getD_of_not_has h_type]
          exact h_double
        · rw [h_type] at h
          cases h
      | true =>
        rw [h_type, Bool.and_true] at h_both
        rw [h_both, if_neg Bool.false_ne_true] at h_value
        obtain rfl : declared = .none := by
          cases declared with
          | none => rfl
          | _ => cases h_none
        have h_parsed : parsedType rt.python params = "NONE" := by
          rw [parsedType, PyDict.get_of_not_has h_both, PyValue.orElse,
            if_neg (by exact Bool.false_ne_true), PyDict.getD_of_has h_type, ← h_value]
          have h_ascii : ("None".toList.all fun c => decide (c.toNat < 128)) = true := by decide
          exact h_upper.of_all h_ascii
        refine iff_of_false ?_ fun h => ?_
        · rintro ⟨declared, h_found, -, h_conditions⟩
          obtain rfl := Except.ok.inj (h_declared.symm.trans h_found)
          rw [h_cr, h_parsed] at h_conditions
          exact parseColumn_double_ne h_spark (by decide) (by decide) h_conditions
        · have h_given := h h_type
          rw [← h_value] at h_given
          cases h_given
    · -- a type that is given is read under the name that has it
      obtain ⟨s, rfl, h_mem⟩ := isNameIn_ok h_name
      have h_truthy := truthy_of_upper_mem h_upper h_mem (by decide)
      refine iff_of_true (h_enforces ?_ h_mem) fun h_type => ?_
      · rw [parsedType, orElse_of_aliasPair h_declared h_truthy]
        rfl
      · rw [h_type, Bool.and_true] at h_both
        rw [h_both, if_neg Bool.false_ne_true] at h_value
        rw [← h_value]
        rfl

/-- **A validated CROSS_FIELD rule** compiles, and parses its columns as a type of the list. -/
theorem compileCrossField_of_validated {rule : QualityRule α} {name : String}
    (h_upper : rt.python.UppersAscii)
    (h : validateCrossField rt.python rule.parameters = .ok ()) :
    ∃ cr, compileCrossField rt rule (.str name) = .ok cr ∧
      EnforcesComparison rt rule.parameters cr := by
  obtain ⟨other, h_other, h⟩ := ok_of_bind h
  split at h
  case isTrue => cases h
  case isFalse h_column =>
    -- the operator and the type are known, and the other column is a text
    split at h
    case isTrue => cases h
    case isFalse h_operator =>
      split at h
      case isTrue => cases h
      case isFalse h_type =>
        have h_text : isText 255 other = true := by
          cases h_text : isText 255 other with
          | true => rfl
          | false => simp [h_text] at h_column
        obtain ⟨s, rfl, h_ne⟩ := isText_iff h_text
        have h_read := orElse_of_aliasPair h_other (PyValue.truthy_str.mpr h_ne) .none
        obtain ⟨op, h_op, h_op_mem⟩ := isNameIn_ok (by simpa using h_operator)
        obtain ⟨comparator, h_comparator⟩ :
            ∃ comparator, comparators.lookup (rt.python.upper op) = some comparator :=
          Option.isSome_iff_exists.mp
            ((by decide : ∀ n ∈ operatorNames, (comparators.lookup n).isSome = true) _ h_op_mem)
        obtain ⟨t, h_t, h_t_mem⟩ := isNameIn_ok (by simpa using h_type)
        -- the compiler takes an empty type for none, but an empty type is not in the list
        have h_declared : (rule.parameters.get "data_type").orElse (.str "DOUBLE") = .str t := by
          cases h_data : rule.parameters.has "data_type" with
          | false =>
            rw [PyDict.getD_of_not_has h_data] at h_t
            rw [PyDict.get_of_not_has h_data, ← h_t]
            rfl
          | true =>
            rw [PyDict.getD_of_has h_data] at h_t
            rw [h_t, PyValue.orElse, if_pos (truthy_of_upper_mem h_upper h_t_mem (by decide))]
        have h_double : rt.python.upper "DOUBLE" = "DOUBLE" :=
          h_upper.eq_self (by decide) (by decide)
        let dataType := rt.python.upper t
        have h_comparison : fieldComparison rt.python rule.ruleCode rule.parameters = .ok {
            column := .str s
            comparator
            dataType := if dataType ∈ temporalTypes then dataType else "DOUBLE"
            format := formatParameter rt.python rule.parameters } := by
          have h_truthy : (PyValue.str s).truthy = true := PyValue.truthy_str.mpr h_ne
          unfold fieldComparison
          rw [show (rule.parameters.get "comparison_column").orElse
            (rule.parameters.get "compare_to") = .str s from h_read]
          simp only [h_truthy, Bool.true_eq_false, if_false, h_op, Python.str, h_comparator,
            h_declared]
          rfl
        unfold compileCrossField
        rw [h_comparison]
        refine ⟨_, rfl, s, if dataType ∈ temporalTypes then dataType else "DOUBLE", h_other, ?_,
          fun h_absent => ?_, rfl⟩
        · split
          · exact h_t_mem
          · decide
        · rw [PyDict.getD_of_not_has h_absent] at h_t
          obtain rfl := PyValue.str.inj h_t
          rw [show dataType = "DOUBLE" from h_double]
          rfl

/-! ### Accepted rules -/

omit [LinearOrder δ] in
/-- A key that the type does not know is not among the parameters. -/
theorem not_has_of_known {params : PyDict} {keys : List String} {key : String}
    (h : (params.any fun e => !keys.contains e.1) = false) (h_key : key ∉ keys) :
    params.has key = false := by
  cases h_found : params.lookup key with
  | none => rw [PyDict.has, h_found]; rfl
  | some v =>
    obtain ⟨before, after, h_params, -⟩ := List.lookup_eq_some_iff.mp h_found
    rw [h_params, List.any_append, List.any_cons] at h
    simp [h_key] at h

/-- What `_validate_legacy_params` has found for every type. -/
structure LegacyChecked (ruleType : String) (params : PyDict) (name : String) : Prop where
  known : (params.any fun e => !((legacyKeys.lookup ruleType).getD []).contains e.1) = false
  column : params.get "column" = .str name
  column_ne : name ≠ ""

/-- What the legacy validation has established when it returns. -/
theorem validateLegacyParams_ok {python : Python δ} {ruleType : String} {params : PyDict}
    (h : validateLegacyParams python reading ruleType params = .ok ()) :
    (∃ name, LegacyChecked ruleType params name) ∧
      (ruleType = "TYPE_PARSE" → validateTypeParse python params = .ok ()) ∧
      (ruleType = "CROSS_FIELD" → validateCrossField python params = .ok ()) ∧
      (ruleType = "DOMAIN_RANGE" → validateDomainRange python reading params = .ok ()) := by
  unfold validateLegacyParams at h
  split at h
  case isTrue => cases h
  case isFalse h_known =>
    split at h
    case isTrue => cases h
    case isFalse h_column =>
      split at h
      case isTrue => cases h
      case isFalse =>
        obtain ⟨name, h_name, h_ne⟩ := isText_iff (by simpa using h_column)
        refine ⟨⟨name, Bool.eq_false_of_not_eq_true h_known, h_name, h_ne⟩, ?_, ?_, ?_⟩
        all_goals
          rintro rfl
          exact h

/-- The basic types. -/
def legacyKinds : List RuleKind := [.nonNull, .uniqueness, .typeParse, .domainRange, .crossField]

/-- The types with legacy keys are the legacy kinds. -/
theorem legacyKind_of_lookup {ruleType : String}
    (h : (legacyKeys.lookup ruleType).isSome = true) :
    ∃ kind ∈ legacyKinds, ruleType = kind.value := by
  obtain ⟨keys, h_keys⟩ := Option.isSome_iff_exists.mp h
  obtain ⟨before, after, h_entries, -⟩ := List.lookup_eq_some_iff.mp h_keys
  have h_mem : ruleType ∈ legacyKeys.map (·.1) := by
    rw [h_entries, List.map_append, List.map_cons]
    exact List.mem_append_right _ List.mem_cons_self
  have h_names : legacyKeys.map (·.1) = legacyKinds.map RuleKind.value := by decide
  rw [h_names] at h_mem
  obtain ⟨kind, h_kind, h_value⟩ := List.mem_map.mp h_mem
  exact ⟨kind, h_kind, h_value.symm⟩

omit [LinearOrder δ] in
/-- The name of a kind is its own upper case. -/
theorem ruleKind_of_value {rule : QualityRule α} {kind : RuleKind}
    (h_upper : rt.python.UppersAscii) (h : rule.ruleType = kind.value) :
    ruleKind rt.python rule = some kind := by
  have h_plain : rt.python.upper kind.value = kind.value := by
    cases kind <;> exact h_upper.eq_self (by decide) (by decide)
  rw [ruleKind, h, h_plain]
  cases kind <;> decide

/-- The target of a checked rule is its column, as no other name is known. -/
theorem compileRule_of_checked {rule : QualityRule α} {kind : RuleKind} {name : String}
    (h_upper : rt.python.UppersAscii) (h_kind : kind ∈ legacyKinds)
    (h_type : rule.ruleType = kind.value)
    (h : LegacyChecked rule.ruleType rule.parameters name) :
    compileRule rt rule = kind.compile rt rule (.str name) := by
  have h_unknown : "target_column" ∉ (legacyKeys.lookup rule.ruleType).getD [] := by
    rw [h_type]
    exact (by decide : ∀ kind ∈ legacyKinds,
      "target_column" ∉ (legacyKeys.lookup kind.value).getD []) kind h_kind
  have h_target : ruleTargetColumn rule = .str name := by
    rw [ruleTargetColumn, PyDict.get_of_not_has (not_has_of_known h.known h_unknown), h.column]
    rfl
  have h_truthy := PyValue.truthy_str.mpr h.column_ne
  unfold compileRule
  simp only [h_target, h_truthy, Bool.true_eq_false, if_false,
    ruleKind_of_value h_upper h_type]

/-- The parameters that the validator takes for absent are absent for the compiler too. -/
def NamesWhatIsRead (ruleType : String) (params : PyDict) : Prop :=
  (ruleType = "DOMAIN_RANGE" → NamesBound params) ∧ (ruleType = "TYPE_PARSE" → NamesType params)

/-- A checked rule compiles, and what it enforces depends on its names. -/
theorem compile_of_checked {rule : QualityRule α} {kind : RuleKind}
    (h_upper : rt.python.UppersAscii) (h_spark : rt.spark.ReadsLiterals)
    (h_inside : reading.FiniteInside) (h_kind : kind ∈ legacyKinds)
    (h_type : rule.ruleType = kind.value)
    (h : validateLegacyParams rt.python reading rule.ruleType rule.parameters = .ok ()) :
    ∃ cr, compileRule rt rule = .ok cr ∧
      (Enforces rt reading rule.ruleType rule.parameters cr ↔
        NamesWhatIsRead rule.ruleType rule.parameters) := by
  obtain ⟨⟨name, h_checked⟩, h_parse, h_cross, h_domain⟩ := validateLegacyParams_ok h
  rw [compileRule_of_checked h_upper h_kind h_type h_checked]
  rw [h_type] at h_parse h_cross h_domain ⊢
  cases kind with
  | nonNull =>
    exact ⟨_, rfl, iff_of_true trivial
      ⟨fun h => absurd h (by decide), fun h => absurd h (by decide)⟩⟩
  | uniqueness =>
    exact ⟨_, rfl, iff_of_true trivial
      ⟨fun h => absurd h (by decide), fun h => absurd h (by decide)⟩⟩
  | typeParse =>
    refine ⟨_, rfl, (enforcesType_iff h_upper h_spark (h_parse rfl) rfl).trans ?_⟩
    exact ⟨fun h => ⟨fun h' => absurd h' (by decide), fun _ => h⟩, fun h => h.2 rfl⟩
  | crossField =>
    obtain ⟨cr, h_compile, h_enforces⟩ := compileCrossField_of_validated h_upper (h_cross rfl)
    exact ⟨cr, h_compile, iff_of_true h_enforces
      ⟨fun h => absurd h (by decide), fun h => absurd h (by decide)⟩⟩
  | domainRange =>
    obtain ⟨check, h_check, h_enforces⟩ :=
      domainCheck_of_validated h_spark h_inside (validateDomainRange_ok (h_domain rfl))
    refine ⟨{
      ruleId := rule.ruleId
      targetColumn := name
      referencedColumns := [name]
      missingExpr := isMissing name
      miscastExpr := (check.conditions rt name).1
      failedExpr := (check.conditions rt name).2 }, ?_, (h_enforces _ ⟨rfl, rfl⟩).trans ?_⟩
    · show compileDomainRange rt rule (.str name) = _
      unfold compileDomainRange
      rw [h_check]
      rfl
    · exact ⟨fun h => ⟨fun _ => h, fun h' => absurd h' (by decide)⟩, fun h => h.1 rfl⟩
  | _ => exact absurd h_kind (by decide)

/-- **What is accepted is enforced** exactly where a bound that is named is not `None`, and a type
under the name `type` is not `None`; and every accepted rule compiles. -/
theorem accepted_enforced_iff [Field α] [LinearOrder α] {rule : PyDict}
    {input model : CreateQualityRuleInput α} (h_upper : rt.python.UppersAscii)
    (h_spark : rt.spark.ReadsLiterals) (h_inside : reading.FiniteInside)
    (h_input : CreateQualityRuleInput.ofObject rt.python reading rule = .ok input)
    (h_model : input.modelValidate rt.python = .ok model)
    (h_legacy : (legacyKeys.lookup model.ruleType).isSome = true)
    (h : validateBoundRule rt.python reading rule = .ok ()) (ruleId : Uuid) :
    (∃ cr, compileRule rt (model.toRule ruleId) = .ok cr) ∧
      ((∃ cr, compileRule rt (model.toRule ruleId) = .ok cr ∧
          Enforces rt reading model.ruleType model.parameters cr) ↔
        NamesWhatIsRead model.ruleType model.parameters) := by
  have h_checked : validateLegacyParams rt.python reading model.ruleType model.parameters =
      .ok () := by
    unfold validateBoundRule at h
    rw [h_input] at h
    simp only [bind, Except.bind, h_model, h_legacy, if_true] at h
    exact h
  obtain ⟨kind, h_kind, h_type⟩ := legacyKind_of_lookup h_legacy
  obtain ⟨cr, h_compile, h_enforces⟩ :
      ∃ cr, compileRule rt (model.toRule ruleId) = .ok cr ∧
        (Enforces rt reading model.ruleType model.parameters cr ↔
          NamesWhatIsRead model.ruleType model.parameters) :=
    compile_of_checked h_upper h_spark h_inside h_kind h_type h_checked
  refine ⟨⟨cr, h_compile⟩, ?_, fun h_names => ⟨cr, h_compile, h_enforces.mpr h_names⟩⟩
  rintro ⟨cr', h_compile', h_enforces'⟩
  obtain rfl := Except.ok.inj (h_compile.symm.trans h_compile')
  exact h_enforces.mp h_enforces'

/-! ### Parameters that are `None` -/

/-- Python with the upper case of ASCII texts. -/
def upperPython : Python ℚ :=
  { literalPython with upper := fun s => String.ofList (s.toList.map Char.toUpper) }

/-- Spark with the text "1.5". -/
def fractionSpark : Spark ℚ :=
  { literalSpark with
    hasLiteral := fun _ => true
    tryCastDouble := fun s => if s = "1.5" then some (3 / 2) else none }

/-- The runtime of the two. -/
def fractionRuntime : Runtime ℚ :=
  { literalRuntime with python := upperPython, spark := fractionSpark }

/-- Integers and fractions are read as they are. -/
def fractionReading : NumberReading ℚ ℚ where
  float
    | .int n => some n
    | .float x => some x
    | _ => none
  isFinite := fun _ => true

theorem uppersAscii_upperPython : upperPython.UppersAscii := fun _ _ => rfl

theorem readsLiterals_fractionSpark : fractionSpark.ReadsLiterals :=
  ⟨fun _ => rfl, fun _ _ _ => rfl, rfl, rfl⟩

theorem finiteInside_fractionReading : fractionReading.FiniteInside :=
  fun x _ => ⟨⟨x - 1, sub_one_lt x⟩, x + 1, lt_add_one x⟩

/-- A rule on the column `age` as an object. -/
def ageRule (ruleType : String) (params : PyDict) : PyDict := [
  ("rule_code", .str "AGE_CHECK"), ("dimension", .str "VALIDITY"), ("rule_type", .str ruleType),
  ("parameters", .dict (("column", .str "age") :: params))]

/-- The rule as the API reads it. -/
def ageInput (ruleType : String) (params : PyDict) : CreateQualityRuleInput ℚ where
  ruleCode := "AGE_CHECK"
  dimension := "VALIDITY"
  ruleType
  parameters := ("column", .str "age") :: params
  contributionWeight := 1

/-- The sample rule is read as it was written. -/
theorem ofObject_ageRule (ruleType : String) (params : PyDict) :
    CreateQualityRuleInput.ofObject upperPython fractionReading (ageRule ruleType params) =
      .ok (ageInput ruleType params) := rfl

/-- The sample rule passes the validators. -/
theorem modelValidate_ageInput :
    (ageInput "DOMAIN_RANGE" [("min", .int 0)]).modelValidate upperPython =
      .ok (ageInput "DOMAIN_RANGE" [("min", .int 0)]) := rfl

/-- A lower bound of 0 is enforced. -/
theorem accepted_enforced_iff_ageRule :
    ∃ cr, compileRule fractionRuntime
        ((ageInput "DOMAIN_RANGE" [("min", .int 0)]).toRule (Uuid.repeated 1)) = .ok cr ∧
      Enforces fractionRuntime fractionReading "DOMAIN_RANGE"
        [("column", .str "age"), ("min", .int 0)] cr := by
  refine (accepted_enforced_iff uppersAscii_upperPython readsLiterals_fractionSpark
    finiteInside_fractionReading (ofObject_ageRule _ _) modelValidate_ageInput rfl rfl
    (Uuid.repeated 1)).2.mpr ⟨fun _ _ => ⟨"min", by decide, rfl⟩, fun h_type => ?_⟩
  exact absurd h_type (by decide)

/-- A range whose only bound is `None` is accepted, and no number fails it. A type that is `None`
under the name `type` is accepted, and a decimal fraction does not parse as it. -/
theorem ageRule_notEnforced :
    validateBoundRule fractionRuntime.python fractionReading
        (ageRule "DOMAIN_RANGE" [("min", .none)]) = .ok () ∧
      (∃ cr, compileRule fractionRuntime
          ((ageInput "DOMAIN_RANGE" [("min", .none)]).toRule (Uuid.repeated 1)) = .ok cr ∧
        (∀ row, cr.failedExpr.value row ≠ some true) ∧
        ¬ Enforces fractionRuntime fractionReading "DOMAIN_RANGE"
          [("column", .str "age"), ("min", .none)] cr) ∧
      validateBoundRule fractionRuntime.python fractionReading
        (ageRule "TYPE_PARSE" [("type", .none)]) = .ok () ∧
      ∃ cr, compileRule fractionRuntime
          ((ageInput "TYPE_PARSE" [("type", .none)]).toRule (Uuid.repeated 1)) = .ok cr ∧
        cr.miscastExpr.value { cell := fun _ => some "1.5" } = some true ∧
        ¬ Enforces fractionRuntime fractionReading "TYPE_PARSE"
          [("column", .str "age"), ("type", .none)] cr := by
  have h_false : ∀ x : Option Bool, Framework.Kleene.and3 x (some false) ≠ some true := by decide
  refine ⟨rfl, ⟨_, rfl, fun row => h_false _, fun h => ?_⟩, rfl, _, rfl, by decide, fun h => ?_⟩
  · obtain ⟨min, max, h_min, h_max, -, x, h_outside⟩ := EnforcesDomain.bounds h rfl
    have h_no_min := h_min.isSome_iff
    have h_no_max := h_max.isSome_iff
    rcases h_outside with ⟨lo, rfl, -⟩ | ⟨hi, rfl, -⟩
    · exact absurd (h_no_min.mp rfl) (by decide)
    · exact absurd (h_no_max.mp rfl) (by decide)
  · obtain ⟨declared, h_declared, -, h_conditions⟩ := h
    obtain rfl := Except.ok.inj h_declared
    exact parseColumn_double_ne readsLiterals_fractionSpark (by decide) (by decide) h_conditions

end DqScoring
