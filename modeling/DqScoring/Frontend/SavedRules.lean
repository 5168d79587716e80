import DqScoring.Frontend.ExtendedRoundTrip
import Mathlib.Data.Rat.Encodable

/-!
# Rules that survive the form

Which of the rules that the API accepts mean the same after they were loaded into the form and
saved (`sameMeaning_iff`).
-/

namespace DqScoring

open Framework

variable {α δ : Type}

section Saved

variable {js : Js α} {rt : Runtime δ} {rule : CreateQualityRuleInput α} {kind : RuleKind}
  {sent : PyDict}

/-! ### Parameters -/

/-- A rule whose target comes back had a trimmed column. -/
theorem trim_of_target {params : PyDict} {column : String} (h_ne : column ≠ "")
    (h_column : params.get "column" = .str column) (h_other : params.get "target_column" = .none)
    (h : targetName params =
      columnName (.str (jsTrim (js.textOr params ["column", "target_column"] "")))) :
    jsTrim column = column := by
  have h_shown : js.textOr params ["column", "target_column"] "" = column :=
    Js.textOr_of_get "" h_column rfl
  rw [targetName, h_column, h_other, h_shown] at h
  -- a blank column would leave no target
  have h_left : columnName (PyValue.none.orElse (.str column)) = some column := by
    show (some column).filter (· ≠ "") = _
    exact Option.filter_eq_some_iff.mpr ⟨rfl, decide_eq_true h_ne⟩
  rw [h_left] at h
  exact (Option.some.inj (Option.filter_eq_some_iff.mp h.symm).1)

/-- The reading of a kind survives exactly if its parameters do. -/
theorem reading_saved_iff [Field α] (h_literal : ∀ s, rt.spark.hasLiteral (.str s) = true)
    (h_json : ∀ x, ∃ d, rt.python.float (js.json x) = .ok d)
    (h_valid : IsValidated rt.python kind sent rule)
    (h_target : targetName rule.parameters =
      columnName (.str (jsTrim (js.textOr rule.parameters ["column", "target_column"] "")))) :
    kind.reading rt (savedParameters js rule) = kind.reading rt rule.parameters ↔
      KeepsParameters js rt rule.parameters kind := by
  have h_type := h_valid.ruleType
  have h_parameters := h_valid.parameters
  cases kind with
  -- these types read no parameter that the form could change
  | nonNull | uniqueness => exact iff_of_true rfl trivial
  | typeParse =>
    -- type and format are saved and read back together
    show RuleReading.typeParse _ = RuleReading.typeParse _ ↔ _ = _
    rw [RuleReading.typeParse.injEq, saved_typeParse rt.python h_type, eq_comm]
  | domainRange =>
    -- what a domain check keeps depends on its mode
    show RuleReading.domainRange _ = RuleReading.domainRange _ ↔ KeepsDomain js rt _
    rw [RuleReading.domainRange.injEq, saved_domain_iff h_literal h_json h_type]
  | crossField =>
    -- column, operator and type are three fields of the form
    obtain ⟨h_column, h_operator, h_compared⟩ := saved_crossField js rt.python h_type
    show RuleReading.crossField _ _ _ = RuleReading.crossField _ _ _ ↔ _ = _ ∧ _ = _ ∧ _ = _
    rw [RuleReading.crossField.injEq, h_column, h_operator, h_compared]
    exact and_congr eq_comm (and_congr eq_comm eq_comm)
  | textQuality =>
    obtain ⟨p, h_read, h_params⟩ := map_eq_ok_iff.mp h_parameters
    have h_trim := trim_of_target p.column_ne (by rw [← h_params, PyDict.get, p.lookup_dump]; rfl)
      (by rw [← h_params, PyDict.get, p.lookup_dump]; rfl) h_target
    have h_loaded : TextQualityParameters.validate rule.parameters = .ok p := by
      rw [← h_params]
      exact TextQualityParameters.validate_eq_ok_iff.mpr p.reads_dump
    show RuleReading.textQuality _ = RuleReading.textQuality _ ↔ _
    rw [RuleReading.textQuality.injEq, h_loaded]
    exact reading_eq_some_iff.trans (saved_textQuality_iff h_type h_params.symm h_trim)
  | jsonField =>
    obtain ⟨p, h_read, h_params⟩ := map_eq_ok_iff.mp h_parameters
    have h_trim := trim_of_target p.column_ne (by rw [← h_params, PyDict.get, p.lookup_dump]; rfl)
      (by rw [← h_params, PyDict.get, p.lookup_dump]; rfl) h_target
    have h_admissible := (JsonFieldParameters.validate_eq_ok_iff.mp h_read).admissible
    have h_loaded : JsonFieldParameters.validate rt.python rule.parameters = .ok p := by
      rw [← h_params]
      exact JsonFieldParameters.validate_eq_ok_iff.mpr h_admissible.reads_dump
    show RuleReading.jsonField _ = RuleReading.jsonField _ ↔ _
    rw [RuleReading.jsonField.injEq, h_loaded]
    exact reading_eq_some_iff.trans
      (saved_jsonField_iff h_admissible h_type h_params.symm h_trim)
  | jsonArray =>
    obtain ⟨p, h_read, h_params⟩ := map_eq_ok_iff.mp h_parameters
    have h_trim := trim_of_target p.column_ne (by rw [← h_params, PyDict.get, p.lookup_dump]; rfl)
      (by rw [← h_params, PyDict.get, p.lookup_dump]; rfl) h_target
    have h_loaded : JsonArrayParameters.validate rt.python rule.parameters = .ok p := by
      rw [← h_params]
      exact JsonArrayParameters.validate_eq_ok_iff.mpr (p.reads_dump rt.python)
    show RuleReading.jsonArray _ = RuleReading.jsonArray _ ↔ _
    rw [RuleReading.jsonArray.injEq, h_loaded]
    exact reading_eq_some_iff.trans (saved_jsonArray_iff rt.python h_type h_params.symm h_trim)
  | spelling =>
    obtain ⟨p, h_read, h_params⟩ := map_eq_ok_iff.mp h_parameters
    have h_trim := trim_of_target p.column_ne (by rw [← h_params, PyDict.get, p.lookup_dump]; rfl)
      (by rw [← h_params, PyDict.get, p.lookup_dump]; rfl) h_target
    have h_reads := SpellingParameters.validate_eq_ok_iff.mp h_read
    have h_loaded : SpellingParameters.validate rule.parameters = .ok p := by
      rw [← h_params]
      exact SpellingParameters.validate_eq_ok_iff.mpr h_reads.dump
    show RuleReading.spelling _ = RuleReading.spelling _ ↔ _
    rw [RuleReading.spelling.injEq, h_loaded]
    exact reading_eq_some_iff.trans (saved_spelling_iff h_reads h_type h_params.symm h_trim)

/-! ### Flags and numbers -/

/-- The form forces the flags of the rules that the API forces. -/
theorem forced_iff [Zero α] (js : Js α) (h_valid : IsValidated rt.python kind sent rule) :
    (decide ((fromRuleInput js rule).ruleType = .spelling) ||
      (decide ((fromRuleInput js rule).ruleType = .textQuality) &&
        (fromRuleInput js rule).check == "MOJIBAKE")) = true ↔
      IsForcedAdvisory kind rule.parameters := by
  have h_form : (fromRuleInput js rule).ruleType = draftType kind.value rule.parameters :=
    congrArg (draftType · _) h_valid.ruleType
  rw [h_form, IsForcedAdvisory]
  cases kind with
  | textQuality =>
    obtain ⟨p, _, h_params⟩ := map_eq_ok_iff.mp h_valid.parameters
    have h_check : PyValue.str (fromRuleInput js rule).check = nameIn textChecks p.check :=
      congrArg PyValue.str (textOr_text _ (by rw [← h_params, get_textCheck]; rfl))
    have h_type : draftType RuleKind.textQuality.value rule.parameters = .textQuality := rfl
    rw [h_type, ← h_params, get_textCheck, ← h_check]
    simp [PyValue.text?]
  | domainRange =>
    refine iff_of_false ?_ (by simp)
    have h_domain : ∀ c : RuleType, c ≠ .regex → c ≠ .allowedValues → c ≠ .range →
        draftType RuleKind.domainRange.value rule.parameters ≠ c := by
      intro c h_regex h_values h_range
      show (if _ then _ else _) ≠ c
      split
      · exact h_regex.symm
      · split
        · exact h_values.symm
        · exact h_range.symm
    simp [h_domain]
  | _ => simp [draftType, RuleKind.value]

/-- A number survives its text, and an absent one is no text. -/
theorem threshold_saved (js : Js α) (threshold : Option α) :
    (if threshold.elim "" js.text = "" then none else js.number (threshold.elim "" js.text)) =
      threshold := by
  cases threshold with
  | none => rfl
  | some x =>
    have h_ne : js.text x ≠ "" := by
      intro h_empty
      refine js.text_ne x ?_
      rw [h_empty]
      rfl
    exact (if_neg h_ne).trans (js.number_text x)

/-- Which flags and null policies survive the form. -/
theorem flags_saved [Zero α] (js : Js α) (h_valid : IsValidated rt.python kind sent rule) :
    let saved := toRuleInput js (fromRuleInput js rule)
    saved.isAdvisory = rule.isAdvisory ∧
      saved.isRequired = (!rule.isAdvisory && rule.isRequired) ∧
      saved.isCritical = (!rule.isAdvisory && rule.isCritical) ∧
      saved.gateEnabled = !rule.isAdvisory ∧
      saved.scoreEnabled = !rule.isAdvisory ∧
      saved.contributionWeight = some rule.contributionWeight ∧
      saved.acceptanceThreshold = rule.acceptanceThreshold := by
  have h_forced := forced_iff js h_valid
  intro saved
  have h_advisory : saved.isAdvisory = rule.isAdvisory := by
    show (rule.isAdvisory || _) = rule.isAdvisory
    rw [Bool.or_eq_left_iff_imp]
    exact fun h => h_valid.advisory (h_forced.mp h)
  refine ⟨h_advisory, ?_, ?_, ?_, ?_, ?_, threshold_saved js rule.acceptanceThreshold⟩
  · show (!saved.isAdvisory && rule.isRequired) = _
    rw [h_advisory]
  · show (!saved.isAdvisory && rule.isCritical) = _
    rw [h_advisory]
  · show (!saved.isAdvisory) = _
    rw [h_advisory]
  · show (!saved.isAdvisory) = _
    rw [h_advisory]
  · show (if _ then _ else _) = _
    split
    case isTrue h => rw [h_valid.weight (h_forced.mp h)]
    case isFalse => exact js.number_text rule.contributionWeight

/-- The null policy comes back when the form offers it. -/
theorem nullPolicy_saved_iff [Zero α] (js : Js α) (rule : CreateQualityRuleInput α) :
    (toRuleInput js (fromRuleInput js rule)).nullPolicy = rule.nullPolicy ↔
      rule.nullPolicy = "fail" ∨ rule.nullPolicy = "ignore" := by
  show (if rule.nullPolicy = "ignore" then DraftNullPolicy.ignore else .fail).text = _ ↔ _
  by_cases h : rule.nullPolicy = "ignore"
  · rw [if_pos h, h]
    exact iff_of_true rfl (Or.inr rfl)
  · rw [if_neg h]
    exact eq_comm.trans (or_iff_left h).symm

/-! ### Main result -/

/-- **Which rules mean the same after they were loaded and saved**: of the rules that the API
accepts, those that the form keeps. -/
theorem sameMeaning_iff [Field α] [LinearOrder α] {input : CreateQualityRuleInput α}
    (h_literal : ∀ s, rt.spark.hasLiteral (.str s) = true)
    (h_json : ∀ x, ∃ d, rt.python.float (js.json x) = .ok d)
    (h : input.modelValidate rt.python = .ok rule) :
    SameMeaning rt rule (toRuleInput js (fromRuleInput js rule)) ↔ FormKeeps js rt rule := by
  obtain ⟨kind, h_valid⟩ := exists_isValidated h
  obtain ⟨h_advisory, h_required, h_critical, h_gate, h_score, h_weight, h_threshold⟩ :=
    flags_saved js h_valid
  -- a rule has one type, whose condition is the one that counts
  have h_only : ∀ other : RuleKind, rule.ruleType = other.value → other = kind :=
    fun other h_other => value_injective (h_other.symm.trans h_valid.ruleType)
  have h_target : targetName (toRuleInput js (fromRuleInput js rule)).parameters = _ :=
    saved_target js rule
  constructor
  · -- the rule that comes back has the target of the one that was saved
    intro h_same
    have h_found := h_same.target.symm.trans h_target
    exact {
      nullPolicy := by
        by_cases h_fail : rule.nullPolicy = "fail"
        · exact Or.inl h_fail
        · -- a policy that is neither is saved as `fail`
          refine Or.inr (by_contra fun h_ignore => h_fail (h_same.errors.mp ?_))
          show (if rule.nullPolicy = "ignore" then DraftNullPolicy.ignore else .fail).text = "fail"
          rw [if_neg h_ignore]
          rfl
      gate := h_same.gate.symm.trans h_gate
      score := h_same.score.symm.trans h_score
      required := fun h_on => by
        rw [← h_same.required, h_required, h_on]
        rfl
      critical := fun h_on => by
        rw [← h_same.critical, h_critical, h_on]
        rfl
      target := h_found
      parameters := fun other h_other => by
        -- the readings agree for the type of the rule
        obtain rfl := h_only other h_other
        exact (reading_saved_iff h_literal h_json h_valid h_found).mp
          (h_same.reading other h_other) }
  · -- the form saves what it shows, so the flags come back
    intro h_keeps
    have h_policy := (nullPolicy_saved_iff js rule).mpr h_keeps.nullPolicy
    have h_flag : ∀ {flag : Bool}, (rule.isAdvisory = true → flag = false) →
        (!rule.isAdvisory && flag) = flag := by
      intro flag h_off
      cases h_on : rule.isAdvisory with
      | true => rw [h_off h_on]; rfl
      | false => rfl
    exact {
      ruleType := saved_ruleType h_valid.ruleType
      target := h_target.trans h_keeps.target.symm
      reading := fun other h_other => by
        obtain rfl := h_only other h_other
        exact (reading_saved_iff h_literal h_json h_valid h_keeps.target).mpr
          (h_keeps.parameters other h_other)
      denominator := fun counts => by rw [h_policy]
      errors := by rw [h_policy]
      weight := h_weight
      threshold := h_threshold
      required := h_required.trans (h_flag h_keeps.required)
      critical := h_critical.trans (h_flag h_keeps.critical)
      gate := h_gate.trans h_keeps.gate.symm
      score := h_score.trans h_keeps.score.symm
      advisory := h_advisory }

end Saved

/-! ### An allowed value with a comma -/

/-- The place of a number in an enumeration that starts with 0 and 1. -/
def numberCode (x : ℚ) : ℕ := if x = 0 then 0 else if x = 1 then 1 else Encodable.encode x + 2

/-- The number at a place. -/
def numberAt : ℕ → Option ℚ
  | 0 => some 0
  | 1 => some 1
  | n + 2 => Encodable.decode n

/-- A coded number is read back. -/
theorem numberAt_numberCode (x : ℚ) : numberAt (numberCode x) = some x := by
  unfold numberCode
  split_ifs with h_zero h_one
  · exact congrArg some h_zero.symm
  · exact congrArg some h_one.symm
  · exact Encodable.encodek x

/-- No numeral trims to the empty text. -/
theorem jsTrim_repr_ne (n : ℕ) : jsTrim n.repr ≠ "" := by
  intro h_empty
  have h_nil : trim isJsSpace n.repr.toList = [] := by
    rw [← String.toList_ofList (l := trim isJsSpace n.repr.toList)]
    exact congrArg String.toList h_empty
  -- a digit is no white space
  have h_digits : ∀ c ∈ n.repr.toList, isJsSpace c = false := by
    intro c h_c
    rw [Nat.toList_repr] at h_c
    have h_digit := Nat.isDigit_of_mem_toDigits (by decide) (by decide) h_c
    obtain ⟨h_low, h_high⟩ : 48 ≤ c.toNat ∧ c.toNat ≤ 57 := by
      simpa [Char.isDigit, UInt32.le_iff_toNat_le] using h_digit
    simp [isJsSpace]
    omega
  have h_all : ∀ c ∈ n.repr.toList.dropWhile isJsSpace, isJsSpace c = true :=
    List.rdropWhile_eq_nil_iff.mp h_nil
  have h_kept : n.repr.toList.dropWhile isJsSpace = n.repr.toList := by
    rw [List.dropWhile_eq_self_iff]
    intro h_length
    rw [h_digits _ (List.getElem_mem h_length)]
    exact Bool.false_ne_true
  rw [h_kept] at h_all
  obtain ⟨c, cs, h_cons⟩ := List.exists_cons_of_ne_nil
    (Nat.toList_repr (n := n) ▸ Nat.toDigits_ne_nil)
  have h_c : c ∈ n.repr.toList := h_cons ▸ List.mem_cons_self
  exact Bool.false_ne_true ((h_digits c h_c).symm.trans (h_all c h_c))

/-- A written number is read back. -/
theorem number_repr (x : ℚ) :
    (if (numberCode x).repr.toList.all Char.isDigit then
      numberAt (Nat.ofDigitChars 10 (numberCode x).repr.toList 0) else none) = some x := by
  have h_digits : (numberCode x).repr.toList.all Char.isDigit = true := by
    rw [List.all_eq_true, Nat.toList_repr]
    exact fun c h_c => Nat.isDigit_of_mem_toDigits (by decide) (by decide) h_c
  rw [if_pos h_digits, Nat.toList_repr, Nat.ofDigitChars_toDigits (by decide) (by decide)]
  exact numberAt_numberCode x

/-- Numbers of which 0 and 1 have their texts. -/
def oneDigitJs : Js ℚ where
  parse := some
  text := fun x => (numberCode x).repr
  number := fun text =>
    if text.toList.all Char.isDigit then numberAt (Nat.ofDigitChars 10 text.toList 0) else none
  json := fun x => if x.den = 1 then .int x.num else .float x
  number_text := number_repr
  text_ne := fun x => jsTrim_repr_ne (numberCode x)

/-- What the sample browser writes is a number for Python. -/
theorem float_oneDigitJs (x : ℚ) :
    ∃ d, literalRuntime.python.float (oneDigitJs.json x) = .ok d := by
  show ∃ d, literalPython.float (if x.den = 1 then .int x.num else .float x) = .ok d
  split
  · exact ⟨_, rfl⟩
  · exact ⟨_, rfl⟩

/-- A rule for the column `city`. -/
def cityRule (cities : List String) : CreateQualityRuleInput ℚ where
  ruleCode := "CITY_KNOWN"
  dimension := "VALIDITY"
  ruleType := "DOMAIN_RANGE"
  parameters := [("column", .str "city"), ("allowed_values", .list (cities.map .str))]
  contributionWeight := 1

theorem sameMeaning_iff_cities :
    SameMeaning literalRuntime (cityRule ["Hanoi", "Hue"])
      (toRuleInput oneDigitJs (fromRuleInput oneDigitJs (cityRule ["Hanoi", "Hue"]))) := by
  have h_accepted : (cityRule ["Hanoi", "Hue"]).modelValidate literalRuntime.python =
      .ok (cityRule ["Hanoi", "Hue"]) := rfl
  refine (sameMeaning_iff (fun _ => rfl) float_oneDigitJs h_accepted).mpr ?_
  have h_items : ∀ city ∈ ["Hanoi", "Hue"], IsListItem ',' city := by
    intro city h_city
    simp only [List.mem_cons, List.not_mem_nil, or_false] at h_city
    rcases h_city with rfl | rfl <;> exact ⟨by decide, by decide, by decide⟩
  exact {
    nullPolicy := Or.inl rfl
    gate := rfl
    score := rfl
    required := fun _ => rfl
    critical := fun _ => rfl
    target := by decide
    parameters := fun kind h_kind => by
      obtain rfl : RuleKind.domainRange = kind := value_injective h_kind
      exact ⟨⟨["Hanoi", "Hue"], rfl, h_items⟩, rfl⟩ }

/-- A value with a comma becomes two values. -/
theorem cityRule_splits :
    (cityRule ["Paris, France"]).modelValidate literalRuntime.python =
        .ok (cityRule ["Paris, France"]) ∧
      (toRuleInput oneDigitJs (fromRuleInput oneDigitJs (cityRule ["Paris, France"]))).parameters =
        (cityRule ["Paris", "France"]).parameters ∧
      ¬ SameMeaning literalRuntime (cityRule ["Paris, France"])
        (toRuleInput oneDigitJs (fromRuleInput oneDigitJs (cityRule ["Paris, France"]))) := by
  have h_saved : (toRuleInput oneDigitJs
      (fromRuleInput oneDigitJs (cityRule ["Paris, France"]))).parameters =
        (cityRule ["Paris", "France"]).parameters := by
    have h_items : jsItems ',' "Paris, France" = ["Paris", "France"] := by decide +kernel
    have h_column : jsTrim "city" = "city" := by decide +kernel
    show [("column", PyValue.str (jsTrim "city")),
      ("allowed_values", .list ((jsItems ',' "Paris, France").map .str))] = _
    rw [h_items, h_column]
    rfl
  refine ⟨rfl, h_saved, fun h_same => ?_⟩
  have h_reading := h_same.reading .domainRange rfl
  rw [h_saved] at h_reading
  have h_values : [PyValue.str "Paris", .str "France"] = [PyValue.str "Paris, France"] :=
    DomainCheck.allowedValues.inj (Option.some.inj (RuleReading.domainRange.inj h_reading))
  exact absurd (congrArg List.length h_values) (by decide)

end DqScoring
