import DqScoring.Frontend.RuleRoundTrip

/-!
# The extended types in the form

The parameters of these types are stored in canonical form, so what the form shows is known
field by field. What is saved is read as what was loaded exactly when the counts, the bounds
and the lists survive their texts.
-/

namespace DqScoring

open Framework

variable {α δ : Type}

section Saved

variable {js : Js α} {rt : Runtime δ} {rule : CreateQualityRuleInput α}

/-- A parse that can fail has a reading exactly when it succeeds. -/
theorem reading_eq_some_iff {ε β ρ : Type} {x : Except ε β} {read : β → ρ} {r : ρ} :
    x.toOption.map read = some r ↔ ∃ b, x = .ok b ∧ read b = r := by
  simp only [Option.map_eq_some_iff, toOption_eq_some_iff]

/-! ### Fields -/

/-- A column name without outer white space survives the form's trim. -/
theorem column_saved {column : String} (h : rule.parameters.get "column" = .str column)
    (h_trim : jsTrim column = column) : jsTrim (fromRuleInput js rule).column = column := by
  have h_shown : (fromRuleInput js rule).column = column := Js.textOr_of_get "" h rfl
  rw [h_shown, h_trim]

/-- A text parameter is shown as it stands. -/
theorem textOr_text {d : PyDict} {key text : String} (default : String)
    (h : d.get key = .str text) : js.textOr d [key] default = text :=
  Js.textOr_of_get default h rfl

/-- An optional text is shown as itself or as the default. -/
theorem textOr_optional {d : PyDict} {key : String} {text : Option String} (default : String)
    (h : d.lookup key = text.map .str) : js.textOr d [key] default = text.getD default := by
  have h_get : d.get key = (text.map PyValue.str).getD .none := by rw [PyDict.get, h]
  cases text with
  | none => exact js.textOr_of_none [] default h_get
  | some text => exact textOr_text default h_get

/-- The names of the text checks tell them apart. -/
theorem nameIn_textChecks_injective : Function.Injective (nameIn textChecks) := by
  intro check check' h
  cases check <;> cases check' <;> first | rfl | simp [nameIn, textChecks] at h

/-- The names of the JSON checks tell them apart. -/
theorem nameIn_jsonChecks_injective : Function.Injective (nameIn jsonChecks) := by
  intro check check' h
  cases check <;> cases check' <;> first | rfl | simp [nameIn, jsonChecks] at h

/-! ### Counts -/

/-- A count in the form. -/
def Js.countText (js : Js α) (n : Option ℕ) : String := n.elim "" fun n => js.numeral (n : ℤ)

/-- No numeral is the empty text, so a shown number is never taken for an absent one. -/
theorem numeral_ne (js : Js α) (x : ℚ) : js.numeral x ≠ "" := by
  unfold Js.numeral
  split
  case h_1 y _ =>
    intro h_empty
    refine js.text_ne y ?_
    rw [h_empty]
    rfl
  case h_2 =>
    split
    · decide
    · decide

/-- An optional count is shown as its numeral, or as the empty text. -/
theorem textOr_count {params : PyDict} {key : String} {n : Option ℕ}
    (h : params.lookup key = n.map fun n : ℕ => .int n) :
    js.textOr params [key] "" = js.countText n := by
  have h_get : params.get key = (n.map fun n : ℕ => PyValue.int n).getD .none := by
    rw [PyDict.get, h]
  cases n with
  | none => exact js.textOr_of_none [] "" h_get
  | some n => exact Js.textOr_of_get "" h_get rfl

/-- A count contributes at most the entry of its own key. -/
theorem mem_count {key text : String} {entry : String × PyValue} (h : entry ∈ js.count key text) :
    entry.1 = key := by
  unfold Js.count at h
  split at h
  · cases h
  · rw [List.mem_singleton.mp h]

/-- A count leaves the other keys alone. -/
theorem lookup_count_of_ne {key name : String} (h : key ≠ name) (text : String) :
    (js.count name text).lookup key = none := by
  rw [List.lookup_eq_none_iff]
  intro entry h_entry
  rw [bne_iff_ne, mem_count h_entry]
  exact h

/-- A saved count is read back exactly if it is the same number in the browser. -/
theorem count_saved_iff {saved : PyDict} {key : String} {n : Option ℕ}
    (h : saved.lookup key = (js.count key (js.countText n)).lookup key) :
    optional saved key validateCount = .ok n ↔ ∀ m, n = some m → js.KeepsCount m := by
  cases n with
  | none =>
    refine iff_of_true ?_ nofun
    rw [optional, PyDict.get, h]
    rfl
  | some m =>
    have h_get : saved.get key = js.sent (js.numeral (m : ℤ)) := by
      have h_text : js.countText (some m) ≠ "" := numeral_ne js (m : ℤ)
      rw [PyDict.get, h, Js.count, if_neg h_text, List.lookup_cons, beq_self_eq_true]
      rfl
    constructor
    · rintro h_read _ ⟨⟩
      have h_count := optional_ok h_read
      rw [h_get] at h_count
      unfold Js.KeepsCount
      generalize js.sent (js.numeral (m : ℤ)) = v at h_count
      cases v with
      | int z =>
        by_cases h_z : 0 ≤ z
        · rw [validateCount, if_pos h_z] at h_count
          rw [← Except.ok.inj h_count, Int.toNat_of_nonneg h_z]
        · rw [validateCount, if_neg h_z] at h_count
          cases h_count
      | _ => cases h_count
    · intro h_keeps
      rw [optional, h_get, h_keeps m rfl]
      show some <$> validateCount key (.int m) = _
      rw [validateCount_nat]
      rfl

/-- The counts that the parameters hold under a key. -/
theorem forall_count_iff {params : PyDict} {key : String} {n : Option ℕ}
    (h : params.lookup key = n.map fun n : ℕ => .int n) :
    (∀ z, params.get key = .int z → js.KeepsCount z) ↔ ∀ m, n = some m → js.KeepsCount m := by
  rw [PyDict.get, h]
  cases n with
  | none => exact ⟨fun _ m h_m => (by cases h_m), fun _ z h_z => (by cases h_z)⟩
  | some m =>
    constructor
    · rintro h_keeps _ ⟨⟩
      exact h_keeps m rfl
    · rintro h_keeps z ⟨⟩
      exact h_keeps m rfl

/-! ### Text quality -/

section TextQuality

variable {p : TextQualityParameters}

theorem lookup_minLength (p : TextQualityParameters) :
    p.dump.lookup "min_length" = p.minLength.map fun n : ℕ => .int n :=
  (p.lookup_dump "min_length").trans (by cases p.minLength <;> rfl)

theorem lookup_maxLength (p : TextQualityParameters) :
    p.dump.lookup "max_length" = p.maxLength.map fun n : ℕ => .int n :=
  (p.lookup_dump "max_length").trans (by cases p.maxLength <;> rfl)

/-- Of the lower bounds that the form looks for, a text rule has `min_length` only. -/
theorem minLength_shown (p : TextQualityParameters) :
    js.textOr p.dump ["min", "min_items", "min_length", "min_value"] "" =
      js.countText p.minLength := by
  rw [js.textOr_of_single "" (by decide : "min_length" ∈ _), textOr_count (lookup_minLength p)]
  intro key h_key h_ne
  rw [PyDict.get, p.lookup_dump]
  simp only [List.mem_cons, List.not_mem_nil, or_false] at h_key
  rcases h_key with rfl | rfl | rfl | rfl <;> first | rfl | exact absurd rfl h_ne

/-- Of the upper bounds that the form looks for, a text rule has `max_length` only. -/
theorem maxLength_shown (p : TextQualityParameters) :
    js.textOr p.dump ["max", "max_items", "max_length", "max_value"] "" =
      js.countText p.maxLength := by
  rw [js.textOr_of_single "" (by decide : "max_length" ∈ _), textOr_count (lookup_maxLength p)]
  intro key h_key h_ne
  rw [PyDict.get, p.lookup_dump]
  simp only [List.mem_cons, List.not_mem_nil, or_false] at h_key
  rcases h_key with rfl | rfl | rfl | rfl <;> first | rfl | exact absurd rfl h_ne

/-- The dumped check is the name that the form offers. -/
theorem get_textCheck (p : TextQualityParameters) :
    p.dump.get "check" = nameIn textChecks p.check := by
  rw [PyDict.get, p.lookup_dump]
  rfl

/-- The form shows the bounds of a text rule exactly for the length check. -/
theorem isLength_iff : p.dump.get "check" = .str "LENGTH" ↔ p.check = .length := by
  rw [get_textCheck, ← nameIn_textChecks_injective.eq_iff]
  rfl

/-- The bounds are saved with the check of a length. -/
theorem saved_textQuality (js : Js α) (h_type : rule.ruleType = RuleKind.textQuality.value)
    (h_params : rule.parameters = p.dump) (h_trim : jsTrim p.column = p.column) :
    savedParameters js rule = ("column", .str p.column) :: ("check", nameIn textChecks p.check) ::
      if p.check = .length then
        js.count "min_length" (js.countText p.minLength) ++
          js.count "max_length" (js.countText p.maxLength)
      else [] := by
  have h_form : (fromRuleInput js rule).ruleType = .textQuality := congrArg (draftType · _) h_type
  have h_column : jsTrim (fromRuleInput js rule).column = p.column :=
    column_saved (by rw [h_params, PyDict.get, p.lookup_dump]; rfl) h_trim
  have h_check : PyValue.str (fromRuleInput js rule).check = nameIn textChecks p.check :=
    congrArg PyValue.str (textOr_text _ (by rw [h_params, get_textCheck]; rfl))
  have h_length : (fromRuleInput js rule).check = "LENGTH" ↔ p.check = .length := by
    rw [← nameIn_textChecks_injective.eq_iff, ← h_check, ← PyValue.str.injEq]
    rfl
  have h_min : (fromRuleInput js rule).min = js.countText p.minLength := by
    rw [← minLength_shown p, ← h_params]
    rfl
  have h_max : (fromRuleInput js rule).max = js.countText p.maxLength := by
    rw [← maxLength_shown p, ← h_params]
    rfl
  simp only [savedParameters, RuleDraft.parameters, RuleDraft.typeParameters, h_form, h_column,
    h_check, h_length, h_min, h_max]

/-- A text rule comes back with its meaning exactly when the form keeps its parameters. -/
theorem saved_textQuality_iff (h_type : rule.ruleType = RuleKind.textQuality.value)
    (h_params : rule.parameters = p.dump) (h_trim : jsTrim p.column = p.column) :
    (∃ q, TextQualityParameters.validate (savedParameters js rule) = .ok q ∧
      q.reading = p.reading) ↔ KeepsParameters js rt rule.parameters .textQuality := by
  have h_saved := saved_textQuality js h_type h_params h_trim
  -- the length check is the only one with bounds
  by_cases h_length : p.check = .length
  · rw [if_pos h_length] at h_saved
    have h_min : (savedParameters js rule).lookup "min_length" =
        (js.count "min_length" (js.countText p.minLength)).lookup "min_length" := by
      rw [h_saved]
      show List.lookup "min_length" (_ ++ _) = _
      rw [List.lookup_append, lookup_count_of_ne (by decide : "min_length" ≠ "max_length"),
        Option.or_none]
    have h_max : (savedParameters js rule).lookup "max_length" =
        (js.count "max_length" (js.countText p.maxLength)).lookup "max_length" := by
      rw [h_saved]
      show List.lookup "max_length" (_ ++ _) = _
      rw [List.lookup_append, lookup_count_of_ne (by decide : "max_length" ≠ "min_length"),
        Option.none_or]
    -- so the form keeps the parameters exactly when both bounds are read back
    have h_keeps : KeepsParameters js rt rule.parameters .textQuality ↔
        (∀ m, p.minLength = some m → js.KeepsCount m) ∧
          ∀ m, p.maxLength = some m → js.KeepsCount m := by
      have h_check : p.dump.get "check" = .str "LENGTH" := isLength_iff.mpr h_length
      rw [h_params, ← forall_count_iff (lookup_minLength p),
        ← forall_count_iff (lookup_maxLength p)]
      simp only [KeepsParameters, h_check, forall_const, List.forall_mem_cons, List.not_mem_nil,
        false_implies, and_true]
    rw [h_keeps, ← count_saved_iff h_min, ← count_saved_iff h_max]
    constructor
    · -- one direction compares the readings, the other builds the parameters again
      rintro ⟨q, h_q, h_reading⟩
      have h_reads := TextQualityParameters.validate_eq_ok_iff.mp h_q
      have h_check : q.check = .length := (congrArg TextReading.check h_reading).trans h_length
      have h_min_same := congrArg TextReading.minLength h_reading
      have h_max_same := congrArg TextReading.maxLength h_reading
      simp only [TextQualityParameters.reading, h_check, h_length, if_true] at h_min_same h_max_same
      exact ⟨h_min_same ▸ h_reads.minLength, h_max_same ▸ h_reads.maxLength⟩
    · rintro ⟨h_min_read, h_max_read⟩
      refine ⟨p, TextQualityParameters.validate_eq_ok_iff.mpr ?_, rfl⟩
      exact {
        extra := by
          refine forbidExtra_eq_ok fun entry h_entry => ?_
          rw [h_saved, List.mem_cons, List.mem_cons, List.mem_append] at h_entry
          rcases h_entry with rfl | rfl | h_entry | h_entry
          · simp
          · simp
          · simp [mem_count h_entry]
          · simp [mem_count h_entry]
        column := required_of_lookup (by rw [h_saved]; rfl) (validateNonempty_str p.column_ne)
        check := required_of_lookup (by rw [h_saved]; rfl) (by rw [h_length]; rfl)
        minLength := h_min_read
        maxLength := h_max_read }
  · -- the bounds of the other checks are not saved, and not read either
    rw [if_neg h_length] at h_saved
    have h_keeps : KeepsParameters js rt rule.parameters .textQuality := by
      intro h_check
      rw [h_params] at h_check
      exact absurd (isLength_iff.mp h_check) h_length
    refine iff_of_true ⟨⟨p.column, p.check, none, none, p.column_ne, fun h => absurd h h_length,
      fun h => absurd h h_length⟩, TextQualityParameters.validate_eq_ok_iff.mpr ?_, ?_⟩ h_keeps
    · exact {
        extra := by rw [h_saved]; rfl
        column := required_of_lookup (by rw [h_saved]; rfl) (validateNonempty_str p.column_ne)
        check := required_of_lookup (by rw [h_saved]; rfl) (by cases p.check <;> rfl)
        minLength := by rw [h_saved]; rfl
        maxLength := by rw [h_saved]; rfl }
    · simp only [TextQualityParameters.reading, if_neg h_length]

end TextQuality

/-! ### JSON arrays -/

section JsonArray

variable {p : JsonArrayParameters}

theorem lookup_minItems (p : JsonArrayParameters) :
    p.dump.lookup "min_items" = p.minItems.map fun n : ℕ => .int n :=
  (p.lookup_dump "min_items").trans (by cases p.minItems <;> rfl)

theorem lookup_maxItems (p : JsonArrayParameters) :
    p.dump.lookup "max_items" = p.maxItems.map fun n : ℕ => .int n :=
  (p.lookup_dump "max_items").trans (by cases p.maxItems <;> rfl)

/-- Of the lower bounds that the form looks for, an array rule has `min_items` only. -/
theorem minItems_shown (p : JsonArrayParameters) :
    js.textOr p.dump ["min", "min_items", "min_length", "min_value"] "" =
      js.countText p.minItems := by
  rw [js.textOr_of_single "" (by decide : "min_items" ∈ _), textOr_count (lookup_minItems p)]
  intro key h_key h_ne
  rw [PyDict.get, p.lookup_dump]
  simp only [List.mem_cons, List.not_mem_nil, or_false] at h_key
  rcases h_key with rfl | rfl | rfl | rfl <;> first | rfl | exact absurd rfl h_ne

/-- Of the upper bounds that the form looks for, an array rule has `max_items` only. -/
theorem maxItems_shown (p : JsonArrayParameters) :
    js.textOr p.dump ["max", "max_items", "max_length", "max_value"] "" =
      js.countText p.maxItems := by
  rw [js.textOr_of_single "" (by decide : "max_items" ∈ _), textOr_count (lookup_maxItems p)]
  intro key h_key h_ne
  rw [PyDict.get, p.lookup_dump]
  simp only [List.mem_cons, List.not_mem_nil, or_false] at h_key
  rcases h_key with rfl | rfl | rfl | rfl <;> first | rfl | exact absurd rfl h_ne

/-- The parameters of a JSON array rule are saved but for the numbers of the browser. -/
theorem saved_jsonArray (js : Js α) (h_type : rule.ruleType = RuleKind.jsonArray.value)
    (h_params : rule.parameters = p.dump) (h_trim : jsTrim p.column = p.column) :
    savedParameters js rule = ("column", .str p.column) :: ("path", .str p.path) ::
      (js.count "min_items" (js.countText p.minItems) ++
        js.count "max_items" (js.countText p.maxItems) ++
          [("unique_items", .bool p.uniqueItems)]) := by
  have h_form : (fromRuleInput js rule).ruleType = .jsonArray := congrArg (draftType · _) h_type
  have h_column : jsTrim (fromRuleInput js rule).column = p.column :=
    column_saved (by rw [h_params, PyDict.get, p.lookup_dump]; rfl) h_trim
  have h_path : (fromRuleInput js rule).path = p.path :=
    textOr_text "" (by rw [h_params, PyDict.get, p.lookup_dump]; rfl)
  have h_unique : (fromRuleInput js rule).uniqueItems = p.uniqueItems := by
    show jsTruthy (rule.parameters.get "unique_items") = _
    rw [h_params, PyDict.get, p.lookup_dump]
    rfl
  have h_min : (fromRuleInput js rule).min = js.countText p.minItems := by
    rw [← minItems_shown p, ← h_params]
    rfl
  have h_max : (fromRuleInput js rule).max = js.countText p.maxItems := by
    rw [← maxItems_shown p, ← h_params]
    rfl
  simp only [savedParameters, RuleDraft.parameters, RuleDraft.typeParameters, h_form, h_column,
    h_path, h_unique, h_min, h_max]

/-- An array rule comes back with its meaning exactly when the form keeps its parameters. -/
theorem saved_jsonArray_iff (python : Python δ) (h_type : rule.ruleType = RuleKind.jsonArray.value)
    (h_params : rule.parameters = p.dump) (h_trim : jsTrim p.column = p.column) :
    (∃ q, JsonArrayParameters.validate python (savedParameters js rule) = .ok q ∧
      q.reading = p.reading) ↔ KeepsParameters js rt rule.parameters .jsonArray := by
  have h_saved := saved_jsonArray js h_type h_params h_trim
  -- each bound is sent as the form shows it
  have h_min : (savedParameters js rule).lookup "min_items" =
      (js.count "min_items" (js.countText p.minItems)).lookup "min_items" := by
    rw [h_saved]
    show List.lookup "min_items" (_ ++ _ ++ _) = _
    rw [List.lookup_append, List.lookup_append,
      lookup_count_of_ne (by decide : "min_items" ≠ "max_items"), Option.or_none]
    exact Option.or_none
  have h_max : (savedParameters js rule).lookup "max_items" =
      (js.count "max_items" (js.countText p.maxItems)).lookup "max_items" := by
    rw [h_saved]
    show List.lookup "max_items" (_ ++ _ ++ _) = _
    rw [List.lookup_append, List.lookup_append,
      lookup_count_of_ne (by decide : "max_items" ≠ "min_items"), Option.none_or]
    exact Option.or_none
  -- the flag is always sent
  have h_unique : (savedParameters js rule).lookup "unique_items" = some (.bool p.uniqueItems) := by
    rw [h_saved]
    show List.lookup "unique_items" (_ ++ _ ++ _) = _
    rw [List.lookup_append, List.lookup_append,
      lookup_count_of_ne (by decide : "unique_items" ≠ "min_items"),
      lookup_count_of_ne (by decide : "unique_items" ≠ "max_items")]
    rfl
  have h_keeps : KeepsParameters js rt rule.parameters .jsonArray ↔
      (∀ m, p.minItems = some m → js.KeepsCount m) ∧
        ∀ m, p.maxItems = some m → js.KeepsCount m := by
    rw [h_params, ← forall_count_iff (lookup_minItems p), ← forall_count_iff (lookup_maxItems p)]
    simp only [KeepsParameters, List.forall_mem_cons, List.not_mem_nil, false_implies,
      implies_true, and_true]
  rw [h_keeps, ← count_saved_iff h_min, ← count_saved_iff h_max]
  constructor
  · -- one direction compares the readings, the other builds the parameters again
    rintro ⟨q, h_q, h_reading⟩
    have h_reads := JsonArrayParameters.validate_eq_ok_iff.mp h_q
    have h_min_same : q.minItems = p.minItems := congrArg ArrayReading.minItems h_reading
    have h_max_same : q.maxItems = p.maxItems := congrArg ArrayReading.maxItems h_reading
    exact ⟨h_min_same ▸ h_reads.minItems, h_max_same ▸ h_reads.maxItems⟩
  · rintro ⟨h_min_read, h_max_read⟩
    refine ⟨p, JsonArrayParameters.validate_eq_ok_iff.mpr ?_, rfl⟩
    exact {
      extra := by
        refine forbidExtra_eq_ok fun entry h_entry => ?_
        rw [h_saved, List.mem_cons, List.mem_cons, List.mem_append, List.mem_append,
          List.mem_singleton] at h_entry
        rcases h_entry with rfl | rfl | (h_entry | h_entry) | rfl
        · simp
        · simp
        · simp [mem_count h_entry]
        · simp [mem_count h_entry]
        · simp
      column := required_of_lookup (by rw [h_saved]; rfl) (validateNonempty_str p.column_ne)
      path := required_of_lookup (by rw [h_saved]; rfl) rfl
      minItems := h_min_read
      maxItems := h_max_read
      unique := by rw [JsonArrayParameters.readUnique, h_unique]; rfl }

end JsonArray

/-! ### JSON fields -/

section JsonField

variable {p : JsonFieldParameters}

/-- The reading of a field rule sees the payload of its own check only. -/
theorem reading_ownPayload (p : JsonFieldParameters) : p.ownPayload.reading = p.reading := by
  simp only [JsonFieldParameters.reading, JsonFieldParameters.ownPayload]
  congr 1 <;> split <;> rfl

/-- What a draft saves with a check. -/
def RuleDraft.checkPayload (r : RuleDraft) : JsonCheck → PyDict
  | .nonNull => []
  | .type => [("expected_type", .str r.expectedType)]
  | .range => textEntry "min" r.min ++ textEntry "max" r.max
  | .regex => [("pattern", .str r.pattern)]
  | .allowedValues => [("allowed_values", .list ((jsItems ',' r.allowed).map .str))]

/-- The dumped check is the name that the form offers. -/
theorem get_jsonCheck (p : JsonFieldParameters) :
    p.dump.get "check" = nameIn jsonChecks p.check := by
  rw [PyDict.get, p.lookup_dump]
  rfl

/-- The form tells the checks apart by their dumped names. -/
theorem get_jsonCheck_iff {name : String} {check : JsonCheck}
    (h : nameIn jsonChecks check = .str name) :
    p.dump.get "check" = .str name ↔ p.check = check := by
  rw [get_jsonCheck, ← h, nameIn_jsonChecks_injective.eq_iff]

/-- What the form saves for a field rule is its column, path, check and the payload of that
check. -/
theorem saved_jsonField (js : Js α) (h_type : rule.ruleType = RuleKind.jsonField.value)
    (h_params : rule.parameters = p.dump) (h_trim : jsTrim p.column = p.column) :
    savedParameters js rule = [("column", .str p.column), ("path", .str p.path),
      ("check", nameIn jsonChecks p.check)] ++ (fromRuleInput js rule).checkPayload p.check := by
  have h_form : (fromRuleInput js rule).ruleType = .jsonField := congrArg (draftType · _) h_type
  have h_column : jsTrim (fromRuleInput js rule).column = p.column :=
    column_saved (by rw [h_params, PyDict.get, p.lookup_dump]; rfl) h_trim
  have h_path : (fromRuleInput js rule).path = p.path :=
    textOr_text "" (by rw [h_params, PyDict.get, p.lookup_dump]; rfl)
  have h_check : PyValue.str (fromRuleInput js rule).check = nameIn jsonChecks p.check :=
    congrArg PyValue.str (textOr_text _ (by rw [h_params, get_jsonCheck]; rfl))
  simp only [savedParameters, RuleDraft.parameters, RuleDraft.typeParameters, h_form, h_column,
    h_path, h_check]
  generalize (fromRuleInput js rule).check = text at h_check
  cases h : p.check <;> rw [h] at h_check <;> obtain rfl := PyValue.str.inj h_check <;>
    simp [nameIn, jsonChecks, RuleDraft.checkPayload]

/-- A bound of a range is shown as itself. -/
theorem min_shown (js : Js α) (p : JsonFieldParameters) :
    js.textOr p.dump ["min", "min_items", "min_length", "min_value"] "" = p.min.getD "" := by
  rw [js.textOr_of_single "" (by decide : "min" ∈ _)]
  · exact textOr_optional "" ((p.lookup_dump "min").trans (by cases p.min <;> rfl))
  · intro key h_key h_ne
    rw [PyDict.get, p.lookup_dump]
    simp only [List.mem_cons, List.not_mem_nil, or_false] at h_key
    rcases h_key with rfl | rfl | rfl | rfl <;> first | rfl | exact absurd rfl h_ne

/-- The upper bound of a range check is shown as the text it was saved with. -/
theorem max_shown (js : Js α) (p : JsonFieldParameters) :
    js.textOr p.dump ["max", "max_items", "max_length", "max_value"] "" = p.max.getD "" := by
  rw [js.textOr_of_single "" (by decide : "max" ∈ _)]
  · exact textOr_optional "" ((p.lookup_dump "max").trans (by cases p.max <;> rfl))
  · intro key h_key h_ne
    rw [PyDict.get, p.lookup_dump]
    simp only [List.mem_cons, List.not_mem_nil, or_false] at h_key
    rcases h_key with rfl | rfl | rfl | rfl <;> first | rfl | exact absurd rfl h_ne

/-- The allowed values are dumped as a list of texts. -/
theorem lookup_allowedValues {values : List String} (h : p.allowedValues = some values) :
    p.dump.get "allowed_values" = .list (values.map .str) := by
  rw [PyDict.get, p.lookup_dump, h]
  rfl

/-- The form shows the allowed values joined by commas. -/
theorem allowed_shown {values : List String} (h_params : rule.parameters = p.dump)
    (h : p.allowedValues = some values) :
    (fromRuleInput js rule).allowed = jsJoin ", " values := by
  simp only [fromRuleInput, h_params, lookup_allowedValues h, Js.elements_texts]

/-- An optional text that is not empty is written back as it was dumped. -/
theorem textEntry_getD {key : String} {text : Option String} (h : text ≠ some "") :
    textEntry key (text.getD "") = dumpFields [(key, text.map .str)] := by
  cases text with
  | none => rfl
  | some text =>
    have h_ne : text ≠ "" := fun h_empty => h (congrArg some h_empty)
    exact if_neg h_ne

/-- A text field contributes at most the entry of its own key. -/
theorem lookup_textEntry_of_ne {key name : String} (h : key ≠ name) (text : String) :
    (textEntry name text).lookup key = none := by
  rw [List.lookup_eq_none_iff]
  intro entry h_entry
  unfold textEntry at h_entry
  split at h_entry
  · cases h_entry
  · rw [List.mem_singleton.mp h_entry, bne_iff_ne]
    exact h

/-- An empty text is not saved, so one that is read back was not empty. -/
theorem get_ne_of_read {d saved : PyDict} {key : String} {text : Option String}
    (h : d.lookup key = (some (text.map PyValue.str)).join)
    (h_saved : saved.lookup key = (textEntry key (text.getD "")).lookup key)
    (h_read : optional saved key validateStr = .ok text) : d.get key ≠ .str "" := by
  intro h_empty
  rw [PyDict.get, h] at h_empty
  cases text with
  | none => cases h_empty
  | some text =>
    obtain rfl : text = "" := PyValue.str.inj h_empty
    rw [optional, PyDict.get, h_saved] at h_read
    cases h_read

/-- What is saved with a check is what the check reads, if the texts of the form tell it. -/
theorem checkPayload_eq (h_params : rule.parameters = p.dump)
    (h_keeps : KeepsParameters js rt rule.parameters .jsonField) :
    (fromRuleInput js rule).checkPayload p.check = dumpFields [
      ("expected_type", p.ownPayload.expectedType.map (nameIn expectedTypes)),
      ("min", p.ownPayload.min.map .str),
      ("max", p.ownPayload.max.map .str),
      ("pattern", p.ownPayload.pattern.map .str),
      ("allowed_values",
        p.ownPayload.allowedValues.map fun values => .list (values.map .str))] := by
  have h_get (key : String) : rule.parameters.get key = (p.dump.lookup key).getD .none := by
    rw [h_params, PyDict.get]
  cases h : p.check with
  -- a check without a payload
  | nonNull => simp [RuleDraft.checkPayload, JsonFieldParameters.ownPayload, h, dumpFields]
  | type =>
    -- the type is one of the names that the form offers
    obtain ⟨kind, h_kind⟩ := Option.isSome_iff_exists.mp (p.type_given h)
    have h_text : PyValue.str (fromRuleInput js rule).expectedType = nameIn expectedTypes kind :=
      congrArg PyValue.str (textOr_text _ (by rw [h_get, p.lookup_dump, h_kind]; rfl))
    simp [RuleDraft.checkPayload, JsonFieldParameters.ownPayload, h, h_kind, h_text, dumpFields]
  | range =>
    -- an empty bound would not be sent, so the form must not show one
    have h_check : rule.parameters.get "check" = .str "RANGE" := by
      rw [h_params]
      exact (get_jsonCheck_iff rfl).mpr h
    have h_bound : ∀ key ∈ ["min", "max"], rule.parameters.get key ≠ .str "" := h_keeps.2 h_check
    have h_min : p.min ≠ some "" := by
      intro h_empty
      refine h_bound "min" (by simp) ?_
      rw [h_get, p.lookup_dump, h_empty]
      rfl
    have h_max : p.max ≠ some "" := by
      intro h_empty
      refine h_bound "max" (by simp) ?_
      rw [h_get, p.lookup_dump, h_empty]
      rfl
    have h_min_shown : (fromRuleInput js rule).min = p.min.getD "" := by
      rw [← min_shown js p, ← h_params]
      rfl
    have h_max_shown : (fromRuleInput js rule).max = p.max.getD "" := by
      rw [← max_shown js p, ← h_params]
      rfl
    rw [RuleDraft.checkPayload, h_min_shown, h_max_shown, textEntry_getD h_min,
      textEntry_getD h_max]
    simp only [JsonFieldParameters.ownPayload, h, if_true]
    cases p.min <;> cases p.max <;> rfl
  | regex =>
    -- the pattern is sent as it is shown
    obtain ⟨pattern, h_pattern⟩ := Option.isSome_iff_exists.mp (p.regex_given h)
    have h_text : (fromRuleInput js rule).pattern = pattern :=
      textOr_text "" (by rw [h_get, p.lookup_dump, h_pattern]; rfl)
    simp [RuleDraft.checkPayload, JsonFieldParameters.ownPayload, h, h_pattern, h_text, dumpFields]
  | allowedValues =>
    -- the values are split at the commas they were joined with
    obtain ⟨values, h_values⟩ := Option.isSome_iff_exists.mp (p.values_given h)
    have h_check : rule.parameters.get "check" = .str "ALLOWED_VALUES" := by
      rw [h_params]
      exact (get_jsonCheck_iff rfl).mpr h
    obtain ⟨texts, h_texts, h_items⟩ := h_keeps.1 h_check
    have h_same : values = texts := by
      rw [h_params, lookup_allowedValues h_values] at h_texts
      have h_injective : Function.Injective PyValue.str := fun _ _ => PyValue.str.inj
      exact h_injective.list_map (PyValue.list.inj h_texts)
    rw [RuleDraft.checkPayload, allowed_shown h_params h_values, h_same,
      jsItems_values.mpr h_items]
    simp [JsonFieldParameters.ownPayload, h, h_values, h_same, dumpFields]

/-- A field rule comes back with its meaning exactly when the form keeps its parameters. -/
theorem saved_jsonField_iff {python : Python δ}
    (h_admissible : JsonFieldParameters.Admissible python p)
    (h_type : rule.ruleType = RuleKind.jsonField.value)
    (h_params : rule.parameters = p.dump) (h_trim : jsTrim p.column = p.column) :
    (∃ q, JsonFieldParameters.validate python (savedParameters js rule) = .ok q ∧
      q.reading = p.reading) ↔ KeepsParameters js rt rule.parameters .jsonField := by
  have h_saved := saved_jsonField js h_type h_params h_trim
  constructor
  · -- the readings agree, so each field of the payload does
    rintro ⟨q, h_q, h_reading⟩
    have h_reads := JsonFieldParameters.validate_eq_ok_iff.mp h_q
    have h_same_check : q.check = p.check := congrArg FieldReading.check h_reading
    refine ⟨fun h_check => ?_, fun h_check => ?_⟩
    · -- the values that are read back are those the form has split
      have h_values : p.check = .allowedValues :=
        (get_jsonCheck_iff rfl).mp (h_params ▸ h_check)
      obtain ⟨values, h_some⟩ := Option.isSome_iff_exists.mp (p.values_given h_values)
      have h_same := congrArg FieldReading.allowedValues h_reading
      simp only [JsonFieldParameters.reading, h_same_check, h_values, if_true, h_some] at h_same
      have h_get : (savedParameters js rule).get "allowed_values" =
          .list ((jsItems ',' (jsJoin ", " values)).map .str) := by
        rw [h_saved, h_values, RuleDraft.checkPayload, allowed_shown h_params h_some]
        rfl
      have h_read := optional_ok (h_same ▸ h_reads.allowedValues)
      rw [h_get, validateTexts_list] at h_read
      rw [h_params, lookup_allowedValues h_some]
      exact ⟨values, rfl, jsItems_values.mp (Except.ok.inj h_read)⟩
    · -- a bound that is read back was not empty
      have h_range : p.check = .range := (get_jsonCheck_iff rfl).mp (h_params ▸ h_check)
      have h_min := congrArg FieldReading.min h_reading
      have h_max := congrArg FieldReading.max h_reading
      simp only [JsonFieldParameters.reading, h_same_check, h_range, if_true] at h_min h_max
      have h_payload : savedParameters js rule = [("column", .str p.column), ("path", .str p.path),
          ("check", nameIn jsonChecks p.check)] ++ (textEntry "min" (p.min.getD "") ++
            textEntry "max" (p.max.getD "")) := by
        rw [h_saved, h_range, ← min_shown js p, ← max_shown js p, ← h_params]
        rfl
      have h_min_saved : (savedParameters js rule).lookup "min" =
          (textEntry "min" (p.min.getD "")).lookup "min" := by
        rw [h_payload]
        show List.lookup "min" (textEntry "min" _ ++ textEntry "max" _) = _
        rw [List.lookup_append, lookup_textEntry_of_ne (by decide : "min" ≠ "max"), Option.or_none]
      have h_max_saved : (savedParameters js rule).lookup "max" =
          (textEntry "max" (p.max.getD "")).lookup "max" := by
        rw [h_payload]
        show List.lookup "max" (textEntry "min" _ ++ textEntry "max" _) = _
        rw [List.lookup_append, lookup_textEntry_of_ne (by decide : "max" ≠ "min"), Option.none_or]
      simp only [List.forall_mem_cons, List.not_mem_nil, false_implies, implies_true, and_true]
      exact ⟨get_ne_of_read (h_params ▸ p.lookup_dump "min") h_min_saved (h_min ▸ h_reads.min),
        get_ne_of_read (h_params ▸ p.lookup_dump "max") h_max_saved (h_max ▸ h_reads.max)⟩
  · -- the form sends the dump of the payload, which is read as the payload
    intro h_keeps
    refine ⟨p.ownPayload, JsonFieldParameters.validate_eq_ok_iff.mpr ?_, reading_ownPayload p⟩
    have h_dump : savedParameters js rule = p.ownPayload.dump := by
      rw [h_saved, checkPayload_eq h_params h_keeps]
      rfl
    rw [h_dump]
    exact h_admissible.ownPayload.reads_dump

end JsonField

/-! ### Spelling -/

section Spelling

variable {p : SpellingParameters}

/-- The form shows the accepted terms one to a line. -/
theorem terms_shown (h_params : rule.parameters = p.dump) :
    (fromRuleInput js rule).acceptedTerms = jsJoin "\n" p.acceptedTerms := by
  have h_terms : rule.parameters.get "accepted_terms" = .list (p.acceptedTerms.map .str) := by
    rw [h_params, PyDict.get, p.lookup_dump]
    rfl
  simp only [fromRuleInput, h_terms, Js.elements_texts]

/-- The digests that pin the dictionaries are not saved. -/
theorem saved_spelling (js : Js α) (h_type : rule.ruleType = RuleKind.spelling.value)
    (h_params : rule.parameters = p.dump) (h_trim : jsTrim p.column = p.column) :
    savedParameters js rule = [("column", .str p.column), ("language", .str p.language),
      ("dictionary_revision", .str p.dictionaryRevision),
      ("accepted_terms", .list ((jsItems '\n' (jsJoin "\n" p.acceptedTerms)).map .str))] := by
  have h_form : (fromRuleInput js rule).ruleType = .spelling := congrArg (draftType · _) h_type
  have h_column : jsTrim (fromRuleInput js rule).column = p.column :=
    column_saved (by rw [h_params, PyDict.get, p.lookup_dump]; rfl) h_trim
  have h_language : (fromRuleInput js rule).language = p.language :=
    textOr_text _ (by rw [h_params, PyDict.get, p.lookup_dump]; rfl)
  have h_revision : (fromRuleInput js rule).dictionaryRevision = p.dictionaryRevision :=
    textOr_text "" (by rw [h_params, PyDict.get, p.lookup_dump]; rfl)
  simp only [savedParameters, RuleDraft.parameters, RuleDraft.typeParameters, h_form, h_column,
    h_language, h_revision, terms_shown h_params]

/-- A spelling rule comes back with its meaning exactly when the form keeps its parameters.
-/
theorem saved_spelling_iff {d : PyDict} (h_reads : SpellingParameters.Reads d p)
    (h_type : rule.ruleType = RuleKind.spelling.value)
    (h_params : rule.parameters = p.dump) (h_trim : jsTrim p.column = p.column) :
    (∃ q, SpellingParameters.validate (savedParameters js rule) = .ok q ∧
      q.reading = p.reading) ↔ KeepsParameters js rt rule.parameters .spelling := by
  have h_saved := saved_spelling js h_type h_params h_trim
  -- the terms are joined by line feeds
  have h_items : jsItems '\n' (jsJoin "\n" p.acceptedTerms) = p.acceptedTerms ↔
      ∀ term ∈ p.acceptedTerms, IsListItem '\n' term :=
    jsItems_jsJoin_iff (rfl : "\n".toList = '\n' :: []) nofun List.not_mem_nil
  have h_terms : rule.parameters.get "accepted_terms" = .list (p.acceptedTerms.map .str) := by
    rw [h_params, PyDict.get, p.lookup_dump]
    rfl
  -- the digests of the dictionaries are not shown, so they are not sent
  have h_digests : rule.parameters.get "dictionary_digests" =
      (p.dictionaryDigests.map dumpDigests).getD .none := by
    rw [h_params, PyDict.get, p.lookup_dump]
    rfl
  show _ ↔ IsItemList '\n' (rule.parameters.get "accepted_terms") ∧
    rule.parameters.get "dictionary_digests" = .none
  rw [h_terms, h_digests]
  constructor
  · -- the terms come back and the digests were none
    rintro ⟨q, h_q, h_reading⟩
    have h_q_reads := SpellingParameters.validate_eq_ok_iff.mp h_q
    have h_same_terms : q.acceptedTerms = p.acceptedTerms :=
      congrArg SpellingReading.acceptedTerms h_reading
    have h_same_digests : q.dictionaryDigests = p.dictionaryDigests :=
      congrArg SpellingReading.dictionaryDigests h_reading
    have h_read := h_q_reads.terms
    rw [SpellingParameters.readTerms, h_saved] at h_read
    have h_list := (validateTexts_list "accepted_terms" _).symm.trans h_read
    refine ⟨⟨p.acceptedTerms, rfl, h_items.mp ((Except.ok.inj h_list).trans h_same_terms)⟩, ?_⟩
    have h_none := h_q_reads.digests
    rw [h_saved, h_same_digests] at h_none
    rw [← Except.ok.inj ((rfl : Except.ok none = _).trans h_none)]
    rfl
  · -- then the form sends the dump itself
    rintro ⟨⟨texts, h_texts, h_each⟩, h_none⟩
    have h_injective : Function.Injective PyValue.str := fun _ _ => PyValue.str.inj
    have h_same : p.acceptedTerms = texts := h_injective.list_map (PyValue.list.inj h_texts)
    have h_pinned : p.dictionaryDigests = none := by
      cases h : p.dictionaryDigests with
      | none => rfl
      | some digests =>
        rw [h] at h_none
        cases h_none
    have h_dump : savedParameters js rule = p.dump := by
      rw [h_saved, h_items.mpr (h_same ▸ h_each), SpellingParameters.dump, h_pinned]
      rfl
    rw [h_dump]
    exact ⟨p, SpellingParameters.validate_eq_ok_iff.mpr h_reads.dump, rfl⟩

end Spelling

end Saved

end DqScoring
