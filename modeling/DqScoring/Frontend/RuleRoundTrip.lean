import DqScoring.Core.RuleScoring
import DqScoring.Frontend.RuleForm
import DqScoring.Presentation.ParameterReads
import DqScoring.Services.RuleMeaning

/-!
# Loading and saving a rule

A rule of the API that is loaded into the form and saved again should mean what it meant
(`SameMeaning`). `FormKeeps` is when it does: each clause is about one part of the rule that
the form shows as a text, has one field for, or decides anew.

Two parts are lost in most ways: the null policies other than `fail` and `ignore`, and the
spellings of parameters that the compiler reads and the form does not.
-/

namespace DqScoring

open Framework

variable {α δ : Type}

/-! ### The meaning of a saved rule -/

/-- The saved rule is evaluated like the loaded one: the same target and reading, counted and
scored alike. -/
structure SameMeaning (rt : Runtime δ) (rule : CreateQualityRuleInput α)
    (saved : QualityRuleInput α) : Prop where
  ruleType : saved.ruleType = rule.ruleType
  target : targetName saved.parameters = targetName rule.parameters
  reading : ∀ kind : RuleKind, rule.ruleType = kind.value →
    kind.reading rt saved.parameters = kind.reading rt rule.parameters
  denominator : ∀ counts, calculateDenominator counts saved.nullPolicy =
    calculateDenominator counts rule.nullPolicy
  errors : saved.nullPolicy = "fail" ↔ rule.nullPolicy = "fail"
  weight : saved.contributionWeight = some rule.contributionWeight
  threshold : saved.acceptanceThreshold = rule.acceptanceThreshold
  required : saved.isRequired = rule.isRequired
  critical : saved.isCritical = rule.isCritical
  gate : saved.gateEnabled = rule.gateEnabled
  score : saved.scoreEnabled = rule.scoreEnabled
  advisory : saved.isAdvisory = rule.isAdvisory

/-! ### What the form keeps -/

/-- A text that can be told from a list that is written with the separator. -/
def IsListItem (separator : Char) (text : String) : Prop :=
  IsItem isJsSpace separator text.toList

/-- A list of texts that can be told from its text. -/
def IsItemList (separator : Char) (v : PyValue) : Prop :=
  ∃ texts : List String, v = .list (texts.map .str) ∧ ∀ text ∈ texts, IsListItem separator text

/-- The count is the same number in the browser. -/
def Js.KeepsCount (js : Js α) (n : ℤ) : Prop := js.sent (js.numeral n) = .int n

/-- The number that the text of a bound stands for. -/
def Js.shownBound (js : Js α) (text : String) : PyValue :=
  if js.isNumber text then js.sent text else .none

/-- What the shown type and format stand for; the format is kept with the two temporal types
that the form offers. -/
def Js.shownTarget (js : Js α) (python : Python δ) (params : PyDict) : ParseTarget :=
  let dataType := js.textOr params ["data_type"] "DOUBLE"
  let format := js.textOr params ["format"] defaultTimestampFormat
  parseTarget (python.upper (if dataType = "" then "DOUBLE" else dataType))
    (if isTemporal dataType then format else defaultTimestampFormat)

/-- The form finds the check of a DOMAIN_RANGE rule that the compiler finds. -/
def KeepsDomain (js : Js α) (rt : Runtime δ) (params : PyDict) : Prop :=
  -- the form shows a pattern first, then a list, then the bounds
  if jsTruthy (params.get "pattern") then
    domainCheck rt params = .ok (.pattern (js.string (params.get "pattern")))
  else
    match params.get "allowed_values" with
    | .list values => IsItemList ',' (.list values) ∧
        domainCheck rt params = .ok (.allowedValues values)
    | _ => ∃ lo hi, domainCheck rt params = .ok (.bounds lo hi) ∧
        boundParameter rt.python (js.shownBound
          (js.textOr params ["min", "min_items", "min_length", "min_value"] "")) = .ok lo ∧
        boundParameter rt.python (js.shownBound
          (js.textOr params ["max", "max_items", "max_length", "max_value"] "")) = .ok hi

/-- The parameters of a type survive the form. -/
def KeepsParameters (js : Js α) (rt : Runtime δ) (params : PyDict) : RuleKind → Prop
  | .nonNull | .uniqueness => True
  | .typeParse =>
    -- the type shown is the one that the engine casts to
    parseTarget (parsedType rt.python params) (formatParameter rt.python params) =
      js.shownTarget rt.python params
  | .domainRange => KeepsDomain js rt params
  | .crossField =>
    columnName (comparedColumn params) =
        columnName (.str (jsTrim (js.textOr params ["comparison_column"] ""))) ∧
      comparators.lookup (rt.python.upper (rt.python.str
          (params.getD "operator" (.str ">=")))) =
        comparators.lookup (rt.python.upper (js.textOr params ["operator"] ">=")) ∧
      comparedTarget rt.python params = (js.shownTarget rt.python params).compared
  -- counts are shown as numbers, so they must survive that
  | .textQuality => params.get "check" = .str "LENGTH" →
      ∀ key ∈ ["min_length", "max_length"], ∀ n, params.get key = .int n → js.KeepsCount n
  | .jsonArray =>
      ∀ key ∈ ["min_items", "max_items"], ∀ n, params.get key = .int n → js.KeepsCount n
  | .jsonField =>
    (params.get "check" = .str "ALLOWED_VALUES" →
      IsItemList ',' (params.get "allowed_values")) ∧
    (params.get "check" = .str "RANGE" →
      ∀ key ∈ ["min", "max"], params.get key ≠ .str "")
  -- the form has no field for the digests
  | .spelling => IsItemList '\n' (params.get "accepted_terms") ∧
      params.get "dictionary_digests" = .none

/-- What a rule must be like to survive the form. -/
structure FormKeeps (js : Js α) (rt : Runtime δ) (rule : CreateQualityRuleInput α) : Prop where
  nullPolicy : rule.nullPolicy = "fail" ∨ rule.nullPolicy = "ignore"
  gate : rule.gateEnabled = !rule.isAdvisory
  score : rule.scoreEnabled = !rule.isAdvisory
  required : rule.isAdvisory = true → rule.isRequired = false
  critical : rule.isAdvisory = true → rule.isCritical = false
  target : targetName rule.parameters =
    columnName (.str (jsTrim (js.textOr rule.parameters ["column", "target_column"] "")))
  parameters : ∀ kind : RuleKind, rule.ruleType = kind.value →
    KeepsParameters js rt rule.parameters kind

/-! ### Texts -/

/-- A joined list is split into its items exactly when each of them is a list item. -/
theorem jsItems_jsJoin_iff {separator : String} {c : Char} {pad : List Char}
    (h : separator.toList = c :: pad) (h_pad : ∀ b ∈ pad, isJsSpace b = true) (h_c : c ∉ pad)
    {texts : List String} :
    jsItems c (jsJoin separator texts) = texts ↔ ∀ text ∈ texts, IsListItem c text := by
  have h_texts : (texts.map String.toList).map String.ofList = texts := by
    rw [List.map_map]
    exact (List.map_congr_left fun _ _ => String.ofList_toList).trans (List.map_id texts)
  have h_injective : Function.Injective String.ofList := fun _ _ => String.ofList_inj.mp
  have h_items : (∀ text ∈ texts, IsListItem c text) ↔
      ∀ item ∈ texts.map String.toList, IsItem isJsSpace c item := by
    simp only [List.forall_mem_map, IsListItem]
  rw [jsItems, jsJoin, String.toList_ofList, h, h_items, ← splitTrimmed_join_iff h_pad h_c]
  constructor
  · intro h_same
    exact h_injective.list_map (h_same.trans h_texts.symm)
  · intro h_same
    rw [h_same, h_texts]

/-- Values joined by commas come back when none has a comma or outer white space. -/
theorem jsItems_values {texts : List String} :
    jsItems ',' (jsJoin ", " texts) = texts ↔ ∀ text ∈ texts, IsListItem ',' text := by
  have h_separator : ", ".toList = ',' :: [' '] := rfl
  have h_pad : ∀ b ∈ [' '], isJsSpace b = true := List.forall_mem_singleton.mpr rfl
  exact jsItems_jsJoin_iff h_separator h_pad (by decide)

/-- A list of texts is shown text by text. -/
theorem Js.elements_texts (js : Js α) (texts : List String) :
    js.elements (texts.map .str) = texts := by
  induction texts with
  | nil => rw [List.map_nil, Js.elements]
  | cons text texts ih =>
    rw [List.map_cons, Js.elements, ih]
    rfl

/-- The first key that is given decides the shown text. -/
theorem Js.textOr_of_get {js : Js α} {d : PyDict} {key : String} {keys : List String} {v : PyValue}
    (default : String) (h : d.get key = v) (h_given : v.isNone = false) :
    js.textOr d (key :: keys) default = js.string v := by
  simp [Js.textOr, h, h_given]

/-- A key without a value is passed over. -/
theorem Js.textOr_of_none (js : Js α) {d : PyDict} {key : String} (keys : List String)
    (default : String) (h : d.get key = .none) :
    js.textOr d (key :: keys) default = js.textOr d keys default := by
  simp [Js.textOr, h, PyValue.isNone]

/-- Without any value the default is shown. -/
theorem Js.textOr_of_forall (js : Js α) {d : PyDict} {keys : List String} (default : String)
    (h : ∀ key ∈ keys, d.get key = .none) : js.textOr d keys default = default := by
  induction keys with
  | nil => rfl
  | cons key keys ih =>
    rw [js.textOr_of_none keys default (h key List.mem_cons_self)]
    exact ih fun other h_other => h other (List.mem_cons_of_mem key h_other)

/-- Of the keys that share a field of the form only one is there. -/
theorem Js.textOr_of_single (js : Js α) {d : PyDict} {keys : List String} {key : String}
    (default : String) (h_mem : key ∈ keys) (h : ∀ k ∈ keys, k ≠ key → d.get k = .none) :
    js.textOr d keys default = js.textOr d [key] default := by
  cases h_get : (d.get key).isNone with
  | true =>
    have h_none : d.get key = .none := by
      cases h_value : d.get key with
      | none => rfl
      | _ => rw [h_value] at h_get; cases h_get
    rw [js.textOr_of_none [] default h_none]
    refine js.textOr_of_forall default fun k h_k => ?_
    by_cases h_key : k = key
    · rw [h_key, h_none]
    · exact h k h_k h_key
  | false =>
    induction keys with
    | nil => cases h_mem
    | cons k keys ih =>
      by_cases h_key : k = key
      · rw [h_key, Js.textOr_of_get default rfl h_get, Js.textOr_of_get default rfl h_get]
      · rw [js.textOr_of_none keys default (h k List.mem_cons_self h_key)]
        exact ih (List.mem_of_ne_of_mem (Ne.symm h_key) h_mem)
          fun other h_other => h other (List.mem_cons_of_mem k h_other)

/-! ### The parameters of a saved rule -/

/-- The parameters that are saved. -/
def savedParameters (js : Js α) (rule : CreateQualityRuleInput α) : PyDict :=
  (fromRuleInput js rule).parameters js

section Saved

variable {js : Js α} {rt : Runtime δ} {rule : CreateQualityRuleInput α}

/-- The rule type comes back. -/
theorem saved_ruleType [Zero α] {kind : RuleKind} (h : rule.ruleType = kind.value) :
    (toRuleInput js (fromRuleInput js rule)).ruleType = rule.ruleType := by
  show (draftType rule.ruleType rule.parameters).apiType = rule.ruleType
  rw [h]
  cases kind with
  | domainRange =>
    show RuleType.apiType (if _ then _ else _) = _
    split
    · rfl
    · split <;> rfl
  | _ => rfl

/-- The column is the only target that is saved. -/
theorem lookup_target (r : RuleDraft) : (r.typeParameters js).lookup "target_column" = none := by
  unfold RuleDraft.typeParameters
  cases r.ruleType <;>
    simp only [Js.count, Js.bound, textEntry, formatEntry, List.lookup_append] <;>
    (try split_ifs) <;> rfl

/-- The target comes back as the form shows it, trimmed. -/
theorem saved_target (js : Js α) (rule : CreateQualityRuleInput α) :
    targetName (savedParameters js rule) =
      columnName (.str (jsTrim (js.textOr rule.parameters ["column", "target_column"] ""))) := by
  have h_target : (savedParameters js rule).get "target_column" = .none := by
    rw [PyDict.get, savedParameters, RuleDraft.parameters, List.lookup_cons, lookup_target]
    rfl
  rw [targetName, h_target]
  rfl

/-- An empty text falls back to the other. -/
theorem orElse_text (text other : String) :
    (PyValue.str text).orElse (.str other) = .str (if text = "" then other else text) := by
  by_cases h : text = "" <;> simp [PyValue.orElse, PyValue.truthy, h]

/-- The format contributes at most its own key. -/
theorem lookup_formatEntry {key : String} (r : RuleDraft) (h : (key == "format") = false) :
    (formatEntry r).lookup key = none := by
  unfold formatEntry
  split
  · rw [List.lookup_cons, h]
    rfl
  · rfl

/-- The format that is saved with a type. -/
theorem format_saved (python : Python δ) {params : PyDict} {r : RuleDraft}
    (h : params.lookup "format" = (formatEntry r).lookup "format") :
    formatParameter python params =
      if isTemporal r.dataType then r.format else defaultTimestampFormat := by
  rw [formatParameter, PyDict.getD, h, formatEntry]
  split <;> rfl

/-- The type that is saved is the one that the form shows. -/
theorem saved_typeParse (python : Python δ) (h : rule.ruleType = RuleKind.typeParse.value) :
    parseTarget (parsedType python (savedParameters js rule))
        (formatParameter python (savedParameters js rule)) =
      js.shownTarget python rule.parameters := by
  have h_type : (fromRuleInput js rule).ruleType = .typeParse := congrArg (draftType · _) h
  have h_saved : savedParameters js rule =
      ("column", .str (jsTrim (fromRuleInput js rule).column)) ::
        ("data_type", .str (fromRuleInput js rule).dataType) ::
          formatEntry (fromRuleInput js rule) := by
    simp only [savedParameters, RuleDraft.parameters, RuleDraft.typeParameters, h_type]
  have h_format : (savedParameters js rule).lookup "format" =
      (formatEntry (fromRuleInput js rule)).lookup "format" := by rw [h_saved]; rfl
  have h_data : (savedParameters js rule).get "data_type" =
      .str (fromRuleInput js rule).dataType := by rw [h_saved]; rfl
  have h_other : (savedParameters js rule).getD "type" (.str "DOUBLE") = .str "DOUBLE" := by
    rw [h_saved]
    show ((formatEntry (fromRuleInput js rule)).lookup "type").getD _ = _
    rw [lookup_formatEntry _ (by decide), Option.getD_none]
  rw [format_saved python h_format, parsedType, h_data, h_other, orElse_text]
  rfl

/-- The comparison that is saved is the one that the form shows. -/
theorem saved_crossField (js : Js α) (python : Python δ)
    (h : rule.ruleType = RuleKind.crossField.value) :
    columnName (comparedColumn (savedParameters js rule)) =
        columnName (.str (jsTrim (js.textOr rule.parameters ["comparison_column"] ""))) ∧
      (savedParameters js rule).getD "operator" (.str ">=") =
        .str (js.textOr rule.parameters ["operator"] ">=") ∧
      comparedTarget python (savedParameters js rule) =
        (js.shownTarget python rule.parameters).compared := by
  have h_type : (fromRuleInput js rule).ruleType = .crossField := congrArg (draftType · _) h
  have h_saved : savedParameters js rule =
      ("column", .str (jsTrim (fromRuleInput js rule).column)) :: ([
        ("comparison_column", .str (jsTrim (fromRuleInput js rule).comparisonColumn)),
        ("operator", .str (fromRuleInput js rule).operator),
        ("data_type", .str (fromRuleInput js rule).dataType)] ++
          formatEntry (fromRuleInput js rule)) := by
    simp only [savedParameters, RuleDraft.parameters, RuleDraft.typeParameters, h_type]
  have h_format : (savedParameters js rule).lookup "format" =
      (formatEntry (fromRuleInput js rule)).lookup "format" := by rw [h_saved]; rfl
  have h_data : (savedParameters js rule).get "data_type" =
      .str (fromRuleInput js rule).dataType := by rw [h_saved]; rfl
  have h_column : (savedParameters js rule).get "comparison_column" =
      .str (jsTrim (fromRuleInput js rule).comparisonColumn) := by rw [h_saved]; rfl
  have h_other : (savedParameters js rule).get "compare_to" = .none := by
    rw [h_saved]
    show ((formatEntry (fromRuleInput js rule)).lookup "compare_to").getD _ = _
    rw [lookup_formatEntry _ (by decide), Option.getD_none]
  refine ⟨?_, by rw [h_saved]; rfl, ?_⟩
  · rw [comparedColumn, h_column, h_other]
    by_cases h_empty : jsTrim (fromRuleInput js rule).comparisonColumn = ""
    · rw [h_empty]
      show none = columnName (.str (jsTrim (fromRuleInput js rule).comparisonColumn))
      rw [h_empty]
      rfl
    · rw [PyValue.orElse, if_pos (PyValue.truthy_str.mpr h_empty)]
      rfl
  · rw [comparedTarget, format_saved python h_format, h_data, orElse_text]
    rfl

/-- A result has a value exactly when it succeeds. -/
theorem toOption_eq_some_iff {ε β : Type} {x : Except ε β} {b : β} :
    x.toOption = some b ↔ x = .ok b := by
  cases x with
  | error e => exact ⟨nofun, nofun⟩
  | ok c =>
    show some c = some b ↔ _
    rw [Option.some_inj, Except.ok.injEq]

/-- A pattern alone is a check by pattern. -/
theorem domainCheck_pattern (column : PyValue) (p : String) :
    domainCheck rt [("column", column), ("pattern", .str p)] = .ok (.pattern p) := by
  show Except.ok (DomainCheck.pattern (rt.python.str ((PyValue.str p).orElse (.str "")))) = _
  rw [orElse_text]
  by_cases h : p = "" <;> simp [h, Python.str]

/-- Allowed values alone are a check by values. -/
theorem domainCheck_values (h_literal : ∀ s, rt.spark.hasLiteral (.str s) = true)
    (column : PyValue) (texts : List String) :
    domainCheck rt [("column", column), ("allowed_values", .list (texts.map .str))] =
      .ok (.allowedValues (texts.map .str)) := by
  have h_list : Python.list ((PyValue.list (texts.map .str)).orElse (.list [])) =
      .ok (texts.map .str) := by
    cases texts <;> rfl
  have h_literals : (texts.map PyValue.str).forM rt.spark.literal = .ok () := by
    rw [forM_eq_ok_iff]
    intro v h_v
    obtain ⟨text, -, rfl⟩ := List.mem_map.mp h_v
    exact if_pos (h_literal text)
  show (Python.list ((PyValue.list (texts.map .str)).orElse (.list [])) >>= fun values =>
    values.forM rt.spark.literal >>= fun _ => pure (DomainCheck.allowedValues values)) = _
  rw [h_list]
  show ((texts.map PyValue.str).forM rt.spark.literal >>= fun _ =>
    pure (DomainCheck.allowedValues (texts.map .str))) = _
  rw [h_literals]
  rfl

/-- Bounds alone are a check by bounds. -/
theorem domainCheck_bounds (column : PyValue) (lo hi : String) :
    domainCheck rt (("column", column) :: (js.bound "min_value" lo ++ js.bound "max_value" hi)) =
      (do
        let min ← boundParameter rt.python (js.shownBound lo)
        let max ← boundParameter rt.python (js.shownBound hi)
        return .bounds min max) := by
  unfold Js.bound Js.shownBound
  by_cases h_lo : js.isNumber lo = true <;> by_cases h_hi : js.isNumber hi = true
  · rw [if_pos h_lo, if_pos h_hi, if_pos h_lo, if_pos h_hi]; rfl
  · rw [if_pos h_lo, if_neg h_hi, if_pos h_lo, if_neg h_hi]; rfl
  · rw [if_neg h_lo, if_pos h_hi, if_neg h_lo, if_pos h_hi]; rfl
  · rw [if_neg h_lo, if_neg h_hi, if_neg h_lo, if_neg h_hi]; rfl

/-- The values that a DOMAIN_RANGE rule allows are those under the key, unless it is empty. -/
theorem values_of_domainCheck {values checked : List PyValue} {params : PyDict}
    (h_values : params.get "allowed_values" = .list values) (h_ne : values ≠ [])
    (h : domainCheck rt params = .ok (.allowedValues checked)) : checked = values := by
  have h_has : params.has "allowed_values" = true := by
    by_contra h_has
    rw [PyDict.get_of_not_has (Bool.eq_false_of_not_eq_true h_has)] at h_values
    cases h_values
  have h_list : Python.list ((PyValue.list values).orElse (params.getD "values" (.list []))) =
      .ok values := by
    rw [PyValue.orElse, if_pos (by simpa [PyValue.truthy] using h_ne)]
    rfl
  unfold domainCheck at h
  rw [h_has, Bool.true_or, if_pos rfl, h_values] at h
  obtain ⟨found, h_found, h⟩ := ok_of_bind h
  obtain ⟨_, _, h⟩ := ok_of_bind h
  rw [h_list] at h_found
  cases h_found
  cases h
  rfl

/-- A number that is sent is a bound. -/
theorem boundParameter_shown {python : Python δ}
    (h_json : ∀ x, ∃ d, python.float (js.json x) = .ok d) (text : String) :
    ∃ bound, boundParameter python (js.shownBound text) = .ok bound := by
  unfold Js.shownBound Js.sent boundParameter
  split
  case isTrue =>
    cases js.number text with
    | none => exact ⟨none, rfl⟩
    | some x =>
      obtain ⟨d, h_d⟩ := h_json x
      simp only [h_d]
      split
      · exact ⟨none, rfl⟩
      · exact ⟨some d, rfl⟩
  case isFalse => exact ⟨none, rfl⟩

/-- The form keeps the check of a DOMAIN_RANGE rule exactly if it finds the one the compiler
finds. -/
theorem saved_domain_iff (h_literal : ∀ s, rt.spark.hasLiteral (.str s) = true)
    (h_json : ∀ x, ∃ d, rt.python.float (js.json x) = .ok d)
    (h : rule.ruleType = RuleKind.domainRange.value) :
    (domainCheck rt (savedParameters js rule)).toOption =
        (domainCheck rt rule.parameters).toOption ↔ KeepsDomain js rt rule.parameters := by
  -- the form decides the type by the parameters that are set
  have h_type : (fromRuleInput js rule).ruleType =
      draftType RuleKind.domainRange.value rule.parameters := congrArg (draftType · _) h
  unfold KeepsDomain
  by_cases h_pattern : jsTruthy (rule.parameters.get "pattern") = true
  · -- a pattern is shown as it is and sent alone
    have h_regex : (fromRuleInput js rule).ruleType = .regex := h_type.trans (if_pos h_pattern)
    have h_text : (fromRuleInput js rule).pattern = js.string (rule.parameters.get "pattern") := by
      refine Js.textOr_of_get "" rfl ?_
      cases h_value : rule.parameters.get "pattern" with
      | none =>
        rw [h_value] at h_pattern
        cases h_pattern
      | _ => rfl
    have h_saved : savedParameters js rule =
        [("column", .str (jsTrim (fromRuleInput js rule).column)),
          ("pattern", .str (fromRuleInput js rule).pattern)] := by
      simp only [savedParameters, RuleDraft.parameters, RuleDraft.typeParameters, h_regex]
    rw [if_pos h_pattern, h_saved, domainCheck_pattern, h_text]
    show some _ = _ ↔ _
    rw [eq_comm, toOption_eq_some_iff]
  · rw [if_neg h_pattern]
    cases h_values : rule.parameters.get "allowed_values" with
    | list values =>
      -- values are joined for the form and split again
      have h_allowed : (fromRuleInput js rule).ruleType = .allowedValues := by
        rw [h_type]
        show (if _ then _ else _) = _
        rw [if_neg h_pattern, h_values]
      have h_text : (fromRuleInput js rule).allowed = jsJoin ", " (js.elements values) := by
        simp only [fromRuleInput, h_values]
      have h_saved : savedParameters js rule =
          [("column", .str (jsTrim (fromRuleInput js rule).column)),
            ("allowed_values",
              .list ((jsItems ',' (fromRuleInput js rule).allowed).map .str))] := by
        simp only [savedParameters, RuleDraft.parameters, RuleDraft.typeParameters, h_allowed]
      rw [h_saved, domainCheck_values h_literal, h_text]
      show some _ = _ ↔ _
      rw [eq_comm, toOption_eq_some_iff]
      constructor
      · intro h_check
        by_cases h_ne : values = []
        · subst h_ne
          exact ⟨⟨[], rfl, nofun⟩, h_check⟩
        · have h_same := values_of_domainCheck h_values h_ne h_check
          -- the values are texts, which are their own texts
          generalize h_texts :
            jsItems ',' (jsJoin ", " (js.elements values)) = texts at h_same h_check
          rw [← h_same, js.elements_texts, jsItems_values] at h_texts
          rw [← h_same]
          exact ⟨⟨texts, rfl, h_texts⟩, h_check⟩
      · rintro ⟨⟨texts, h_texts, h_each⟩, h_check⟩
        cases h_texts
        rw [js.elements_texts, jsItems_values.mpr h_each]
        exact h_check
    | _ =>
      -- otherwise the rule is a range, whose bounds are sent as numbers
      have h_range : (fromRuleInput js rule).ruleType = .range := by
        rw [h_type]
        show (if _ then _ else _) = _
        rw [if_neg h_pattern, h_values]
      have h_saved : savedParameters js rule =
          ("column", .str (jsTrim (fromRuleInput js rule).column)) ::
            (js.bound "min_value" (fromRuleInput js rule).min ++
              js.bound "max_value" (fromRuleInput js rule).max) := by
        simp only [savedParameters, RuleDraft.parameters, RuleDraft.typeParameters, h_range]
      rw [h_saved, domainCheck_bounds]
      obtain ⟨lo, h_lo⟩ := boundParameter_shown h_json (fromRuleInput js rule).min
      obtain ⟨hi, h_hi⟩ := boundParameter_shown h_json (fromRuleInput js rule).max
      rw [h_lo, h_hi]
      show some (DomainCheck.bounds lo hi) = _ ↔ _
      rw [eq_comm, toOption_eq_some_iff]
      constructor
      · exact fun h_check => ⟨lo, hi, h_check, h_lo, h_hi⟩
      · rintro ⟨lo', hi', h_check, h_lo', h_hi'⟩
        rw [h_check, Except.ok.inj (h_lo'.symm.trans h_lo), Except.ok.inj (h_hi'.symm.trans h_hi)]

end Saved

end DqScoring
