import DqScoring.Services.BoundRules

/-!
# Binding of an accepted template

`validate_contract` binds a template with its own examples only. It accepts every later binding
all the same: `_placeholder_usage` has found each parameter to be a placeholder of the schema or to
have none inside (`ParameterChecked`), so that whatever is bound, the check of `bind_rules` passes
(`bindRules_accepted`).

What the two look for is a string value. The keys of a dictionary are never bound, and a key that
starts with a dollar sign is not refused: the digests of a SPELLING rule may have one.
-/

namespace DqScoring

open Framework

variable {α δ : Type}

/-! ### Strings at any depth -/

/-- A value is a part of another, at any depth. -/
inductive PyValue.Contains : PyValue → PyValue → Prop
  | self (v : PyValue) : Contains v v
  | item {items : List PyValue} {v w : PyValue} (mem : v ∈ items) (part : Contains v w) :
      Contains (.list items) w
  | entry {entries : PyDict} {e : String × PyValue} {w : PyValue} (mem : e ∈ entries)
      (part : Contains e.2 w) : Contains (.dict entries) w

/-- A string is a value in it, or a key. -/
def PyValue.HasString (v : PyValue) (s : String) : Prop :=
  v.Contains (.str s) ∨ ∃ entries, v.Contains (.dict entries) ∧ s ∈ entries.map (·.1)

/-- A list has a placeholder when one of its items has. -/
theorem anyItemHasPlaceholder_eq (items : List PyValue) :
    anyItemHasPlaceholder items = items.any hasPlaceholder := by
  induction items with
  | nil => rfl
  | cons v items ih => rw [anyItemHasPlaceholder, List.any_cons, ih]

/-- A dictionary has a placeholder when one of its values has. -/
theorem anyEntryHasPlaceholder_eq (entries : PyDict) :
    anyEntryHasPlaceholder entries = entries.any fun e => hasPlaceholder e.2 := by
  induction entries with
  | nil => rfl
  | cons e entries ih =>
    obtain ⟨key, v⟩ := e
    rw [anyEntryHasPlaceholder, List.any_cons, ih]

theorem hasPlaceholder_list (items : List PyValue) :
    hasPlaceholder (.list items) = items.any hasPlaceholder := by
  rw [hasPlaceholder, anyItemHasPlaceholder_eq]

theorem hasPlaceholder_dict (entries : PyDict) :
    hasPlaceholder (.dict entries) = entries.any fun e => hasPlaceholder e.2 := by
  rw [hasPlaceholder, anyEntryHasPlaceholder_eq]

/-- A value without placeholder has no string value with a dollar sign, at any depth. -/
theorem not_startsWithDollar_of_contains {v : PyValue} {s : String} (h : v.Contains (.str s))
    (h_none : hasPlaceholder v = false) : startsWithDollar s = false := by
  generalize h_w : PyValue.str s = w at h
  induction h with
  | self v =>
    subst h_w
    exact h_none
  | item mem _ ih =>
    rw [hasPlaceholder_list, List.any_eq_false] at h_none
    exact ih (Bool.eq_false_of_not_eq_true (h_none _ mem)) h_w
  | entry mem _ ih =>
    rw [hasPlaceholder_dict, List.any_eq_false] at h_none
    exact ih (Bool.eq_false_of_not_eq_true (h_none _ mem)) h_w

/-! ### What the usage scan has found -/

/-- A parameter is a placeholder that the schema declares, or has none inside. -/
def ParameterChecked (schema : List (String × PlaceholderType)) (v : PyValue) : Prop :=
  match placeholder v with
  | none => hasPlaceholder v = false
  | some name => ∃ type, schema.lookup name = some type

/-- A rule has placeholders only as parameters, and those are declared. -/
structure RuleChecked (schema : List (String × PlaceholderType)) (rule : PyDict) : Prop where
  others : hasPlaceholder (.dict (rule.filter fun e => e.1 ≠ "parameters")) = false
  parameters : ∃ parameters, rule.get "parameters" = .dict parameters ∧
    ∀ e ∈ parameters, ParameterChecked schema e.2

/-- An accepted parameter uses placeholders of the schema only. -/
theorem parameterUsage_ok {schema : List (String × PlaceholderType)} {index : ℕ}
    {ruleType : Option String} {used used' : UsedPlaceholders} {entry : String × PyValue}
    (h : parameterUsage schema index ruleType used entry = .ok used') :
    ParameterChecked schema entry.2 := by
  cases h_placeholder : placeholder entry.2 with
  | none =>
    simp only [parameterUsage, h_placeholder] at h
    simp only [ParameterChecked, h_placeholder]
    split at h
    · cases h
    · next h_nested => exact Bool.eq_false_of_not_eq_true h_nested
  | some name =>
    simp only [parameterUsage, h_placeholder] at h
    simp only [ParameterChecked, h_placeholder]
    cases h_slot : placeholderSlots.lookup entry.1 with
    | none =>
      rw [h_slot] at h
      cases h
    | some slot =>
      simp only [h_slot] at h
      split_ifs at h with h_type h_name h_declared
      exact ⟨slot.1, not_not.mp h_declared⟩

/-- An accepted rule uses placeholders of the schema only. -/
theorem ruleUsage_ok {python : Python δ} {schema : List (String × PlaceholderType)}
    {used used' : UsedPlaceholders} {entry : PyDict × ℕ}
    (h : ruleUsage python schema used entry = .ok used') : RuleChecked schema entry.1 := by
  unfold ruleUsage at h
  dsimp only at h
  split at h
  case isTrue => cases h
  case isFalse =>
    split at h
    case h_2 => cases h
    case h_1 parameters code h_parameters _ =>
      split at h
      case isTrue => cases h
      case isFalse h_others =>
        refine ⟨Bool.eq_false_of_not_eq_true h_others, parameters, h_parameters, ?_⟩
        exact forall_of_foldlM_ok (fun _ _ _ h_entry => parameterUsage_ok h_entry) h

/-- An accepted template has checked every rule. -/
theorem TemplateContract.ruleChecked {python : Python δ} {t : TemplateContract}
    {used : UsedPlaceholders} (h : t.placeholderUsage python = .ok used) :
    ∀ rule ∈ t.rulesPayload, RuleChecked t.placeholderSchema rule := by
  intro rule h_rule
  obtain ⟨index, h_index⟩ : ∃ index, (rule, index) ∈ t.rulesPayload.zipIdx := by
    obtain ⟨i, h_i, rfl⟩ := List.getElem_of_mem h_rule
    exact ⟨i, by simp [List.mem_zipIdx_iff_getElem?, h_i]⟩
  exact forall_of_foldlM_ok (P := fun entry : PyDict × ℕ => RuleChecked t.placeholderSchema entry.1)
    (fun _ _ _ h_entry => ruleUsage_ok h_entry) h _ h_index

/-! ### Binding -/

/-- The value passes `_binding_text`, with every item of a list. -/
def BindingValue.Accepted : BindingValue → Prop
  | text value => bindingText value = .ok value
  | texts items => ∀ item ∈ items, bindingText item = .ok item

/-- Every placeholder of the schema has an accepted value. The type of the value is not used. -/
def Binds (bindings : Bindings) (schema : List (String × PlaceholderType)) : Prop :=
  ∀ name type, schema.lookup name = some type →
    ∃ value, bindings.lookup name = some value ∧ value.Accepted

/-- A parameter after binding: a placeholder has its value, and anything else stays. -/
structure SlotBound (bindings : Bindings) (e e' : String × PyValue) : Prop where
  key : e'.1 = e.1
  kept : placeholder e.2 = none → e'.2 = e.2
  bound : ∀ name, placeholder e.2 = some name →
    ∃ value, bindings.lookup name = some value ∧ e'.2 = value.toPy

/-- A rule after binding: only parameters differ. -/
structure BoundFrom (bindings : Bindings) (rule rule' : PyDict) : Prop where
  keys : rule'.map (·.1) = rule.map (·.1)
  others : ∀ key, key ≠ "parameters" → rule'.lookup key = rule.lookup key
  parameters : ∃ parameters parameters', rule.lookup "parameters" = some (.dict parameters) ∧
    rule'.lookup "parameters" = some (.dict parameters') ∧
    List.Forall₂ (SlotBound bindings) parameters parameters'

/-- An accepted text does not start like a placeholder. -/
theorem startsWithDollar_of_bindingText {s s' : String} (h : bindingText s = .ok s') :
    startsWithDollar s = false := by
  unfold bindingText at h
  split at h
  · cases h
  · next h_accepted =>
    exact Bool.eq_false_of_not_eq_true fun h_dollar => h_accepted (Or.inr (Or.inr h_dollar))

/-- An accepted value holds no placeholder. -/
theorem BindingValue.Accepted.hasPlaceholder_eq {value : BindingValue} (h : value.Accepted) :
    hasPlaceholder value.toPy = false := by
  cases value with
  | text s => exact startsWithDollar_of_bindingText h
  | texts items =>
    rw [BindingValue.toPy, hasPlaceholder_list, List.any_eq_false]
    intro v h_v
    obtain ⟨s, h_s, rfl⟩ := List.mem_map.mp h_v
    rw [hasPlaceholder, startsWithDollar_of_bindingText (h s h_s)]
    exact Bool.false_ne_true

/-- The parameter that is bound has no placeholder left. -/
theorem bindValue_spec {schema : List (String × PlaceholderType)} {bindings : Bindings}
    {raw : PyValue} (h : ParameterChecked schema raw) (h_binds : Binds bindings schema)
    (key : String) :
    SlotBound bindings (key, raw) (key, bindValue bindings raw) ∧
      hasPlaceholder (bindValue bindings raw) = false := by
  unfold ParameterChecked at h
  unfold bindValue
  split at h
  case h_1 h_placeholder =>
    rw [h_placeholder, Option.bind_none]
    exact ⟨⟨rfl, fun _ => rfl, fun name h_name => by cases h_placeholder.symm.trans h_name⟩, h⟩
  case h_2 name h_placeholder =>
    obtain ⟨type, h_declared⟩ := h
    obtain ⟨value, h_value, h_accepted⟩ := h_binds name type h_declared
    rw [h_placeholder, Option.bind_some, h_value]
    refine ⟨⟨rfl, fun h_none => ?_, fun name' h_name => ?_⟩, h_accepted.hasPlaceholder_eq⟩
    · cases h_placeholder.symm.trans h_none
    · obtain rfl := Option.some.inj (h_placeholder.symm.trans h_name)
      exact ⟨value, h_value, rfl⟩

section Insert

variable {β : Type} {d : List (String × β)} {key : String} (v : β)

/-- A key that is there keeps its place. -/
theorem PyDict.insert_of_mem (h : key ∈ d.map (·.1)) :
    PyDict.insert d key v = d.map fun e => if e.1 = key then (key, v) else e := by
  obtain ⟨e, h_e, rfl⟩ := List.mem_map.mp h
  exact if_pos (List.any_eq_true.mpr ⟨e, h_e, decide_eq_true rfl⟩)

/-- Replacing a value keeps the keys in their order. -/
theorem PyDict.keys_insert_of_mem (h : key ∈ d.map (·.1)) :
    (PyDict.insert d key v).map (·.1) = d.map (·.1) := by
  rw [PyDict.insert_of_mem v h, List.map_map]
  refine List.map_congr_left fun e _ => ?_
  show (if e.1 = key then (key, v) else e).1 = e.1
  split
  · next h_key => exact h_key.symm
  · rfl

/-- The other keys keep their values. -/
theorem PyDict.lookup_insert_of_ne (h : key ∈ d.map (·.1)) {key' : String} (h_ne : key' ≠ key) :
    (PyDict.insert d key v).lookup key' = d.lookup key' := by
  rw [PyDict.insert_of_mem v h]
  clear h
  induction d with
  | nil => rfl
  | cons e d ih =>
    by_cases h_head : e.1 = key
    · rw [List.map_cons, if_pos h_head, List.lookup_cons, List.lookup_cons, beq_false_of_ne h_ne,
        h_head, beq_false_of_ne h_ne]
      exact ih
    · rw [List.map_cons, if_neg h_head, List.lookup_cons, List.lookup_cons, ih]

/-- The key has its new value. -/
theorem PyDict.lookup_insert_self (h : key ∈ d.map (·.1)) :
    (PyDict.insert d key v).lookup key = some v := by
  rw [PyDict.insert_of_mem v h]
  induction d with
  | nil => cases h
  | cons e d ih =>
    by_cases h_head : e.1 = key
    · rw [List.map_cons, if_pos h_head, List.lookup_cons, beq_self_eq_true]
    · rw [List.map_cons, if_neg h_head, List.lookup_cons, beq_false_of_ne (Ne.symm h_head)]
      refine ih ?_
      rw [List.map_cons, List.mem_cons] at h
      exact h.resolve_left (Ne.symm h_head)

end Insert

/-- **A checked rule binds**, and what comes out has no placeholder left. -/
theorem bindRule_checked {schema : List (String × PlaceholderType)} {bindings : Bindings}
    {rule : PyDict} (h : RuleChecked schema rule) (h_binds : Binds bindings schema) :
    ∃ rule', bindRule bindings rule = .ok rule' ∧ hasPlaceholder (.dict rule') = false ∧
      BoundFrom bindings rule rule' := by
  obtain ⟨parameters, h_get, h_checked⟩ := h.parameters
  have h_lookup : rule.lookup "parameters" = some (.dict parameters) := by
    -- the checked parameters are those of the rule
    unfold PyDict.get at h_get
    cases h_found : rule.lookup "parameters" with
    | none =>
      rw [h_found] at h_get
      cases h_get
    | some v =>
      rw [h_found] at h_get
      exact congrArg some h_get
  have h_mem : "parameters" ∈ rule.map (·.1) := by
    obtain ⟨before, after, h_rule, -⟩ := List.lookup_eq_some_iff.mp h_lookup
    rw [h_rule, List.map_append, List.map_cons]
    exact List.mem_append_right _ List.mem_cons_self
  let resolved : PyDict := parameters.map fun e => (e.1, bindValue bindings e.2)
  -- every value was bound, so none is a placeholder
  have h_resolved : hasPlaceholder (.dict resolved) = false := by
    rw [hasPlaceholder_dict, List.any_eq_false]
    intro e' h_e'
    obtain ⟨e, h_e, rfl⟩ := List.mem_map.mp h_e'
    rw [(bindValue_spec (h_checked e h_e) h_binds e.1).2]
    exact Bool.false_ne_true
  -- the entries are those that the scan looked at, and the parameters
  have h_candidate : hasPlaceholder (.dict (PyDict.insert rule "parameters" (.dict resolved))) =
      false := by
    rw [hasPlaceholder_dict, List.any_eq_false, PyDict.insert_of_mem _ h_mem]
    intro e' h_e'
    obtain ⟨e, h_e, rfl⟩ := List.mem_map.mp h_e'
    by_cases h_key : e.1 = "parameters"
    · rw [if_pos h_key, h_resolved]
      exact Bool.false_ne_true
    · have h_others := h.others
      rw [hasPlaceholder_dict, List.any_eq_false] at h_others
      rw [if_neg h_key]
      exact h_others e (List.mem_filter.mpr ⟨h_e, decide_eq_true h_key⟩)
  refine ⟨PyDict.insert rule "parameters" (.dict resolved), ?_, h_candidate, ?_⟩
  · -- the rule is bound as the loop does it
    unfold bindRule PyDict.getD
    rw [h_lookup, Option.getD_some]
    simp only
    rw [if_neg (by rw [h_candidate]; exact Bool.false_ne_true)]
  · -- the keys stay, and each value is bound in its place
    refine ⟨PyDict.keys_insert_of_mem _ h_mem, fun key h_ne => ?_, parameters, resolved, h_lookup,
      PyDict.lookup_insert_self _ h_mem, ?_⟩
    · exact PyDict.lookup_insert_of_ne _ h_mem h_ne
    · rw [List.forall₂_map_right_iff, List.forall₂_same]
      exact fun e h_e => (bindValue_spec (h_checked e h_e) h_binds e.1).1

/-- An accepted template has passed the scan. -/
theorem placeholderUsage_of_validate [Field α] [LinearOrder α] [LinearOrder δ]
    {python : Python δ} {reading : NumberReading α δ} {t : TemplateContract}
    (h : t.validate python reading = .ok ()) : ∃ used, t.placeholderUsage python = .ok used := by
  unfold TemplateContract.validate at h
  dsimp only at h
  split at h
  case isTrue =>
    obtain ⟨_, h_error, -⟩ := ok_of_bind h
    cases h_error
  case isFalse =>
    split at h
    case isTrue =>
      obtain ⟨_, h_error, -⟩ := ok_of_bind h
      cases h_error
    case isFalse =>
      split at h
      case isTrue =>
        obtain ⟨_, h_error, -⟩ := ok_of_bind h
        cases h_error
      case isFalse =>
        obtain ⟨_, -, h⟩ := ok_of_bind h
        obtain ⟨used, h_used, -⟩ := ok_of_bind h
        exact ⟨used, h_used⟩

/-- **Every later binding of an accepted template succeeds**: what comes out has no string value
with a dollar sign at any depth, and differs in the parameters that were placeholders, which have
the bound values. -/
theorem bindRules_accepted [Field α] [LinearOrder α] [LinearOrder δ] {python : Python δ}
    {reading : NumberReading α δ} {t : TemplateContract} {bindings : Bindings}
    (h : t.validate python reading = .ok ()) (h_binds : Binds bindings t.placeholderSchema) :
    ∃ bound, bindRules t.rulesPayload bindings = .ok bound ∧
      (∀ rule ∈ bound, ∀ s, PyValue.Contains (.dict rule) (.str s) → startsWithDollar s = false) ∧
      List.Forall₂ (BoundFrom bindings) t.rulesPayload bound := by
  obtain ⟨used, h_used⟩ := placeholderUsage_of_validate h
  have h_rules : ∀ rule ∈ t.rulesPayload, ∃ rule', bindRule bindings rule = .ok rule' :=
    fun rule h_rule => (bindRule_checked (t.ruleChecked h_used rule h_rule) h_binds).imp
      fun _ h => h.1
  obtain ⟨bound, h_bound⟩ := mapM_isOk_of_forall h_rules
  have h_pairs := mapM_eq_ok_iff.mp h_bound
  -- what each rule is bound to is known
  have h_spec : ∀ rule rule', rule ∈ t.rulesPayload → bindRule bindings rule = .ok rule' →
      hasPlaceholder (.dict rule') = false ∧ BoundFrom bindings rule rule' := by
    intro rule rule' h_rule h_ok
    obtain ⟨rule'', h_ok'', h_none, h_from⟩ :=
      bindRule_checked (t.ruleChecked h_used rule h_rule) h_binds
    obtain rfl := Except.ok.inj (h_ok.symm.trans h_ok'')
    exact ⟨h_none, h_from⟩
  refine ⟨bound, h_bound, fun rule' h_rule' s h_s => ?_, ?_⟩
  · obtain ⟨rule, h_rule, h_ok⟩ := exists_left_of_mem h_pairs h_rule'
    exact not_startsWithDollar_of_contains h_s (h_spec rule rule' h_rule h_ok).1
  · have h_mem := (List.forall₂_and_left (p := (· ∈ t.rulesPayload)) _ _).mpr
      ⟨fun _ h_rule => h_rule, h_pairs⟩
    exact h_mem.imp fun rule rule' h_rule => (h_spec rule rule' h_rule.1 h_rule.2).2

/-! ### A key with a dollar sign -/

/-- A SPELLING rule with digests under the key `$en`. -/
def notesRule (column : String) : PyDict := [
  ("parameters", .dict [("dictionary_digests", .dict [("$en", .list [])]),
    ("column", .str column), ("language", .str "en"), ("dictionary_revision", .str "r1")]),
  ("rule_code", .str "NOTES_SPELLING"), ("dimension", .str "VALIDITY"),
  ("rule_type", .str "SPELLING")]

/-- What is bound. -/
def notesBindings : Bindings := [("$notes", .text "comment")]

/-- The template with that rule, on a column that is left open. -/
def notesTemplate : TemplateContract where
  rulesPayload := [notesRule "$notes"]
  examples := [⟨notesBindings, [("NOTES_SPELLING", .passed)]⟩,
    ⟨notesBindings, [("NOTES_SPELLING", .failed)]⟩]
  placeholderSchema := [("$notes", .column)]

/-- The sample template is accepted. -/
theorem validate_notesTemplate :
    notesTemplate.validate upperPython fractionReading = .ok () := by
  decide +kernel

/-- The sample bindings fit the schema. -/
theorem binds_notesTemplate : Binds notesBindings notesTemplate.placeholderSchema := by
  intro name type h
  obtain ⟨before, after, h_schema, -⟩ := List.lookup_eq_some_iff.mp h
  have h_mem : (name, type) ∈ notesTemplate.placeholderSchema := by
    rw [h_schema]
    exact List.mem_append_right _ List.mem_cons_self
  obtain ⟨rfl, rfl⟩ := Prod.mk.inj (List.mem_singleton.mp h_mem)
  have h_comment : bindingText "comment" = .ok "comment" := by decide
  exact ⟨.text "comment", rfl, h_comment⟩

theorem bindRules_accepted_notesTemplate :
    ∃ bound, bindRules notesTemplate.rulesPayload notesBindings = .ok bound ∧
      (∀ rule ∈ bound, ∀ s, PyValue.Contains (.dict rule) (.str s) → startsWithDollar s = false) ∧
      List.Forall₂ (BoundFrom notesBindings) notesTemplate.rulesPayload bound :=
  bindRules_accepted validate_notesTemplate binds_notesTemplate

/-- The template is accepted and binds, and the key is in what comes out. -/
theorem notesTemplate_keepsKey :
    notesTemplate.validate upperPython fractionReading = .ok () ∧
      Binds notesBindings notesTemplate.placeholderSchema ∧
      bindRules notesTemplate.rulesPayload notesBindings = .ok [notesRule "comment"] ∧
      ¬ ∀ s, PyValue.HasString (.dict (notesRule "comment")) s → startsWithDollar s = false := by
  refine ⟨validate_notesTemplate, binds_notesTemplate, rfl, fun h => ?_⟩
  have h_digests : PyValue.Contains (.dict (notesRule "comment")) (.dict [("$en", .list [])]) :=
    .entry (List.Mem.head _) (.entry (List.Mem.head _) (.self _))
  have h_key := h "$en" (Or.inr ⟨_, h_digests, List.mem_singleton_self _⟩)
  cases h_key

end DqScoring
