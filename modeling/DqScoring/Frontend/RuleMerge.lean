import DqScoring.Framework.MergeByKey
import DqScoring.Frontend.SavedRules

/-!
# Merging rules into the form

`mergeAndDedupeRules` of `ruleForm.ts`: rules of a template or of a recommendation go into the
drafts of the form, by their trimmed codes. A draft of the form has a key besides the fields of
`RuleDraft`, and every draft that is made takes the next one. The counter of the keys is passed
along.
-/

namespace DqScoring

open Framework

/-- A draft in the form. -/
structure KeyedDraft extends RuleDraft where
  key : ℕ
  deriving DecidableEq

/-- The trimmed code of a draft. -/
def KeyedDraft.code (r : KeyedDraft) : String := jsTrim r.ruleCode

/-- `newRule`, with its key. -/
def newRule (key : ℕ) : KeyedDraft where
  key
  ruleCode := ""
  dimension := "COMPLETENESS"
  ruleType := .notNull
  column := ""
  min := ""
  max := ""
  allowed := ""
  pattern := ""
  dataType := "DOUBLE"
  format := defaultTimestampFormat
  comparisonColumn := ""
  operator := ">="
  nullPolicy := .fail
  isRequired := false
  isCritical := false
  isAdvisory := false
  weight := "1"
  acceptanceThreshold := ""
  check := "REPLACEMENT_CHARACTER"
  path := ""
  language := "vi-en"
  dictionaryRevision := ""
  acceptedTerms := ""
  expectedType := "STRING"
  uniqueItems := false

/-- `isSingleEmpty`. -/
def isSingleEmpty : List KeyedDraft → Bool
  | [r] => jsTrim r.ruleCode == "" && jsTrim r.column == ""
  | _ => false

/-- A draft that an incoming one replaces keeps its key and its controls. -/
def KeyedDraft.replacedBy (curr converted : KeyedDraft) : KeyedDraft :=
  { converted with
    -- what the user has set in the form stays
    key := curr.key
    nullPolicy := curr.nullPolicy
    weight := curr.weight
    isRequired := curr.isRequired
    isCritical := curr.isCritical
    isAdvisory := curr.isAdvisory
    acceptanceThreshold := curr.acceptanceThreshold }

variable {α : Type} (js : Js α)

/-- One incoming rule; the state is the result so far and the next key. -/
def mergeRule (state : List KeyedDraft × ℕ) (inc : CreateQualityRuleInput α) :
    List KeyedDraft × ℕ :=
  let code := jsTrim inc.ruleCode
  -- a replaced draft keeps its key, a new one has the next
  let converted : KeyedDraft := { fromRuleInput js inc with key := state.2 }
  let result :=
    -- the first draft with the same trimmed code
    match state.1.findIdx? fun r => decide (jsTrim r.ruleCode = code) with
    | some i => state.1.modify i (·.replacedBy converted)
    | none => state.1 ++ [converted]
  (result, state.2 + 1)

/-- `mergeAndDedupeRules`. -/
def mergeAndDedupeRules (existing : List KeyedDraft) (incoming : List (CreateQualityRuleInput α))
    (nextKey : ℕ) : List KeyedDraft × ℕ :=
  let start := if isSingleEmpty existing then [] else existing
  let merged := incoming.foldl (mergeRule js) (start, nextKey)
  if merged.1 = [] then ([newRule merged.2], merged.2 + 1) else merged

/-! ### The loop -/

/-- The drafts of the incoming rules. -/
def convertedFrom : ℕ → List (CreateQualityRuleInput α) → List KeyedDraft
  | _, [] => []
  | key, inc :: incoming =>
    { fromRuleInput js inc with key } :: convertedFrom (key + 1) incoming

/-- The loop over the incoming rules is a merge by code of the converted ones. -/
theorem foldl_mergeRule (drafts : List KeyedDraft) (incoming : List (CreateQualityRuleInput α))
    (nextKey : ℕ) :
    (incoming.foldl (mergeRule js) (drafts, nextKey)).1 =
      mergeRows KeyedDraft.code KeyedDraft.replacedBy drafts
        (convertedFrom js nextKey incoming) := by
  induction incoming generalizing drafts nextKey with
  | nil => rfl
  | cons inc incoming ih => exact ih _ _

/-- A replaced draft has the code of the rule that replaced it. -/
theorem code_replacedBy (curr converted : KeyedDraft) :
    (curr.replacedBy converted).code = converted.code := rfl

/-- Conversion keeps the codes, trimmed. -/
theorem map_code_convertedFrom (key : ℕ) (incoming : List (CreateQualityRuleInput α)) :
    (convertedFrom js key incoming).map KeyedDraft.code =
      incoming.map fun inc => jsTrim inc.ruleCode := by
  induction incoming generalizing key with
  | nil => rfl
  | cons inc incoming ih =>
    rw [convertedFrom, List.map_cons, List.map_cons, ih]
    rfl

/-- Each converted draft comes from an incoming rule. -/
theorem mem_convertedFrom {key : ℕ} {incoming : List (CreateQualityRuleInput α)}
    {converted : KeyedDraft} (h : converted ∈ convertedFrom js key incoming) :
    ∃ inc ∈ incoming, converted.toRuleDraft = fromRuleInput js inc := by
  induction incoming generalizing key with
  | nil => cases h
  | cons inc incoming ih =>
    rcases List.mem_cons.mp h with rfl | h_rest
    · exact ⟨inc, List.mem_cons_self, rfl⟩
    · obtain ⟨other, h_other, h_draft⟩ := ih h_rest
      exact ⟨other, List.mem_cons_of_mem _ h_other, h_draft⟩

/-- Each incoming rule is converted. -/
theorem exists_convertedFrom (key : ℕ) {incoming : List (CreateQualityRuleInput α)}
    {inc : CreateQualityRuleInput α} (h : inc ∈ incoming) :
    ∃ converted ∈ convertedFrom js key incoming, converted.toRuleDraft = fromRuleInput js inc := by
  induction incoming generalizing key with
  | nil => cases h
  | cons first incoming ih =>
    rcases List.mem_cons.mp h with rfl | h_rest
    · exact ⟨_, List.mem_cons_self, rfl⟩
    · obtain ⟨converted, h_mem, h_draft⟩ := ih (key + 1) h_rest
      exact ⟨converted, List.mem_cons_of_mem _ h_mem, h_draft⟩

/-- A draft of the same rule replaces the draft, and nothing changes. -/
theorem replacedBy_of_same {converted again : KeyedDraft}
    (h : again.toRuleDraft = converted.toRuleDraft) :
    converted.replacedBy again = converted := by
  obtain ⟨draft, key⟩ := converted
  obtain ⟨draft', key'⟩ := again
  obtain rfl : draft' = draft := h
  rfl

/-- Replacing twice by the same content is replacing once. -/
theorem replacedBy_replacedBy_of_same {converted again : KeyedDraft}
    (h : again.toRuleDraft = converted.toRuleDraft) (curr : KeyedDraft) :
    (curr.replacedBy converted).replacedBy again = curr.replacedBy converted := by
  obtain ⟨draft, key⟩ := converted
  obtain ⟨draft', key'⟩ := again
  obtain rfl : draft' = draft := h
  rfl

/-! ### The merge -/

/-- The draft that takes the place of `curr` when `inc` comes in. -/
structure Replaces (curr : KeyedDraft) (inc : CreateQualityRuleInput α) (r : KeyedDraft) :
    Prop where
  key : r.key = curr.key
  nullPolicy : r.nullPolicy = curr.nullPolicy
  weight : r.weight = curr.weight
  isRequired : r.isRequired = curr.isRequired
  isCritical : r.isCritical = curr.isCritical
  isAdvisory : r.isAdvisory = curr.isAdvisory
  acceptanceThreshold : r.acceptanceThreshold = curr.acceptanceThreshold
  /-- Every other field is that of the incoming rule. -/
  rest : { r.toRuleDraft with
    nullPolicy := (fromRuleInput js inc).nullPolicy
    weight := (fromRuleInput js inc).weight
    isRequired := (fromRuleInput js inc).isRequired
    isCritical := (fromRuleInput js inc).isCritical
    isAdvisory := (fromRuleInput js inc).isAdvisory
    acceptanceThreshold := (fromRuleInput js inc).acceptanceThreshold } = fromRuleInput js inc

variable {js}

/-- A replacement takes the content of the incoming rule and keeps key and weight of the
draft. -/
theorem replaces_replacedBy {converted : KeyedDraft} {inc : CreateQualityRuleInput α}
    (h : converted.toRuleDraft = fromRuleInput js inc) (curr : KeyedDraft) :
    Replaces js curr inc (curr.replacedBy converted) := by
  obtain ⟨draft, key⟩ := converted
  obtain rfl : draft = fromRuleInput js inc := h
  exact ⟨rfl, rfl, rfl, rfl, rfl, rfl, rfl, rfl⟩

variable (js)

/-- The drafts `merged` are what becomes of the existing ones when the rules come in. -/
structure IsMerge (existing : List KeyedDraft) (incoming : List (CreateQualityRuleInput α))
    (merged : List KeyedDraft) : Prop where
  nodup_codes : (merged.map KeyedDraft.code).Nodup
  /-- Every incoming rule is there, in the place of the draft of its code or on its own. -/
  incoming_mem : ∀ inc ∈ incoming, ∃ r ∈ merged, r.toRuleDraft = fromRuleInput js inc ∨
    ∃ curr ∈ existing, curr.code = jsTrim inc.ruleCode ∧ Replaces js curr inc r
  /-- A draft whose code comes in is replaced where it stands. -/
  replaced : isSingleEmpty existing = false → ∀ (i : ℕ) (curr : KeyedDraft),
    existing[i]? = some curr → ∀ inc ∈ incoming, jsTrim inc.ruleCode = curr.code →
      ∃ r, merged[i]? = some r ∧ Replaces js curr inc r
  /-- Any other draft stays where it is. -/
  kept : isSingleEmpty existing = false → ∀ (i : ℕ) (curr : KeyedDraft),
    existing[i]? = some curr → (∀ inc ∈ incoming, jsTrim inc.ruleCode ≠ curr.code) →
      merged[i]? = some curr

variable {js} {existing : List KeyedDraft} {incoming : List (CreateQualityRuleInput α)}

/-- Incoming rules with distinct codes are converted to such drafts. -/
theorem nodup_codes_convertedFrom (js : Js α)
    (h : (incoming.map fun inc => jsTrim inc.ruleCode).Nodup) (key : ℕ) :
    ((convertedFrom js key incoming).map KeyedDraft.code).Nodup := by
  rw [map_code_convertedFrom]
  exact h

theorem fromRuleInput_ruleCode (inc : CreateQualityRuleInput α) :
    (fromRuleInput js inc).ruleCode = inc.ruleCode := rfl

/-- A converted draft has the trimmed code of its rule. -/
theorem code_of_toRuleDraft {converted : KeyedDraft} {inc : CreateQualityRuleInput α}
    (h : converted.toRuleDraft = fromRuleInput js inc) :
    converted.code = jsTrim inc.ruleCode := by
  rw [KeyedDraft.code, h, fromRuleInput_ruleCode]

/-- The rows of the loop are a merge of the drafts that it starts with. -/
theorem isMerge_mergeRows (js : Js α) (h_existing : (existing.map KeyedDraft.code).Nodup)
    (h_incoming : (incoming.map fun inc => jsTrim inc.ruleCode).Nodup) (key : ℕ) :
    IsMerge js existing incoming (mergeRows KeyedDraft.code KeyedDraft.replacedBy existing
      (convertedFrom js key incoming)) := by
  have h_news := nodup_codes_convertedFrom js h_incoming key
  have h_rows := mergeRows_eq code_replacedBy h_existing h_news
  -- the drafts that were there come first, in their places
  have h_place : ∀ (i : ℕ) (curr : KeyedDraft), existing[i]? = some curr →
      (mergeRows KeyedDraft.code KeyedDraft.replacedBy existing
        (convertedFrom js key incoming))[i]? =
        some (combined KeyedDraft.code KeyedDraft.replacedBy (convertedFrom js key incoming)
          curr) := by
    intro i curr h_curr
    rw [h_rows, List.getElem?_append_left, List.getElem?_map, h_curr]
    · rfl
    · rw [List.length_map]
      exact (List.getElem?_eq_some_iff.mp h_curr).1
  -- a draft that meets an incoming rule takes its content
  have h_replaced : ∀ (curr : KeyedDraft), ∀ inc ∈ incoming, jsTrim inc.ruleCode = curr.code →
      Replaces js curr inc (combined KeyedDraft.code KeyedDraft.replacedBy
        (convertedFrom js key incoming) curr) := by
    intro curr inc h_inc h_code
    obtain ⟨converted, h_converted, h_draft⟩ := exists_convertedFrom js key h_inc
    rw [combined_of_mem h_news h_converted ((code_of_toRuleDraft h_draft).trans h_code)]
    exact replaces_replacedBy h_draft curr
  refine ⟨nodup_map_key_mergeRows code_replacedBy h_existing h_news, ?_, ?_, ?_⟩
  · -- each incoming rule is converted, and stands in the place of the old draft or behind the
    -- drafts
    intro inc h_inc
    obtain ⟨converted, h_converted, h_draft⟩ := exists_convertedFrom js key h_inc
    rw [h_rows]
    by_cases h_old : converted.code ∈ existing.map KeyedDraft.code
    · obtain ⟨curr, h_curr, h_code⟩ := List.mem_map.mp h_old
      have h_same : curr.code = jsTrim inc.ruleCode := h_code.trans (code_of_toRuleDraft h_draft)
      exact ⟨_, List.mem_append_left _ (List.mem_map_of_mem h_curr),
        Or.inr ⟨curr, h_curr, h_same, h_replaced curr inc h_inc h_same.symm⟩⟩
    · refine ⟨converted, List.mem_append_right _ ?_, Or.inl h_draft⟩
      exact List.mem_filter.mpr ⟨h_converted, decide_eq_true h_old⟩
  · intro _ i curr h_curr inc h_inc h_code
    exact ⟨_, h_place i curr h_curr, h_replaced curr inc h_inc h_code⟩
  · -- a draft that meets no incoming rule is not touched
    intro _ i curr h_curr h_other
    rw [h_place i curr h_curr, combined_of_forall_ne]
    intro converted h_converted
    obtain ⟨inc, h_inc, h_draft⟩ := mem_convertedFrom js h_converted
    rw [code_of_toRuleDraft h_draft]
    exact h_other inc h_inc

/-- The drafts that the loop starts with. -/
def startOf (existing : List KeyedDraft) : List KeyedDraft :=
  if isSingleEmpty existing then [] else existing

/-- A merge that leaves a rule is the merge by code. -/
theorem mergeAndDedupeRules_of_ne (js : Js α) {nextKey : ℕ}
    (h : mergeRows KeyedDraft.code KeyedDraft.replacedBy (startOf existing)
      (convertedFrom js nextKey incoming) ≠ []) :
    (mergeAndDedupeRules js existing incoming nextKey).1 =
      mergeRows KeyedDraft.code KeyedDraft.replacedBy (startOf existing)
        (convertedFrom js nextKey incoming) := by
  rw [← foldl_mergeRule] at h ⊢
  exact congrArg Prod.fst (if_neg h)

/-- Nothing to list: a new draft takes the place. -/
theorem mergeAndDedupeRules_nil (js : Js α) (nextKey : ℕ) (h : startOf existing = []) :
    (mergeAndDedupeRules js existing [] nextKey).1 = [newRule nextKey] := by
  have h_merged : (([] : List (CreateQualityRuleInput α)).foldl (mergeRule js)
      (startOf existing, nextKey)).1 = [] := h
  exact congrArg Prod.fst (if_pos h_merged)

/-- The loop gives nothing only if it starts with nothing and nothing comes in. -/
theorem mergeRows_ne_nil (js : Js α) (nextKey : ℕ)
    (h_existing : (existing.map KeyedDraft.code).Nodup)
    (h_incoming : (incoming.map fun inc => jsTrim inc.ruleCode).Nodup)
    (h : incoming ≠ [] ∨ existing ≠ []) :
    mergeRows KeyedDraft.code KeyedDraft.replacedBy existing
      (convertedFrom js nextKey incoming) ≠ [] := by
  rcases h with h_some | h_some
  · obtain ⟨inc, h_inc⟩ := List.exists_mem_of_ne_nil _ h_some
    obtain ⟨r, h_r, -⟩ :=
      (isMerge_mergeRows js h_existing h_incoming nextKey).incoming_mem inc h_inc
    exact List.ne_nil_of_mem h_r
  · rw [mergeRows_eq code_replacedBy h_existing (nodup_codes_convertedFrom js h_incoming nextKey)]
    simpa using fun h_nil => absurd h_nil h_some

/-- The form starts from drafts with distinct codes. -/
theorem nodup_codes_startOf (h : (existing.map KeyedDraft.code).Nodup) :
    ((startOf existing).map KeyedDraft.code).Nodup := by
  rw [startOf]
  split
  · exact List.nodup_nil
  · exact h

/-- A merge with a rule that has a code is not a single empty draft. -/
theorem IsMerge.isSingleEmpty_eq_false {merged : List KeyedDraft}
    (h : IsMerge js existing incoming merged) (h_some : incoming ≠ [])
    (h_blank : ∀ inc ∈ incoming, jsTrim inc.ruleCode ≠ "") : isSingleEmpty merged = false := by
  obtain ⟨inc, h_inc⟩ := List.exists_mem_of_ne_nil _ h_some
  obtain ⟨r, h_r, h_from⟩ := h.incoming_mem inc h_inc
  have h_code : r.code = jsTrim inc.ruleCode := by
    rcases h_from with h_draft | ⟨curr, -, -, h_replaces⟩
    · exact code_of_toRuleDraft h_draft
    · have h_ruleCode := congrArg RuleDraft.ruleCode h_replaces.rest
      rw [fromRuleInput_ruleCode] at h_ruleCode
      exact congrArg jsTrim h_ruleCode
  match merged, h_r with
  | [r'], h_r =>
    obtain rfl := List.mem_singleton.mp h_r
    have h_ne : jsTrim r.ruleCode ≠ "" := by
      show r.code ≠ ""
      rw [h_code]
      exact h_blank inc h_inc
    show (jsTrim r.ruleCode == "" && _) = false
    rw [beq_false_of_ne h_ne, Bool.false_and]
  | _ :: _ :: _, _ => rfl

/-- Merging the same rules again leaves the rows of the loop as they are. -/
theorem mergeRows_convertedFrom_again (js : Js α)
    (h_existing : (existing.map KeyedDraft.code).Nodup)
    (h_incoming : (incoming.map fun inc => jsTrim inc.ruleCode).Nodup) (key key' : ℕ) :
    mergeRows KeyedDraft.code KeyedDraft.replacedBy (mergeRows KeyedDraft.code
        KeyedDraft.replacedBy existing (convertedFrom js key incoming))
      (convertedFrom js key' incoming) =
    mergeRows KeyedDraft.code KeyedDraft.replacedBy existing (convertedFrom js key incoming) := by
  apply mergeRows_again code_replacedBy h_existing (nodup_codes_convertedFrom js h_incoming key)
    (nodup_codes_convertedFrom js h_incoming key')
  intro again h_again
  obtain ⟨inc, h_inc, h_draft'⟩ := mem_convertedFrom js h_again
  obtain ⟨converted, h_converted, h_draft⟩ := exists_convertedFrom js key h_inc
  have h_same : again.toRuleDraft = converted.toRuleDraft := h_draft'.trans h_draft.symm
  refine ⟨converted, h_converted, ?_, replacedBy_of_same h_same,
    replacedBy_replacedBy_of_same h_same⟩
  rw [code_of_toRuleDraft h_draft', code_of_toRuleDraft h_draft]

/-- Only a single empty draft is dropped. -/
theorem startOf_of_false (h : isSingleEmpty existing = false) : startOf existing = existing := by
  rw [startOf, h]
  rfl

/-- A merge of what the loop starts with is a merge of what is there. -/
theorem IsMerge.of_startOf {merged : List KeyedDraft}
    (h : IsMerge js (startOf existing) incoming merged) : IsMerge js existing incoming merged := by
  cases h_empty : isSingleEmpty existing with
  | false => rwa [startOf_of_false h_empty] at h
  | true =>
    rw [startOf, h_empty] at h
    refine ⟨h.nodup_codes, ?_, ?_, ?_⟩
    · intro inc h_inc
      obtain ⟨r, h_r, h_draft | ⟨curr, h_curr, -⟩⟩ := h.incoming_mem inc h_inc
      · exact ⟨r, h_r, Or.inl h_draft⟩
      · cases h_curr
    · intro h_false
      rw [h_empty] at h_false
      cases h_false
    · intro h_false
      rw [h_empty] at h_false
      cases h_false

/-- A new draft is the merge of nothing. -/
theorem isMerge_newRule (js : Js α) (nextKey : ℕ) (h : startOf existing = []) :
    IsMerge js existing [] [newRule nextKey] := by
  refine ⟨List.nodup_singleton _, List.forall_mem_nil _,
    fun _ _ _ _ => List.forall_mem_nil _, ?_⟩
  intro h_false i curr h_curr
  rw [startOf_of_false h_false] at h
  rw [h] at h_curr
  cases h_curr

/-- What merging does. A list of one draft without code and column is dropped, and where
nothing is left to list, a new draft takes the place. Apart from that case, whose draft gets a
new key each time, merging the same rules again changes nothing. -/
theorem mergeAndDedupeRules_spec (nextKey : ℕ)
    (h_existing : (existing.map KeyedDraft.code).Nodup)
    (h_incoming : (incoming.map fun inc => jsTrim inc.ruleCode).Nodup)
    (h_blank : ∀ inc ∈ incoming, jsTrim inc.ruleCode ≠ "") :
    IsMerge js existing incoming (mergeAndDedupeRules js existing incoming nextKey).1 ∧
      ((incoming ≠ [] ∨ existing ≠ [] ∧ isSingleEmpty existing = false) → ∀ nextKey',
        (mergeAndDedupeRules js (mergeAndDedupeRules js existing incoming nextKey).1 incoming
          nextKey').1 = (mergeAndDedupeRules js existing incoming nextKey).1) ∧
      (incoming = [] → existing = [] ∨ isSingleEmpty existing = true →
        (mergeAndDedupeRules js existing incoming nextKey).1 = [newRule nextKey]) := by
  have h_start := nodup_codes_startOf h_existing
  -- a single empty draft is dropped before the merge
  have h_nil : existing = [] ∨ isSingleEmpty existing = true → startOf existing = [] := by
    rintro (rfl | h_empty)
    · rfl
    · rw [startOf, if_pos h_empty]
  refine ⟨?_, ?_, ?_⟩
  · -- the merge leaves a rule, unless there was none to begin with
    by_cases h_some : incoming ≠ [] ∨ startOf existing ≠ []
    · rw [mergeAndDedupeRules_of_ne js (mergeRows_ne_nil js nextKey h_start h_incoming h_some)]
      exact (isMerge_mergeRows js h_start h_incoming nextKey).of_startOf
    · -- the one draft is the new one
      rw [not_or, not_not, not_not] at h_some
      obtain ⟨rfl, h_empty⟩ := h_some
      rw [mergeAndDedupeRules_nil js nextKey h_empty]
      exact isMerge_newRule js nextKey h_empty
  · -- the second merge meets every incoming rule under its code
    intro h_some nextKey'
    have h_some' : incoming ≠ [] ∨ startOf existing ≠ [] := by
      refine h_some.imp_right fun h => ?_
      rw [startOf_of_false h.2]
      exact h.1
    have h_ne := mergeRows_ne_nil js nextKey h_start h_incoming h_some'
    have h_merge := isMerge_mergeRows js h_start h_incoming nextKey
    have h_full : isSingleEmpty (mergeRows KeyedDraft.code KeyedDraft.replacedBy
        (startOf existing) (convertedFrom js nextKey incoming)) = false := by
      by_cases h_incoming_nil : incoming = []
      · obtain ⟨-, h_false⟩ := h_some.resolve_left fun h => h h_incoming_nil
        rw [h_incoming_nil, convertedFrom, mergeRows_nil, startOf_of_false h_false]
        exact h_false
      · exact h_merge.isSingleEmpty_eq_false h_incoming_nil h_blank
    have h_again := mergeRows_convertedFrom_again js h_start h_incoming nextKey nextKey'
    rw [mergeAndDedupeRules_of_ne js h_ne]
    rw [← startOf_of_false h_full] at h_again
    rw [mergeAndDedupeRules_of_ne js, h_again, startOf_of_false h_full]
    rw [h_again, startOf_of_false h_full]
    exact h_ne
  · -- without rules the form is left with the new draft
    rintro rfl h_empty
    exact mergeAndDedupeRules_nil js nextKey (h_nil h_empty)

/-- A draft of the rule for cities, with a weight of its own. -/
def cityDraft : KeyedDraft := { newRule 0 with ruleCode := " CITY_KNOWN", weight := "3" }

theorem mergeAndDedupeRules_spec_cities :
    (∃ r, (mergeAndDedupeRules oneDigitJs [cityDraft] [cityRule ["Hanoi"]] 1).1[0]? = some r ∧
      Replaces oneDigitJs cityDraft (cityRule ["Hanoi"]) r) ∧
    (mergeAndDedupeRules oneDigitJs
      (mergeAndDedupeRules oneDigitJs [cityDraft] [cityRule ["Hanoi"]] 1).1
      [cityRule ["Hanoi"]] 2).1 =
      (mergeAndDedupeRules oneDigitJs [cityDraft] [cityRule ["Hanoi"]] 1).1 := by
  have h_code : jsTrim "CITY_KNOWN" = "CITY_KNOWN" := by decide +kernel
  have h_draft : jsTrim " CITY_KNOWN" = "CITY_KNOWN" := by decide +kernel
  have h_spec := @mergeAndDedupeRules_spec ℚ oneDigitJs [cityDraft] [cityRule ["Hanoi"]] 1
    (List.nodup_singleton _) (List.nodup_singleton _) (by
      intro inc h_inc
      rw [List.mem_singleton.mp h_inc]
      show jsTrim "CITY_KNOWN" ≠ ""
      rw [h_code]
      decide)
  have h_full : isSingleEmpty [cityDraft] = false := by decide +kernel
  refine ⟨?_, h_spec.2.1 (Or.inl (List.cons_ne_nil _ _)) 2⟩
  exact h_spec.1.replaced h_full 0 cityDraft rfl _ List.mem_cons_self (h_code.trans h_draft.symm)

/-- A draft with a pattern, but without code and column, is lost in a merge, and the new draft
that takes its place changes in the next one. -/
theorem patternDraft_lost :
    (mergeAndDedupeRules oneDigitJs [{ newRule 0 with pattern := "[A-Z]+" }] [] 1).1 =
        [newRule 1] ∧
      (mergeAndDedupeRules oneDigitJs (mergeAndDedupeRules oneDigitJs
        [{ newRule 0 with pattern := "[A-Z]+" }] [] 1).1 [] 2).1 = [newRule 2] ∧
      "[A-Z]+" ≠ (newRule 1).pattern ∧ newRule 2 ≠ newRule 1 := by
  refine ⟨by decide +kernel, by decide +kernel, by decide, by decide⟩

end DqScoring
