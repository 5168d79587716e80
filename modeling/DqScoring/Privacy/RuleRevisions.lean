import DqScoring.Common.PrivacyRules
import Mathlib.Data.List.Perm.Basic

/-!
# Revisions of detector rules

The trigger `enforce_privacy_rule_revision` alone keeps the rules of a tenant well revised:
the revisions of each rule are 1, 2, … with one identity, and no code belongs to two
rules. The number of enabled rules is not the business of the trigger; what a new
revision does to it is `enabledCount_of_insertRule`.
-/

namespace DqScoring

/-- The revisions of a rule, oldest first. -/
def revisionsOf (rules : List PrivacyDetectorRule) (ruleId : RuleId) : List PrivacyDetectorRule :=
  rules.filter fun r => decide (r.ruleId = ruleId)

/-- Every rule has the revisions 1, 2, … with one identity, and a code of its own. -/
structure WellRevised (rules : List PrivacyDetectorRule) : Prop where
  revisions : ∀ id, (revisionsOf rules id).map PrivacyDetectorRule.revision
    = List.range' 1 (revisionsOf rules id).length
  identity : ∀ r ∈ rules, ∀ r' ∈ rules, r.ruleId = r'.ruleId →
    r.code = r'.code ∧ r.kind = r'.kind ∧ r.builtinCode = r'.builtinCode
  code : ∀ r ∈ rules, ∀ r' ∈ rules, r.code = r'.code → r.ruleId = r'.ruleId

theorem mem_revisionsOf {rules : List PrivacyDetectorRule} {id : RuleId} {r : PrivacyDetectorRule} :
    r ∈ revisionsOf rules id ↔ r ∈ rules ∧ r.ruleId = id := by
  rw [revisionsOf, List.mem_filter, decide_eq_true_eq]

/-- A new revision is the last of its rule. -/
theorem revisionsOf_append (rules : List PrivacyDetectorRule) (r : PrivacyDetectorRule)
    (id : RuleId) :
    revisionsOf (rules ++ [r]) id
      = if r.ruleId = id then revisionsOf rules id ++ [r] else revisionsOf rules id := by
  rw [revisionsOf, List.filter_append, List.filter_singleton]
  by_cases h : r.ruleId = id
  · rw [if_pos h, decide_eq_true h]
    rfl
  · rw [if_neg h, decide_eq_false h]
    exact List.append_nil _

namespace WellRevised

variable {rules : List PrivacyDetectorRule} {r : PrivacyDetectorRule}

/-- A revision is at most the number of them. -/
theorem revision_le (h : WellRevised rules) (h_mem : r ∈ rules) :
    r.revision ≤ (revisionsOf rules r.ruleId).length := by
  have h_revision : r.revision ∈ (revisionsOf rules r.ruleId).map PrivacyDetectorRule.revision :=
    List.mem_map_of_mem (mem_revisionsOf.mpr ⟨h_mem, rfl⟩)
  rw [h.revisions, List.mem_range'_1] at h_revision
  omega

/-- The latest revision is the number of them. -/
theorem latest_revision (h : WellRevised rules) {id : RuleId} {latest : PrivacyDetectorRule}
    (h_latest : latestRevision rules id = some latest) :
    latest ∈ rules ∧ latest.ruleId = id ∧ latest.revision = (revisionsOf rules id).length := by
  obtain ⟨h_mem, h_id⟩ := mem_revisionsOf.mp (List.argmax_mem h_latest)
  subst h_id
  refine ⟨h_mem, rfl, le_antisymm (h.revision_le h_mem) ?_⟩
  -- the last of the revisions 1, 2, … is one of them
  have h_pos : 0 < (revisionsOf rules latest.ruleId).length :=
    List.length_pos_of_mem (mem_revisionsOf.mpr ⟨h_mem, rfl⟩)
  have h_last : (revisionsOf rules latest.ruleId).length
      ∈ (revisionsOf rules latest.ruleId).map PrivacyDetectorRule.revision := by
    rw [h.revisions, List.mem_range'_1]
    omega
  obtain ⟨r, h_r, h_revision⟩ := List.mem_map.mp h_last
  rw [← h_revision]
  exact List.le_of_mem_argmax h_r h_latest

/-- What the trigger knows of a revision it accepts. -/
theorem of_enforce (h : WellRevised rules) (h_accepted : enforcePrivacyRuleRevision rules r) :
    r.revision = (revisionsOf rules r.ruleId).length + 1 ∧
      (∀ r' ∈ rules, r'.code = r.code → r'.ruleId = r.ruleId) ∧
      ∀ r' ∈ rules, r'.ruleId = r.ruleId →
        r'.code = r.code ∧ r'.kind = r.kind ∧ r'.builtinCode = r.builtinCode := by
  rw [enforcePrivacyRuleRevision] at h_accepted
  split at h_accepted
  · cases h_accepted
  rename_i h_code
  have h_code' : ∀ r' ∈ rules, r'.code = r.code → r'.ruleId = r.ruleId := by
    intro r' h_r' h_eq
    by_contra h_ne
    refine h_code (List.any_eq_true.mpr ⟨r', h_r', ?_⟩)
    rw [Bool.and_eq_true, decide_eq_true_eq, decide_eq_true_eq]
    exact ⟨h_eq, h_ne⟩
  cases h_latest : latestRevision rules r.ruleId with
  | none =>
    -- there is no revision yet
    rw [h_latest, decide_eq_true_eq] at h_accepted
    have h_nil : revisionsOf rules r.ruleId = [] := List.argmax_eq_none.mp h_latest
    refine ⟨by rw [h_nil]; exact h_accepted, h_code', fun r' h_r' h_eq => ?_⟩
    have h_mem := mem_revisionsOf.mpr ⟨h_r', h_eq⟩
    rw [h_nil] at h_mem
    cases h_mem
  | some latest =>
    rw [h_latest, decide_eq_true_eq] at h_accepted
    obtain ⟨h_revision, h_c, h_k, h_b⟩ := h_accepted
    obtain ⟨h_mem, h_id, h_length⟩ := h.latest_revision h_latest
    refine ⟨by rw [h_revision, h_length], h_code', fun r' h_r' h_eq => ?_⟩
    obtain ⟨h_c', h_k', h_b'⟩ := h.identity r' h_r' latest h_mem (h_eq.trans h_id.symm)
    exact ⟨h_c'.trans h_c.symm, h_k'.trans h_k.symm, h_b'.trans h_b.symm⟩

/-- The trigger keeps the rules well revised. -/
theorem insertRule (h : WellRevised rules) {rules' : List PrivacyDetectorRule}
    (h_insert : DqScoring.insertRule rules r = some rules') : WellRevised rules' := by
  rw [DqScoring.insertRule] at h_insert
  split at h_insert
  case isFalse => cases h_insert
  case isTrue h_accepted =>
    obtain rfl := Option.some.inj h_insert
    rw [Bool.and_eq_true] at h_accepted
    obtain ⟨h_revision, h_code, h_identity⟩ := h.of_enforce h_accepted.2
    refine ⟨fun id => ?_, fun r₁ h₁ r₂ h₂ h_eq => ?_, fun r₁ h₁ r₂ h₂ h_eq => ?_⟩
    · rw [revisionsOf_append]
      by_cases h_id : r.ruleId = id
      · subst h_id
        rw [if_pos rfl, List.map_append, h.revisions, List.length_append, List.length_singleton,
          List.range'_concat, List.map_singleton, h_revision]
        simp [Nat.add_comm]
      · rw [if_neg h_id]
        exact h.revisions id
    · rw [List.mem_append, List.mem_singleton] at h₁ h₂
      rcases h₁ with h₁ | rfl <;> rcases h₂ with h₂ | rfl
      · exact h.identity r₁ h₁ r₂ h₂ h_eq
      · exact h_identity r₁ h₁ h_eq
      · obtain ⟨h_c, h_k, h_b⟩ := h_identity r₂ h₂ h_eq.symm
        exact ⟨h_c.symm, h_k.symm, h_b.symm⟩
      · exact ⟨rfl, rfl, rfl⟩
    · rw [List.mem_append, List.mem_singleton] at h₁ h₂
      rcases h₁ with h₁ | rfl <;> rcases h₂ with h₂ | rfl
      · exact h.code r₁ h₁ r₂ h₂ h_eq
      · exact h_code r₁ h₁ h_eq
      · exact (h_code r₂ h₂ h_eq.symm).symm
      · rfl

theorem nil : WellRevised [] := by
  refine ⟨fun id => rfl, fun r hr => ?_, fun r hr => ?_⟩
  · cases hr
  · cases hr

end WellRevised

/-- The rules that a tenant starts with are inserted one by one. -/
theorem wellRevised_builtinRules : WellRevised builtinRules := by
  have h_fold : ∀ (new rules rules' : List PrivacyDetectorRule), WellRevised rules →
      new.foldlM insertRule rules = some rules' → WellRevised rules' := by
    intro new
    induction new with
    | nil =>
      rintro rules _ h ⟨⟩
      exact h
    | cons r new ih =>
      intro rules rules' h h_fold
      rw [List.foldlM_cons] at h_fold
      obtain ⟨rules₁, h_insert, h_rest⟩ := Option.bind_eq_some_iff.mp h_fold
      exact ih rules₁ rules' (h.insertRule h_insert) h_rest
  exact h_fold builtinRules [] builtinRules .nil (by decide)

/-! ### Enabled rules -/

/-- A new revision is the latest of its rule, and of no other. -/
theorem latestRevision_append {rules : List PrivacyDetectorRule} {r : PrivacyDetectorRule}
    (h : WellRevised rules) (h_revision : r.revision = (revisionsOf rules r.ruleId).length + 1)
    (id : RuleId) :
    latestRevision (rules ++ [r]) id =
      if r.ruleId = id then some r else latestRevision rules id := by
  show (revisionsOf (rules ++ [r]) id).argmax PrivacyDetectorRule.revision = _
  rw [revisionsOf_append]
  by_cases h_id : r.ruleId = id
  · subst h_id
    rw [if_pos rfl, if_pos rfl, List.argmax_concat]
    cases h_latest : (revisionsOf rules r.ruleId).argmax PrivacyDetectorRule.revision with
    | none => rfl
    | some latest =>
      -- it is one more than the latest
      have h_length := (h.latest_revision h_latest).2.2
      have h_less : latest.revision < r.revision := by omega
      exact if_pos h_less
  · rw [if_neg h_id, if_neg h_id]
    rfl

/-- The enabled rules but for the one of an identifier. -/
private def enabledElsewhere (rules : List PrivacyDetectorRule) (id : RuleId) : ℕ :=
  ((latestRules rules).filter fun r => decide (r.ruleId ≠ id)).countP PrivacyDetectorRule.enabled

/-- The enabled rules are those elsewhere and this one. -/
private theorem enabledCount_split (rules : List PrivacyDetectorRule) (id : RuleId) :
    enabledCount rules = enabledElsewhere rules id
      + ((latestRules rules).filter fun r => !decide (r.ruleId ≠ id)).countP
        PrivacyDetectorRule.enabled :=
  List.countP_eq_countP_filter_add _ _ fun r : PrivacyDetectorRule => decide (r.ruleId ≠ id)

/-- What a new revision does to the number of enabled rules. -/
theorem enabledCount_of_insertRule {rules rules' : List PrivacyDetectorRule}
    {r : PrivacyDetectorRule} (h : WellRevised rules)
    (h_insert : insertRule rules r = some rules') :
    enabledCount rules' ≤ enabledCount rules + 1 ∧
      (r.enabled = false ∨ (latestRevision rules r.ruleId).any PrivacyDetectorRule.enabled →
        enabledCount rules' ≤ enabledCount rules) := by
  rw [insertRule] at h_insert
  split at h_insert
  -- the trigger refuses a revision that is not the next
  case isFalse => cases h_insert
  case isTrue h_accepted =>
    obtain rfl := Option.some.inj h_insert
    rw [Bool.and_eq_true] at h_accepted
    have h_revision := (h.of_enforce h_accepted.2).1
    -- the latest revisions now: the others, and the new one
    have h_latest : latestRules (rules ++ [r])
        = ((latestRules rules).filter fun r' => decide (r'.ruleId ≠ r.ruleId)) ++ [r] := by
      rw [latestRules, List.filter_append, latestRules, List.filter_filter]
      congr 1
      · -- the latest revision of another rule is what it was
        refine List.filter_congr fun r' h_r' => ?_
        rw [latestRevision_append h h_revision]
        by_cases h_id : r.ruleId = r'.ruleId
        · have h_le := h.revision_le h_r'
          have h_ne : r ≠ r' := by
            rintro rfl
            omega
          rw [if_pos h_id]
          simp [h_id, h_ne]
        · rw [if_neg h_id]
          simp [Ne.symm h_id]
      · rw [List.filter_singleton, latestRevision_append h h_revision, if_pos rfl,
          decide_eq_true rfl]
        rfl
    -- the count of the enabled rules, the new one apart
    have h_count : enabledCount (rules ++ [r])
        = enabledElsewhere rules r.ruleId + if r.enabled then 1 else 0 := by
      rw [enabledCount, h_latest, List.countP_append, enabledElsewhere, List.countP_singleton]
    have h_split := enabledCount_split rules r.ruleId
    constructor
    · rw [h_count, h_split]
      split <;> omega
    · rintro (h_disabled | h_was)
      · -- a disabled rule adds nothing
        rw [h_count, h_disabled, if_neg Bool.false_ne_true]
        omega
      · -- the revision replaced is one of those counted
        obtain ⟨latest, h_some, h_enabled⟩ := (Option.any_eq_true _ _).mp h_was
        obtain ⟨h_mem, h_id, -⟩ := h.latest_revision h_some
        have h_counted : 0 < ((latestRules rules).filter fun r' =>
            !decide (r'.ruleId ≠ r.ruleId)).countP PrivacyDetectorRule.enabled := by
          refine List.countP_pos_iff.mpr ⟨latest, List.mem_filter.mpr ⟨?_, ?_⟩, h_enabled⟩
          · refine List.mem_filter.mpr ⟨h_mem, ?_⟩
            rw [h_id, h_some, decide_eq_true rfl]
          · rw [h_id]
            simp
        rw [h_count, h_split]
        split <;> omega

theorem enabledCount_builtinRules : enabledCount builtinRules = 9 := by decide

end DqScoring
