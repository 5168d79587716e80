import DqScoring.Privacy.RuleRevisions
import DqScoring.Workspace.System

/-!
# The configuration of the detector rules

What holds of the rules of a tenant in every interleaving. A request that changes them adds
one revision and one to the configuration version, and no other transaction changes either;
so the rules at a version are the same whenever they are read, and a pin that reports the
version has the latest enabled of them (`rule_configuration`).

A tenant is seeded when it is first used. Until then its version is 1 and its rules are the
builtin ones: `currentConfigVersion` and `currentRules`.
-/

namespace DqScoring

open Framework Relation

/-! ### Transactions that leave the rules alone -/

/-- The version and the rules stay; a tenant that is not seeded may be. -/
structure KeepsRules (db db' : Workspace) : Prop where
  version : db'.currentConfigVersion = db.currentConfigVersion
  rules : db'.currentRules = db.currentRules

section Keeps

variable {db db' : Workspace}

/-- A move that touches neither table keeps the configuration. -/
theorem KeepsRules.of_eq (h_config : db'.configVersion = db.configVersion)
    (h_rules : db'.rules = db.rules) : KeepsRules db db' where
  version := by rw [Workspace.currentConfigVersion, Workspace.currentConfigVersion, h_config]
  rules := by
    rw [Workspace.currentRules, Workspace.currentRules, Workspace.initialized,
      Workspace.initialized, h_config]
    split
    · exact h_rules
    · rfl

/-- Seeding keeps the configuration that was in force by default. -/
theorem keepsRules_initialized (db : Workspace) : KeepsRules db db.initialized where
  version := by
    rw [Workspace.currentConfigVersion, Workspace.initialized_configVersion, Option.getD_some]
  rules := by
    rw [Workspace.currentRules, Workspace.initialized_initialized]
    rfl

/-- A transaction that initialises the configuration and changes other tables. -/
theorem KeepsRules.of_initialized (h_config : db'.configVersion = db.initialized.configVersion)
    (h_rules : db'.rules = db.initialized.rules) : KeepsRules db db' := by
  have h_later : KeepsRules db.initialized db' := .of_eq h_config h_rules
  have h_init := keepsRules_initialized db
  exact ⟨h_later.version.trans h_init.version, h_later.rules.trans h_init.rules⟩

/-- No scan request changes the configuration. -/
theorem keepsRules_of_scanPost {request : ScanRequest} {result : ScanResult}
    (h : ScanPost request result db db') : KeepsRules db db' := by
  cases h with
  | submitted _ _ _ _ _ _ _ h_submitted =>
    cases h_submitted with
    | inProgress => exact .of_eq rfl rfl
    | queued => exact .of_initialized rfl rfl
  | claimed _ _ _ _ _ _ _ h_claimed => cases h_claimed <;> exact .of_eq rfl rfl
  | extended _ _ _ _ _ _ _ _ h_updated =>
    rw [h_updated.frame]
    exact .of_eq rfl rfl
  | loaded => exact .of_eq rfl rfl
  | published _ _ _ _ _ _ _ h_published => cases h_published <;> exact .of_eq rfl rfl
  | failed _ _ _ _ _ _ _ h_updated =>
    rw [h_updated.frame]
    exact .of_eq rfl rfl

/-- No import request changes the configuration. -/
theorem keepsRules_of_importPost {request : ImportRequest} {result : ImportResult}
    (h : ImportPost request result db db') : KeepsRules db db' := by
  cases h with
  | created _ _ _ _ _ _ _ _ _ h_created =>
    cases h_created with
    | answered => exact keepsRules_initialized db
    | created => exact .of_initialized rfl rfl
  | partUploaded _ _ _ _ _ _ _ h_uploaded => cases h_uploaded <;> exact .of_eq rfl rfl
  | completed _ _ _ _ _ _ _ _ h_changed =>
    rw [h_changed.frame]
    exact .of_eq rfl rfl
  | configured _ _ _ _ _ _ h_changed =>
    rw [h_changed.frame]
    exact .of_eq rfl rfl
  | aborted _ _ _ _ _ h_changed =>
    rw [h_changed.frame]
    exact .of_eq rfl rfl
  | claimed _ _ _ _ _ _ _ _ h_claimed => cases h_claimed <;> exact .of_eq rfl rfl
  | extended _ _ _ _ _ _ _ _ _ h_updated =>
    rw [h_updated.frame]
    exact .of_eq rfl rfl
  | processed _ _ _ _ _ _ _ _ h_processed =>
    rw [h_processed.fenced.frame]
    exact .of_initialized rfl rfl
  | registered _ _ _ _ _ _ _ h_registered =>
    rw [h_registered.frame]
    exact .of_eq rfl rfl
  | migrated _ _ _ _ _ _ h_migrated =>
    obtain ⟨rows, -, h_registered⟩ := h_migrated
    rw [h_registered.frame]
    exact .of_eq rfl rfl

/-- A request adds the revision that it returns, or leaves the rules alone. -/
theorem rules_of_post {request : WorkspaceRequest} {result : WorkspaceResult}
    (h : WorkspacePost request result db db') :
    (∃ change, result = .rule (.changed change) ∧ RevisionAdded change db db') ∨
      (∀ change, result ≠ .rule (.changed change)) ∧ KeepsRules db db' := by
  cases h with
  | rule _ _ _ _ h_rule =>
    cases h_rule with
    | initialized =>
      exact .inr ⟨fun change h_eq => (by cases h_eq), keepsRules_initialized db⟩
    | created _ _ change _ _ h_created => exact .inl ⟨change, rfl, h_created.2⟩
    | updated _ _ change _ _ h_updated =>
      obtain ⟨_, -, -, -, h_added⟩ := h_updated
      exact .inl ⟨change, rfl, h_added⟩
    | pinned => exact .inr ⟨fun change h_eq => (by cases h_eq), keepsRules_initialized db⟩
  | scan _ _ _ _ h_scan =>
    exact .inr ⟨fun change h_eq => (by cases h_eq), keepsRules_of_scanPost h_scan⟩
  | protection _ _ _ _ h_protection =>
    refine .inr ⟨fun change h_eq => (by cases h_eq), ?_⟩
    rw [h_protection.frame]
    exact .of_eq rfl rfl
  | importing _ _ _ _ h_import =>
    exact .inr ⟨fun change h_eq => (by cases h_eq), keepsRules_of_importPost h_import⟩

end Keeps

/-! ### What an added revision does -/

namespace RevisionAdded

variable {change : RuleChange} {db db' : Workspace}

/-- Each revision counts the version up by one. -/
theorem currentConfigVersion (h : RevisionAdded change db db') :
    db'.currentConfigVersion = db.currentConfigVersion + 1 := by
  obtain ⟨rules, -, rfl⟩ := h.inserted
  exact h.version

/-- A revision is appended to the rules. -/
theorem rules_eq (h : RevisionAdded change db db') :
    db'.rules = db.currentRules ++ [change.rule] := by
  obtain ⟨rules, h_insert, rfl⟩ := h.inserted
  exact (rules_of_insertRule h_insert).2.2

/-- A revision is appended to the rules in force. -/
theorem currentRules (h : RevisionAdded change db db') :
    db'.currentRules = db.currentRules ++ [change.rule] := by
  rw [← h.rules_eq]
  obtain ⟨rules, -, rfl⟩ := h.inserted
  exact congrArg Workspace.rules (Workspace.initialized_of_isSome rfl)

end RevisionAdded

/-! ### Invariants -/

/-- A tenant with the rules it starts with, whether it is seeded or not yet. -/
def Unrevised (db : Workspace) : Prop :=
  db.WellFormed ∧ db.currentConfigVersion = 1 ∧ db.currentRules = builtinRules

/-- What holds of the rules and of the pins that have been read. -/
structure RulesConfigured (db : Workspace) (log : List WorkspaceEvent) : Prop where
  wellFormed : db.WellFormed
  revised : WellRevised db.currentRules
  limit : enabledCount db.currentRules ≤ maxEnabledRules
  pins : ∀ i pin, .committed i (.rule .loadPinned) (.rule (.pinned pin)) ∈ log → PinnedAt pin db

namespace RulesConfigured

variable {db db' : Workspace} {log : List WorkspaceEvent}

/-- The seeded rules are a configuration without revisions. -/
theorem of_unrevised (h : Unrevised db) : RulesConfigured db [] := by
  obtain ⟨h_inv, -, h_rules⟩ := h
  refine ⟨h_inv, ?_, ?_, fun i pin h_mem => by cases h_mem⟩
  · rw [h_rules]
    exact wellRevised_builtinRules
  · rw [h_rules, enabledCount_builtinRules]
    decide

/-- A pin stays what it is while the rules are kept. -/
theorem pinnedAt_of_keepsRules {pin : PinnedPrivacyRules} (h : PinnedAt pin db)
    (h_keeps : KeepsRules db db') : PinnedAt pin db' where
  positive := h.positive
  version := h_keeps.version ▸ h.version
  rules := h_keeps.rules ▸ h.rules

/-- A new revision comes after those of the versions before. -/
theorem pinnedAt_of_added {pin : PinnedPrivacyRules} {change : RuleChange} (h_inv : db.WellFormed)
    (h : PinnedAt pin db) (h_added : RevisionAdded change db db') : PinnedAt pin db' where
  positive := h.positive
  version := by
    rw [h_added.currentConfigVersion]
    exact Nat.le_succ_of_le h.version
  rules := by
    have h_le : pin.configVersion + 8 ≤ db.currentRules.length := by
      rw [h_inv.currentRules_length]
      exact Nat.add_le_add_right h.version 8
    rw [h.rules, h_added.currentRules, rulesAt, rulesAt, List.take_append_of_le_length h_le]

/-- A revision that was accepted keeps the order of revisions and the limit of enabled
rules. -/
theorem of_added {change : RuleChange} (h : RulesConfigured db log)
    (h_added : RevisionAdded change db db') :
    WellRevised db'.currentRules ∧ enabledCount db'.currentRules ≤ maxEnabledRules := by
  obtain ⟨rules, h_insert, -⟩ := h_added.inserted
  have h_rules : db'.currentRules = rules := by
    rw [h_added.currentRules, (rules_of_insertRule h_insert).2.2]
  rw [h_rules]
  refine ⟨h.revised.insertRule h_insert, ?_⟩
  obtain ⟨h_more, h_same⟩ := enabledCount_of_insertRule h.revised h_insert
  cases h_enabled : change.rule.enabled with
  | false => exact (h_same (.inl h_enabled)).trans h.limit
  | true =>
    -- an enabled revision replaces an enabled one, or there was room for it
    rcases h_added.limit h_enabled with h_was | h_room
    · exact (h_same (.inr h_was)).trans h.limit
    · exact h_more.trans h_room

/-- Each step keeps the configuration accounted for by the log. -/
theorem effect (h : RulesConfigured db log) {log' : List WorkspaceEvent}
    (h_effect : WorkspaceEffect db log db' log') : RulesConfigured db' log' := by
  cases h_effect with
  | statement => exact h
  | begun i request _ _ _ =>
    refine ⟨h.wellFormed, h.revised, h.limit, fun j pin h_mem => ?_⟩
    rw [List.mem_cons] at h_mem
    exact h.pins j pin (h_mem.resolve_left fun h_eq => by cases h_eq)
  | rolledBack i request e _ _ =>
    refine ⟨h.wellFormed, h.revised, h.limit, fun j pin h_mem => ?_⟩
    rw [List.mem_cons] at h_mem
    exact h.pins j pin (h_mem.resolve_left fun h_eq => by cases h_eq)
  | committed i request result _ _ _ h_inv h_inv' h_grow h_post =>
    rcases rules_of_post h_post with ⟨change, rfl, h_added⟩ | ⟨-, h_keeps⟩
    · obtain ⟨h_revised, h_limit⟩ := h.of_added h_added
      refine ⟨h_inv', h_revised, h_limit, fun j pin h_mem => ?_⟩
      rw [List.mem_cons] at h_mem
      exact pinnedAt_of_added h.wellFormed
        (h.pins j pin (h_mem.resolve_left fun h_eq => by cases h_eq)) h_added
    · refine ⟨h_inv', h_keeps.rules ▸ h.revised, h_keeps.rules ▸ h.limit, fun j pin h_mem => ?_⟩
      rw [List.mem_cons] at h_mem
      rcases h_mem with h_eq | h_mem
      · -- the pin that is read now
        cases h_eq
        cases h_post with
        | rule _ _ _ _ h_rule =>
          cases h_rule with
          | pinned _ _ h_pinned => exact pinnedAt_of_keepsRules h_pinned h_keeps
      · exact pinnedAt_of_keepsRules (h.pins j pin h_mem) h_keeps

end RulesConfigured

/-- The invariant of all runs. -/
theorem rulesConfigured {s : WorkspaceState} (h : WorkspaceReachable Unrevised s) :
    RulesConfigured s.db s.log :=
  workspace_invariant (fun _ h_db => h_db.1) (fun _ => .of_unrevised)
    (fun h_old h_effect => h_old.effect h_effect) h

/-! ### Steps and runs -/

/-- What a step does to the rules. -/
structure RuleStep (s s' : WorkspaceState) : Prop where
  /-- An accepted change is the next version. -/
  accepted : ∀ i request change,
    s'.log = .committed i request (.rule (.changed change)) :: s.log →
      s'.db.configVersion = some (s.db.currentConfigVersion + 1) ∧
        change.configVersion = s.db.currentConfigVersion + 1 ∧
        s'.db.rules = s.db.currentRules ++ [change.rule]
  /-- A rejected request changes nothing. -/
  rejected : ∀ i request error, s'.log = .rolledBack i request error :: s.log → s'.db = s.db
  /-- Nothing else changes the rules. -/
  otherwise : (∀ i request change,
    s'.log ≠ .committed i request (.rule (.changed change)) :: s.log) → KeepsRules s.db s'.db

/-- What one step can do to the rules, said once. -/
theorem ruleStep {s s' : WorkspaceState} (h : WorkspaceReachable Unrevised s)
    (h_step : TxnSystem.Step workspaceSystem s s') : RuleStep s s' := by
  obtain ⟨db, opened, log⟩ := s
  obtain ⟨db', opened', log'⟩ := s'
  have h_effect : WorkspaceEffect db log db' log' :=
    workspace_effect (fun _ h_db => h_db.1) h h_step
  refine ⟨?_, fun i request error h_log => TxnSystem.db_of_rolledBack h_step h_log, ?_⟩
  · rintro i request change (rfl : log' = _)
    cases h_effect with
    | committed _ _ _ _ _ _ _ _ _ h_post =>
      rcases rules_of_post h_post with ⟨change', h_eq, h_added⟩ | ⟨h_ne, -⟩
      · cases h_eq
        obtain ⟨rules, -, rfl⟩ := h_added.inserted
        exact ⟨congrArg some h_added.version, h_added.version, h_added.rules_eq⟩
      · exact absurd rfl (h_ne change)
  · intro h_other
    cases h_effect with
    | committed i request result _ _ _ _ _ _ h_post =>
      rcases rules_of_post h_post with ⟨change, rfl, -⟩ | ⟨-, h_keeps⟩
      · exact absurd rfl (h_other i request change)
      · exact h_keeps
    | _ => exact .of_eq rfl rfl

/-- One step keeps the rules or adds one at the end. -/
theorem RuleStep.cases {s s' : WorkspaceState} (h : RuleStep s s') :
    KeepsRules s.db s'.db ∨ s'.db.currentConfigVersion = s.db.currentConfigVersion + 1 ∧
      ∃ r, s'.db.currentRules = s.db.currentRules ++ [r] := by
  by_cases h_change : ∃ i request change,
      s'.log = .committed i request (.rule (.changed change)) :: s.log
  · obtain ⟨i, request, change, h_log⟩ := h_change
    obtain ⟨h_config, -, h_rules⟩ := h.accepted i request change h_log
    refine .inr ⟨by rw [Workspace.currentConfigVersion, h_config, Option.getD_some],
      change.rule, ?_⟩
    rw [Workspace.currentRules, Workspace.initialized_of_isSome (by rw [h_config]; rfl), h_rules]
  · refine .inl (h.otherwise fun i request change h_log => h_change ⟨i, request, change, h_log⟩)

/-- The rules at a version of the run are the first of the rules at any later time. -/
theorem rulesAt_of_run {s s' : WorkspaceState} (h : WorkspaceReachable Unrevised s)
    (h_run : ReflTransGen (TxnSystem.Step workspaceSystem) s s') :
    rulesAt s'.db.currentRules s.db.currentConfigVersion = s.db.currentRules := by
  have h_length := (rulesConfigured h).wellFormed.currentRules_length
  have h_begins : s.db.currentRules <+: s'.db.currentRules := by
    induction h_run with
    | refl => exact List.prefix_rfl
    | tail h_before h_last ih =>
      rcases (ruleStep (h.run h_before) h_last).cases with h_keeps | ⟨-, r, h_rules⟩
      · rw [h_keeps.rules]
        exact ih
      · rw [h_rules]
        exact ih.trans (List.prefix_append _ _)
  rw [rulesAt, ← h_length]
  exact (List.prefix_iff_eq_take.mp h_begins).symm

/-- A run passes through every version up to the last. -/
theorem version_of_run {s₀ s : WorkspaceState} (h₀ : TxnSystem.Initial Unrevised s₀)
    (h_run : ReflTransGen (TxnSystem.Step workspaceSystem) s₀ s) {v : ℕ} (h_pos : 1 ≤ v)
    (h_le : v ≤ s.db.currentConfigVersion) :
    ∃ s₁, ReflTransGen (TxnSystem.Step workspaceSystem) s₀ s₁ ∧
      ReflTransGen (TxnSystem.Step workspaceSystem) s₁ s ∧ s₁.db.currentConfigVersion = v := by
  induction h_run with
  | refl =>
    refine ⟨s₀, .refl, .refl, le_antisymm ?_ h_le⟩
    rw [h₀.1.2.1]
    exact h_pos
  | @tail s s' h_before h_last ih =>
    have h_reach : WorkspaceReachable Unrevised s := ⟨s₀, h₀, h_before⟩
    -- the last step reaches the version, or it was reached before
    have h_earlier : v ≤ s.db.currentConfigVersion → ∃ s₁,
        ReflTransGen (TxnSystem.Step workspaceSystem) s₀ s₁ ∧
          ReflTransGen (TxnSystem.Step workspaceSystem) s₁ s' ∧
          s₁.db.currentConfigVersion = v := by
      intro h_le'
      obtain ⟨s₁, h_to, h_from, h_version⟩ := ih h_le'
      exact ⟨s₁, h_to, h_from.tail h_last, h_version⟩
    rcases (ruleStep h_reach h_last).cases with h_keeps | ⟨h_next, -⟩
    · exact h_earlier (h_keeps.version ▸ h_le)
    · rcases Nat.lt_or_ge s.db.currentConfigVersion v with h_lt | h_ge
      · exact ⟨s', h_before.tail h_last, .refl, by omega⟩
      · exact h_earlier h_ge

/-- **Rule configuration.** In every interleaving the rules are well revised and at most 100 are
enabled; a pin has the latest enabled rules of every state of the run that has its version, and
there is one; an accepted change adds one to the version, a rejected one changes nothing. -/
theorem rule_configuration {s₀ s : WorkspaceState} (h₀ : TxnSystem.Initial Unrevised s₀)
    (h_run : ReflTransGen (TxnSystem.Step workspaceSystem) s₀ s) :
    WellRevised s.db.rules ∧ enabledCount s.db.rules ≤ maxEnabledRules ∧
    (∀ i pin, .committed i (.rule .loadPinned) (.rule (.pinned pin)) ∈ s.log →
      (∃ s₁, ReflTransGen (TxnSystem.Step workspaceSystem) s₀ s₁ ∧
        ReflTransGen (TxnSystem.Step workspaceSystem) s₁ s ∧
        s₁.db.currentConfigVersion = pin.configVersion) ∧
      ∀ s₁, ReflTransGen (TxnSystem.Step workspaceSystem) s₀ s₁ →
        ReflTransGen (TxnSystem.Step workspaceSystem) s₁ s →
        s₁.db.currentConfigVersion = pin.configVersion →
        pin.rules = pinnedRules s₁.db.currentRules) ∧
    ∀ s', TxnSystem.Step workspaceSystem s s' → RuleStep s s' := by
  have h : WorkspaceReachable Unrevised s := ⟨s₀, h₀, h_run⟩
  have h_configured := rulesConfigured h
  refine ⟨?_, ?_, fun i pin h_mem => ⟨?_, fun s₁ h_to h_from h_version => ?_⟩,
    fun s' h_step => ruleStep h h_step⟩
  · cases h_config : s.db.configVersion with
    | none =>
      rw [h_configured.wellFormed.rules_eq_nil h_config]
      exact .nil
    | some v =>
      have h_revised := h_configured.revised
      rwa [Workspace.currentRules, Workspace.initialized_of_isSome (by rw [h_config]; rfl)]
        at h_revised
  · cases h_config : s.db.configVersion with
    | none =>
      rw [h_configured.wellFormed.rules_eq_nil h_config]
      exact Nat.zero_le _
    | some v =>
      have h_limit := h_configured.limit
      rwa [Workspace.currentRules, Workspace.initialized_of_isSome (by rw [h_config]; rfl)]
        at h_limit
  · have h_pin := h_configured.pins i pin h_mem
    exact version_of_run h₀ h_run h_pin.positive h_pin.version
  · rw [(h_configured.pins i pin h_mem).rules, ← h_version, rulesAt_of_run ⟨s₀, h₀, h_to⟩ h_from]

/-- A tenant that pins its rules, adds one, and pins them again. -/
theorem rule_configuration_pins : ∃ s : WorkspaceState,
    s.db.configVersion = some 2 ∧ enabledCount s.db.rules = 10 ∧ WellRevised s.db.rules ∧
      enabledCount s.db.rules ≤ maxEnabledRules := by
  let payload : PrivacyRuleCreate :=
    { category := .basicPersonalData, enabled := true, matchMode := .full, caseSensitive := true
      columns := [], code := "CUSTOMER_CODE", kind := .valuePattern, pattern := "C[0-9]+" }
  have h_rules : (workspaceSystem.serial [(0, .rule .loadPinned),
      (1, .rule (.create (Uuid.repeated 1) payload)), (2, .rule .loadPinned)] emptyWorkspace []).map
        (fun x => (x.1.configVersion, enabledCount x.1.rules)) = some (some 2, 10) := by
    decide
  obtain ⟨⟨db, log⟩, h_serial, h_eq⟩ := Option.map_eq_some_iff.mp h_rules
  obtain ⟨h_version, h_count⟩ := Prod.mk.inj h_eq
  have h_run := TxnSystem.run_serial (TxnSystem.serialAllowed_of_forall (by simp [workspaceSystem,
    WorkspaceRequest.allowed]) _ _) h_serial
  have h_configuration := rule_configuration
    ⟨⟨emptyWorkspace_wellFormed, rfl, rfl⟩, fun _ => rfl, rfl⟩ h_run
  exact ⟨_, h_version, h_count, h_configuration.1, h_configuration.2.1⟩

end DqScoring
