import DqScoring.Workspace.Discipline

/-!
# The privacy rule service

`services/privacy_rule_service.py`: the lazy seeding of the builtin rules, the two
requests that add a revision under the lock of the configuration row, and the pin that
scans and imports read. `Initialises` says what the seeding leaves for the rest of a
transaction, and `ConfigLocked` what the lock of the configuration row leaves.
-/

namespace DqScoring

open Framework

/-- An error that the route does not catch. -/
def internalServerError : HttpError := ⟨500, "Internal Server Error"⟩

/-! ### Requests -/

/-- `_RuleBody`. -/
structure RuleBody where
  category : SensitiveCategory
  enabled : Bool
  matchMode : MatchMode
  caseSensitive : Bool
  columns : List String

/-- The kinds of custom rules. -/
inductive CustomRuleKind where
  | columnName | valuePattern
  deriving DecidableEq, Repr

/-- The kind as one of all kinds. -/
def CustomRuleKind.toDetectorKind : CustomRuleKind → DetectorKind
  | columnName => .columnName
  | valuePattern => .valuePattern

/-- `PrivacyRuleCreate`. -/
structure PrivacyRuleCreate extends RuleBody where
  code : String
  kind : CustomRuleKind
  pattern : String

/-- `PrivacyRuleUpdate`. -/
structure PrivacyRuleUpdate extends RuleBody where
  expectedRevision : ℕ
  pattern : Option String

/-- The revision that a request adds, and the configuration version that it makes. -/
structure RuleChange where
  rule : PrivacyDetectorRule
  configVersion : ℕ
  deriving DecidableEq

/-- The first revision of a custom rule. -/
def PrivacyRuleCreate.rule (payload : PrivacyRuleCreate) (ruleId : Uuid) : PrivacyDetectorRule where
  ruleId := .drawn ruleId
  revision := 1
  code := payload.code
  kind := payload.kind.toDetectorKind
  category := payload.category
  enabled := payload.enabled
  pattern := some payload.pattern
  matchMode := payload.matchMode
  caseSensitive := payload.caseSensitive
  columns := payload.columns

/-- The next revision of a rule. -/
def PrivacyRuleUpdate.rule (payload : PrivacyRuleUpdate) (previous : PrivacyDetectorRule) :
    PrivacyDetectorRule where
  ruleId := previous.ruleId
  -- the code and the kind of a rule never change
  revision := previous.revision + 1
  code := previous.code
  kind := previous.kind
  category := payload.category
  enabled := payload.enabled
  builtinCode := previous.builtinCode
  pattern := payload.pattern
  matchMode := payload.matchMode
  caseSensitive := payload.caseSensitive
  columns := payload.columns

/-! ### Transactions -/

namespace Workspace

/-- The INSERTs of the seeding. A rule that is there already is refused by the trigger. -/
def seed (db : Workspace) : Option Workspace := do
  let rules ← builtinRules.foldlM insertRule db.rules
  return { db with configVersion := some (db.configVersion.getD 1), rules := rules }

/-- The workspace once it is initialised. -/
def initialized (db : Workspace) : Workspace :=
  if db.configVersion.isSome then db
  else { db with configVersion := some 1, rules := builtinRules }

/-- The configuration version, which is 1 once the workspace is initialised. -/
def currentConfigVersion (db : Workspace) : ℕ := db.configVersion.getD 1

/-- The rules, which are the builtin ones once the workspace is initialised. -/
def currentRules (db : Workspace) : List PrivacyDetectorRule := db.initialized.rules

/-- INSERT a revision. -/
def insertRevision (rule : PrivacyDetectorRule) (db : Workspace) : Option Workspace := do
  let rules ← insertRule db.rules rule
  return { db with rules := rules }

/-- UPDATE the configuration version. -/
def setConfigVersion (version : ℕ) (db : Workspace) : Workspace :=
  { db with configVersion := db.configVersion.map fun _ => version }

end Workspace

/-- `ensure_initialized`. -/
def ensureInitialized : WorkspaceTxn Unit := do
  let isInitialized ← .select fun db => db.configVersion.isSome
  if isInitialized then return ()
  else do
    .forUpdate .seeding
    let isInitialized ← .select fun db => db.configVersion.isSome
    if isInitialized then return ()
    else .exec Workspace.seed

/-- `_lock_config`. -/
def lockConfig : WorkspaceTxn ℕ := do
  ensureInitialized
  .forUpdate .config
  match ← .select Workspace.configVersion with
  | none => .raise internalServerError
  | some version => return version

/-- One more rule may be enabled. -/
def checkRuleLimit (enabling : Bool) : WorkspaceTxn Unit := do
  if enabling then
    let count ← .select fun db => enabledCount db.rules
    if maxEnabledRules ≤ count then .raise ⟨422, "PRIVACY_RULE_LIMIT_EXCEEDED"⟩
    else return ()
  else return ()

/-- INSERT a revision and `_bump`. -/
def addRevision (rule : PrivacyDetectorRule) (version : ℕ) : WorkspaceTxn RuleChange := do
  .exec (Workspace.insertRevision rule)
  .exec fun db => some (db.setConfigVersion (version + 1))
  return ⟨rule, version + 1⟩

/-- `create_rule`; the identifier is that of `uuid4()`. -/
def createRule (ruleId : Uuid) (payload : PrivacyRuleCreate) : WorkspaceTxn RuleChange := do
  let version ← lockConfig
  let isTaken ← .select fun db => db.rules.any fun r => decide (r.code = payload.code)
  if isTaken then .raise ⟨409, "PRIVACY_RULE_CODE_CONFLICT"⟩
  else do
    checkRuleLimit payload.enabled
    addRevision (payload.rule ruleId) version

/-- `update_rule`. -/
def updateRule (ruleId : RuleId) (payload : PrivacyRuleUpdate) : WorkspaceTxn RuleChange := do
  -- the configuration is locked before the rule is read
  let version ← lockConfig
  match ← .select fun db => latestRevision db.rules ruleId with
  | none => .raise ⟨404, "RESOURCE_NOT_FOUND"⟩
  | some previous =>
    if previous.revision ≠ payload.expectedRevision then
      .raise ⟨409, "PRIVACY_RULE_REVISION_CONFLICT"⟩
    -- a built-in rule has no pattern, a custom one needs it
    else if decide (previous.kind = .builtin) != payload.pattern.isNone then
      .raise ⟨422, "INVALID_PRIVACY_RULE"⟩
    else do
      -- the limit counts only what this revision enables
      checkRuleLimit (payload.enabled && !previous.enabled)
      addRevision (payload.rule previous) version

/-- The one statement of `load_pinned_rules`, which reads the version and the rules. -/
def readPinnedRules : WorkspaceTxn PinnedPrivacyRules := do
  match ← .select fun db => (db.configVersion, pinnedRules db.rules) with
  | (none, _) => .raise internalServerError
  | (some version, rules) => return ⟨rules, version⟩

/-- `load_pinned_rules`. -/
def loadPinnedRules : WorkspaceTxn PinnedPrivacyRules := do
  ensureInitialized
  readPinnedRules

/-! ### The initialised workspace -/

namespace Workspace

variable {db : Workspace}

theorem initialized_of_isSome (h : db.configVersion.isSome) : db.initialized = db := if_pos h

theorem initialized_of_none (h : db.configVersion = none) :
    db.initialized = { db with configVersion := some 1, rules := builtinRules } := by
  rw [initialized, if_neg]
  rw [h]
  exact Bool.false_ne_true

/-- An initialised workspace has its configuration version. -/
theorem initialized_configVersion (db : Workspace) :
    db.initialized.configVersion = some db.currentConfigVersion := by
  cases h : db.configVersion with
  | none => rw [initialized_of_none h, currentConfigVersion, h, Option.getD_none]
  | some v => rw [initialized_of_isSome (by rw [h]; rfl), currentConfigVersion, h, Option.getD_some]

/-- Initialising twice is initialising once. -/
@[simp] theorem initialized_initialized (db : Workspace) :
    db.initialized.initialized = db.initialized :=
  initialized_of_isSome (by rw [initialized_configVersion]; rfl)

/-- The seeding initialises an empty configuration. -/
theorem seed_eq (h_none : db.configVersion = none) (h_rules : db.rules = []) :
    db.seed = some db.initialized := by
  have h_insert : builtinRules.foldlM insertRule [] = some builtinRules := by decide
  rw [seed, h_rules, h_insert, initialized_of_none h_none, h_none]
  rfl

/-- An uninitialised workspace has no rules. -/
theorem WellFormed.rules_eq_nil (h : db.WellFormed) (h_none : db.configVersion = none) :
    db.rules = [] := by
  have h_length := h.rules_length
  rw [h_none] at h_length
  exact List.length_eq_zero_iff.mp h_length

/-- Versions of the configuration start at one. -/
theorem WellFormed.currentConfigVersion_pos (h : db.WellFormed) : 1 ≤ db.currentConfigVersion := by
  cases h_config : db.configVersion with
  | none => rw [currentConfigVersion, h_config, Option.getD_none]
  | some v =>
    rw [currentConfigVersion, h_config, Option.getD_some]
    exact h.configVersion_pos v h_config

/-- Each version after the first added one row to the nine built-in ones. -/
theorem WellFormed.currentRules_length (h : db.WellFormed) :
    db.currentRules.length = db.currentConfigVersion + 8 := by
  cases h_config : db.configVersion with
  | none => rw [currentRules, initialized_of_none h_config, currentConfigVersion, h_config]; rfl
  | some v =>
    have h_length := h.rules_length
    rw [h_config] at h_length
    rw [currentRules, initialized_of_isSome (by rw [h_config]; rfl), currentConfigVersion, h_config]
    exact h_length

/-- The rules of a configuration that is not there are none, so the seeding adds rules only. -/
theorem WellFormed.rules_prefix (h : db.WellFormed) : db.rules <+: db.currentRules := by
  cases h_config : db.configVersion with
  | none => rw [h.rules_eq_nil h_config]; exact List.nil_prefix
  | some v => rw [currentRules, initialized_of_isSome (by rw [h_config]; rfl)]

end Workspace

/-! ### What the transactions commit -/

section Rules

variable {held : List RowLock} {db : Workspace} {w₀ w : Workspace → Option Workspace}

/-- A change of the rules under the locks that `lockConfig` leaves. -/
theorem guarantee_rules {version : ℕ} {rules : List PrivacyDetectorRule} (h_inv : db.WellFormed)
    (h_length : rules.length = version + 8) (h_version : db.currentConfigVersion ≤ version)
    (h_rules : db.currentRules <+: rules)
    (h_seeding : db.configVersion = none → .seeding ∈ held)
    (h_config : db.configVersion.isSome → .config ∈ held) :
    workspaceDiscipline.guarantee held db
      { db with configVersion := some version, rules := rules } := by
  refine guarantee_config h_inv (h_inv.currentConfigVersion_pos.trans h_version) h_length ?_
    (h_inv.rules_prefix.trans h_rules) ?_ h_seeding
  · intro v h_v
    rwa [Workspace.currentConfigVersion, h_v] at h_version
  · intro v h_v
    exact h_config (by rw [h_v]; rfl)

/-- Seeding the built-in rules touches no row that others hold. -/
theorem guarantee_initialized (h_inv : db.WellFormed)
    (h_seeding : db.configVersion = none → .seeding ∈ held) :
    workspaceDiscipline.guarantee held db db.initialized := by
  cases h_config : db.configVersion with
  | some v =>
    rw [Workspace.initialized_of_isSome (by rw [h_config]; rfl)]
    exact .refl held h_inv
  | none =>
    rw [Workspace.initialized_of_none h_config]
    refine guarantee_config h_inv le_rfl rfl ?_ ?_ ?_ h_seeding
    · intro v h_v
      rw [h_config] at h_v
      cases h_v
    · rw [h_inv.rules_eq_nil h_config]
      exact List.nil_prefix
    · intro v h_v
      rw [h_config] at h_v
      cases h_v

/-- What `ensureInitialized` leaves for the rest of a transaction that has written `w₀` before:
whatever the others do, its writes initialise the workspace. -/
def Initialises (held : List RowLock) (w₀ w : Workspace → Option Workspace) (db : Workspace) :
    Prop :=
  ∀ db₁, workspaceDiscipline.rely held db db₁ → db₁.WellFormed →
    w db₁ = (w₀ db₁).map Workspace.initialized ∧ (db₁.configVersion = none → .seeding ∈ held)

/-- What was seeded stays so under more locks and the others' moves. -/
theorem Initialises.mono {held' : List RowLock} {db' : Workspace} (h : Initialises held w₀ w db)
    (h_sub : ∀ l ∈ held, l ∈ held') (h_rely : workspaceDiscipline.rely held db db') :
    Initialises held' w₀ w db' := by
  intro db₁ h₁ h_inv
  obtain ⟨h_eq, h_seeding⟩ := h db₁ (h_rely.trans (h₁.mono h_sub)) h_inv
  exact ⟨h_eq, fun h_none => h_sub _ (h_seeding h_none)⟩

/-- The writes before leave the rules alone. -/
def LeavesRules (w₀ : Workspace → Option Workspace) : Prop :=
  ∀ db v, w₀ db = some v → v.configVersion = db.configVersion ∧ v.rules = db.rules

theorem leavesRules_some : LeavesRules some := by
  rintro db _ ⟨⟩
  exact ⟨rfl, rfl⟩

/-- A workspace that is initialised stays so. -/
private theorem rely_isSome {db' : Workspace} (h : workspaceDiscipline.rely held db db')
    (h_some : db.configVersion.isSome) : db'.configVersion.isSome := by
  obtain ⟨v, h_v⟩ := Option.isSome_iff_exists.mp h_some
  obtain ⟨v', h_v', -⟩ := h.grow.config v h_v
  rw [h_v']
  rfl

/-- `ensure_initialized` leaves the workspace initialised, by itself or by whoever came
first. -/
theorem wp_ensureInitialized {K : Unit → List RowLock → (Workspace → Option Workspace) →
      Workspace → Prop} (h_leaves : LeavesRules w₀)
    (h : ∀ db' held' w, workspaceDiscipline.rely held db db' → (∀ l ∈ held, l ∈ held') →
      Initialises held' w₀ w db' → K () held' w db') :
    workspaceDiscipline.wp ensureInitialized K held w₀ db := by
  -- once it is initialised, the writes before need nothing more
  have h_already : ∀ {held' : List RowLock} {db' : Workspace}, db'.configVersion.isSome →
      Initialises held' w₀ w₀ db' := by
    intro held' db' h_some db₁ h₁ _
    have h_some₁ := rely_isSome h₁ h_some
    refine ⟨?_, fun h_none => by rw [h_none] at h_some₁; cases h_some₁⟩
    cases h_w : w₀ db₁ with
    | none => rfl
    | some v =>
      rw [Option.map_some, Workspace.initialized_of_isSome]
      rw [(h_leaves db₁ v h_w).1]
      exact h_some₁
  rw [ensureInitialized, Discipline.wp_bind, Discipline.wp_select]
  intro db₁ h₁ view h_view
  show workspaceDiscipline.wp (ite _ _ _) _ _ _ _
  split
  · -- initialised already: nothing is written
    rename_i h_some
    rw [(h_leaves db₁ view h_view).1] at h_some
    exact h db₁ held w₀ h₁ (fun _ => id) (h_already h_some)
  rw [Discipline.wp_bind, Discipline.wp_forUpdate]
  intro db₂ h₂
  rw [Discipline.wp_bind, Discipline.wp_select]
  -- the check is made again under the lock
  intro db₃ h₃ view₃ h_view₃
  have h_rely : workspaceDiscipline.rely held db db₃ :=
    (h₁.trans h₂).trans (h₃.mono fun l hl => List.mem_cons_of_mem _ hl)
  have h_sub : ∀ l ∈ held, l ∈ RowLock.seeding :: held := fun l hl => List.mem_cons_of_mem _ hl
  show workspaceDiscipline.wp (ite _ _ _) _ _ _ _
  split
  · -- another transaction was first
    rename_i h_some
    rw [(h_leaves db₃ view₃ h_view₃).1] at h_some
    exact h db₃ _ w₀ h_rely h_sub (h_already h_some)
  · -- no other transaction can seed while the advisory lock is held
    rename_i h_none
    rw [(h_leaves db₃ view₃ h_view₃).1, Bool.not_eq_true, Option.isSome_eq_false_iff,
      Option.isNone_iff_eq_none] at h_none
    refine h db₃ _ _ h_rely h_sub fun db₄ h₄ h_inv => ⟨?_, fun _ => List.mem_cons_self⟩
    have h_none₄ := (rely_seeding h₄ List.mem_cons_self h_none).1
    -- the writes before leave the rules alone, so none is there
    cases h_w : w₀ db₄ with
    | none => rfl
    | some v =>
      obtain ⟨h_config, h_rules⟩ := h_leaves db₄ v h_w
      rw [Option.bind_some, Option.map_some, Workspace.seed_eq (h_config.trans h_none₄)]
      rw [h_rules]
      exact h_inv.rules_eq_nil h_none₄

/-- The second initialisation of a transaction does nothing. -/
theorem wp_ensureInitialized_again {K : Unit → List RowLock → (Workspace → Option Workspace) →
      Workspace → Prop} (h_inv : db.WellFormed) (h_init : Initialises held w₀ w db)
    (h : ∀ db', workspaceDiscipline.rely held db db' → K () held w db') :
    workspaceDiscipline.wp ensureInitialized K held w db := by
  rw [ensureInitialized, Discipline.wp_bind, Discipline.wp_select]
  intro db₁ h₁ view h_view
  rw [(h_init db₁ h₁ (h₁.inv h_inv)).1] at h_view
  obtain ⟨v, -, rfl⟩ := Option.map_eq_some_iff.mp h_view
  have h_some : v.initialized.configVersion.isSome := by
    rw [Workspace.initialized_configVersion]
    rfl
  rw [if_pos h_some]
  exact h db₁ h₁

/-- What the pin of a transaction is: the rules and the version at the one statement. -/
theorem wp_readPinnedRules {K : PinnedPrivacyRules → List RowLock →
      (Workspace → Option Workspace) → Workspace → Prop} (h_inv : db.WellFormed)
    (h_init : Initialises held w₀ w db) (h_leaves : LeavesRules w₀)
    (h : ∀ db', workspaceDiscipline.rely held db db' →
      K ⟨pinnedRules db'.currentRules, db'.currentConfigVersion⟩ held w db') :
    workspaceDiscipline.wp readPinnedRules K held w db := by
  rw [readPinnedRules, Discipline.wp_bind, Discipline.wp_select]
  intro db₁ h₁ view h_view
  rw [(h_init db₁ h₁ (h₁.inv h_inv)).1] at h_view
  obtain ⟨v, h_v, rfl⟩ := Option.map_eq_some_iff.mp h_view
  obtain ⟨h_config, h_rules⟩ := h_leaves db₁ v h_v
  have h_current : v.currentConfigVersion = db₁.currentConfigVersion := by
    rw [Workspace.currentConfigVersion, h_config, Workspace.currentConfigVersion]
  have h_currentRules : v.initialized.rules = db₁.currentRules := by
    rw [Workspace.currentRules, Workspace.initialized, Workspace.initialized, h_config]
    split
    · exact h_rules
    · rfl
  simp only [Workspace.initialized_configVersion, h_current, h_currentRules]
  exact h db₁ h₁

/-- What `lockConfig` leaves: the version is locked, and the workspace is initialised by the commit.
Until then the version and the rules are what they are. -/
structure ConfigLocked (held : List RowLock) (w : Workspace → Option Workspace) (version : ℕ)
    (rules : List PrivacyDetectorRule) (db : Workspace) : Prop where
  stays : ∀ db₁, workspaceDiscipline.rely held db db₁ → db₁.WellFormed →
    w db₁ = some db₁.initialized ∧ db₁.currentConfigVersion = version ∧ db₁.currentRules = rules
  seeding : ∀ db₁, workspaceDiscipline.rely held db db₁ → db₁.WellFormed →
    db₁.configVersion = none → .seeding ∈ held
  config : .config ∈ held

/-- A locked configuration stays as it was read. -/
theorem ConfigLocked.mono {version : ℕ} {rules : List PrivacyDetectorRule} {db' : Workspace}
    (h : ConfigLocked held w version rules db) (h_rely : workspaceDiscipline.rely held db db') :
    ConfigLocked held w version rules db' where
  stays db₁ h₁ := h.stays db₁ (h_rely.trans h₁)
  seeding db₁ h₁ := h.seeding db₁ (h_rely.trans h₁)
  config := h.config

/-- The lock on the configuration row fixes its version and its rules until the commit. -/
theorem wp_lockConfig {K : ℕ → List RowLock → (Workspace → Option Workspace) → Workspace → Prop}
    (h_inv : db.WellFormed)
    (h : ∀ db' held' w version rules, workspaceDiscipline.rely held db db' →
      ConfigLocked held' w version rules db' → K version held' w db') :
    workspaceDiscipline.wp lockConfig K held some db := by
  rw [lockConfig, Discipline.wp_bind]
  refine wp_ensureInitialized leavesRules_some fun db₁ held₁ w h₁ h_sub h_init => ?_
  rw [Discipline.wp_bind, Discipline.wp_forUpdate]
  intro db₂ h₂
  rw [Discipline.wp_bind, Discipline.wp_select]
  intro db₃ h₃ view h_view
  have h_rely₃ : workspaceDiscipline.rely held₁ db₁ db₃ :=
    h₂.trans (h₃.mono fun l hl => List.mem_cons_of_mem _ hl)
  have h_inv₃ : db₃.WellFormed := h_rely₃.inv (h₁.inv h_inv)
  have h_init₃ : Initialises (.config :: held₁) some w db₃ :=
    h_init.mono (fun l hl => List.mem_cons_of_mem _ hl) h_rely₃
  rw [(h_init db₃ h_rely₃ h_inv₃).1, Option.map_some] at h_view
  obtain rfl := Option.some.inj h_view
  rw [Workspace.initialized_configVersion]
  refine h db₃ _ w _ db₃.currentRules (h₁.trans (h_rely₃.mono h_sub)) ⟨?_, ?_, List.mem_cons_self⟩
  · intro db₄ h₄ h_inv₄
    refine ⟨(h_init₃ db₄ h₄ h_inv₄).1, ?_⟩
    -- the configuration row is locked, or the absence of it is
    cases h_config : db₃.configVersion with
    | some v =>
      obtain ⟨h_config₄, h_rules₄⟩ := rely_config h₄ List.mem_cons_self h_config
      rw [Workspace.currentConfigVersion, Workspace.currentConfigVersion, h_config₄, h_config,
        Workspace.currentRules, Workspace.currentRules,
        Workspace.initialized_of_isSome (by rw [h_config₄]; rfl),
        Workspace.initialized_of_isSome (by rw [h_config]; rfl)]
      exact ⟨rfl, h_rules₄⟩
    | none =>
      have h_seeding := (h_init₃ db₃ (Discipline.rely.refl _ _) h_inv₃).2 h_config
      obtain ⟨h_config₄, -⟩ := rely_seeding h₄ h_seeding h_config
      rw [Workspace.currentConfigVersion, Workspace.currentConfigVersion, h_config₄, h_config,
        Workspace.currentRules, Workspace.currentRules, Workspace.initialized_of_none h_config₄,
        Workspace.initialized_of_none h_config]
      exact ⟨rfl, rfl⟩
  · exact fun db₄ h₄ h_inv₄ => (h_init₃ db₄ h₄ h_inv₄).2

/-- What an accepted change of the rules does. -/
structure RevisionAdded (change : RuleChange) (db db' : Workspace) : Prop where
  inserted : ∃ rules, insertRule db.currentRules change.rule = some rules ∧
    db' = { db with configVersion := some change.configVersion, rules := rules }
  version : change.configVersion = db.currentConfigVersion + 1
  limit : change.rule.enabled →
    (latestRevision db.currentRules change.rule.ruleId).any PrivacyDetectorRule.enabled ∨
      enabledCount db.currentRules < maxEnabledRules

/-- An insert that passes the trigger appends one row. -/
theorem rules_of_insertRule {rules rules' : List PrivacyDetectorRule} {r : PrivacyDetectorRule}
    (h : insertRule rules r = some rules') :
    r.wellShaped ∧ enforcePrivacyRuleRevision rules r ∧ rules' = rules ++ [r] := by
  rw [insertRule] at h
  split at h
  · rename_i h_accepted
    rw [Bool.and_eq_true] at h_accepted
    exact ⟨h_accepted.1, h_accepted.2, (Option.some.inj h).symm⟩
  · cases h

/-- A view of the locked configuration. -/
private theorem configLocked_view {version : ℕ} {rules : List PrivacyDetectorRule}
    {db₁ view : Workspace} (h_locked : ConfigLocked held w version rules db) (h_inv : db.WellFormed)
    (h₁ : workspaceDiscipline.rely held db db₁) (h_view : w db₁ = some view) :
    view.rules = rules := by
  obtain ⟨h_w, -, h_rules⟩ := h_locked.stays db₁ h₁ (h₁.inv h_inv)
  rw [h_w] at h_view
  rw [← Option.some.inj h_view]
  exact h_rules

/-- Once the limit is checked, the rule may be enabled. -/
theorem wp_checkRuleLimit {K : Unit → List RowLock → (Workspace → Option Workspace) →
      Workspace → Prop} {enabling : Bool} {version : ℕ} {rules : List PrivacyDetectorRule}
    (h_inv : db.WellFormed) (h_locked : ConfigLocked held w version rules db)
    (h : ∀ db', workspaceDiscipline.rely held db db' →
      (enabling → enabledCount rules < maxEnabledRules) → K () held w db') :
    workspaceDiscipline.wp (checkRuleLimit enabling) K held w db := by
  rw [checkRuleLimit]
  cases enabling with
  | false =>
    rw [if_neg Bool.false_ne_true]
    exact h db (.refl _ _) fun h_enabling => by cases h_enabling
  | true =>
    rw [if_pos rfl, Discipline.wp_bind, Discipline.wp_select]
    intro db₁ h₁ view h_view
    rw [configLocked_view h_locked h_inv h₁ h_view]
    show workspaceDiscipline.wp (ite _ _ _) _ _ _ _
    split
    · exact Discipline.wp_raise _
    · rename_i h_below
      exact h db₁ h₁ fun _ => Nat.lt_of_not_le h_below

/-- The commit of a revision. -/
theorem wp_addRevision (rule : PrivacyDetectorRule) {version : ℕ}
    {rules : List PrivacyDetectorRule} (h_inv : db.WellFormed)
    (h_locked : ConfigLocked held w version rules db)
    (h_limit : rule.enabled → (latestRevision rules rule.ruleId).any PrivacyDetectorRule.enabled ∨
      enabledCount rules < maxEnabledRules) :
    workspaceDiscipline.wp (addRevision rule version)
      (workspaceDiscipline.commits fun change db db' => change.rule = rule ∧
        db.currentRules = rules ∧ RevisionAdded change db db') held w db := by
  rw [addRevision, Discipline.wp_bind, Discipline.wp_exec, Discipline.wp_bind, Discipline.wp_exec]
  intro db₁ h₁ db' h_db'
  have h_inv₁ := h₁.inv h_inv
  obtain ⟨h_w, h_version, h_rules⟩ := h_locked.stays db₁ h₁ h_inv₁
  -- the writes: initialise, insert, bump
  simp only [h_w, Option.bind_some] at h_db'
  obtain ⟨v, h_insert, h_bump⟩ := Option.bind_eq_some_iff.mp h_db'
  obtain ⟨rules', h_rules', h_v⟩ := Option.bind_eq_some_iff.mp h_insert
  obtain rfl := Option.some.inj h_v
  change insertRule db₁.currentRules rule = some rules' at h_rules'
  have h_eq : db' = { db₁ with configVersion := some (version + 1), rules := rules' } := by
    rw [← Option.some.inj h_bump, Workspace.setConfigVersion, Workspace.initialized_configVersion,
      Workspace.initialized]
    split <;> rfl
  have h_append := (rules_of_insertRule h_rules').2.2
  refine ⟨?_, rfl, h_rules, ⟨rules', h_rules', h_eq⟩, ?_, ?_⟩
  · rw [h_eq]
    refine guarantee_rules h_inv₁ ?_ ?_ ?_ (h_locked.seeding db₁ h₁ h_inv₁) fun _ => h_locked.config
    · rw [h_append, List.length_append, h_inv₁.currentRules_length, h_version,
        List.length_singleton]
    · rw [h_version]
      exact Nat.le_succ version
    · rw [h_append]
      exact List.prefix_append _ _
  · rw [h_version]
  · rw [h_rules]
    exact h_limit

/-- `create_rule` commits the first revision of a rule whose code is free. -/
def createRulePost (ruleId : Uuid) (payload : PrivacyRuleCreate) (change : RuleChange)
    (db db' : Workspace) : Prop :=
  change.rule = payload.rule ruleId ∧ RevisionAdded change db db'

/-- Creating a rule appends its first revision and counts the version up. -/
theorem meets_createRule (ruleId : Uuid) (payload : PrivacyRuleCreate) :
    workspaceDiscipline.Meets (createRule ruleId payload) (createRulePost ruleId payload) := by
  intro db h_inv
  rw [createRule, Discipline.wp_bind]
  refine wp_lockConfig h_inv fun db₁ held w version rules h₁ h_locked => ?_
  rw [Discipline.wp_bind, Discipline.wp_select]
  intro db₂ h₂ view _
  show workspaceDiscipline.wp (ite _ _ _) _ _ _ _
  split
  · exact Discipline.wp_raise _
  rw [Discipline.wp_bind]
  have h_inv₂ := h₂.inv (h₁.inv h_inv)
  refine wp_checkRuleLimit h_inv₂ (h_locked.mono h₂) fun db₃ h₃ h_limit => ?_
  have h_add := wp_addRevision (payload.rule ruleId) (h₃.inv h_inv₂)
    (h_locked.mono (h₂.trans h₃)) fun h_enabled => .inr (h_limit h_enabled)
  refine Discipline.wp_mono (fun change held' w' db₄ h_commits db₅ h₅ db' h_db' => ?_) h_add
  obtain ⟨h_guarantee, h_rule, -, h_added⟩ := h_commits db₅ h₅ db' h_db'
  exact ⟨h_guarantee, h_rule, h_added⟩

/-- `update_rule` commits the next revision of a rule. -/
def updateRulePost (ruleId : RuleId) (payload : PrivacyRuleUpdate) (change : RuleChange)
    (db db' : Workspace) : Prop :=
  ∃ previous, latestRevision db.currentRules ruleId = some previous ∧
    previous.revision = payload.expectedRevision ∧ change.rule = payload.rule previous ∧
    RevisionAdded change db db'

/-- The latest revision is one of the rule. -/
theorem ruleId_of_latestRevision {rules : List PrivacyDetectorRule} {ruleId : RuleId}
    {r : PrivacyDetectorRule} (h : latestRevision rules ruleId = some r) :
    r ∈ rules ∧ r.ruleId = ruleId := by
  have h_mem := List.argmax_mem h
  rw [List.mem_filter, decide_eq_true_eq] at h_mem
  exact h_mem

/-- Updating a rule appends its next revision and counts the version up. -/
theorem meets_updateRule (ruleId : RuleId) (payload : PrivacyRuleUpdate) :
    workspaceDiscipline.Meets (updateRule ruleId payload) (updateRulePost ruleId payload) := by
  intro db h_inv
  rw [updateRule, Discipline.wp_bind]
  refine wp_lockConfig h_inv fun db₁ held w version rules h₁ h_locked => ?_
  rw [Discipline.wp_bind, Discipline.wp_select]
  intro db₂ h₂ view h_view
  have h_inv₂ := h₂.inv (h₁.inv h_inv)
  rw [configLocked_view h_locked (h₁.inv h_inv) h₂ h_view]
  cases h_previous : latestRevision rules ruleId with
  | none => exact Discipline.wp_raise _
  | some previous =>
    show workspaceDiscipline.wp (ite _ _ (ite _ _ _)) _ _ _ _
    split
    · exact Discipline.wp_raise _
    rename_i h_expected
    split
    · exact Discipline.wp_raise _
    rw [Discipline.wp_bind]
    refine wp_checkRuleLimit h_inv₂ (h_locked.mono h₂) fun db₃ h₃ h_limit => ?_
    have h_add := wp_addRevision (payload.rule previous) (h₃.inv h_inv₂)
      (h_locked.mono (h₂.trans h₃)) fun h_enabled => ?_
    · refine Discipline.wp_mono (fun change held' w' db₄ h_commits db₅ h₅ db' h_db' => ?_) h_add
      obtain ⟨h_guarantee, h_rule, h_rules, h_added⟩ := h_commits db₅ h₅ db' h_db'
      refine ⟨h_guarantee, previous, ?_, not_not.mp h_expected, h_rule, h_added⟩
      rw [h_rules]
      exact h_previous
    · -- a rule that was enabled is one of those counted already
      by_cases h_was : previous.enabled
      · left
        show (latestRevision rules previous.ruleId).any PrivacyDetectorRule.enabled = true
        rw [(ruleId_of_latestRevision h_previous).2, h_previous, Option.any_some]
        exact h_was
      · right
        refine h_limit ?_
        rw [Bool.and_eq_true, Bool.not_eq_true']
        exact ⟨h_enabled, Bool.eq_false_iff.mpr h_was⟩

/-- A pin has the rules that were in force at its version. -/
structure PinnedAt (pin : PinnedPrivacyRules) (db : Workspace) : Prop where
  positive : 1 ≤ pin.configVersion
  version : pin.configVersion ≤ db.currentConfigVersion
  rules : pin.rules = pinnedRules (rulesAt db.currentRules pin.configVersion)

/-- Rules are added at the end, so those at a version are the first ones at any later time. -/
theorem pinnedAt_of_rely {db' : Workspace} (h_inv : db.WellFormed)
    (h_init : Initialises held w₀ w db) (h : workspaceDiscipline.rely held db db') :
    PinnedAt ⟨pinnedRules db.currentRules, db.currentConfigVersion⟩ db' := by
  have h_begins : db.currentRules <+: db'.currentRules ∧
      db.currentConfigVersion ≤ db'.currentConfigVersion := by
    cases h_config : db.configVersion with
    | none =>
      obtain ⟨h_none, -⟩ :=
        rely_seeding h ((h_init db (.refl _ _) h_inv).2 h_config) h_config
      rw [Workspace.currentRules, Workspace.currentRules, Workspace.initialized_of_none h_config,
        Workspace.initialized_of_none h_none, Workspace.currentConfigVersion,
        Workspace.currentConfigVersion, h_config, h_none]
      exact ⟨List.prefix_rfl, le_rfl⟩
    | some v =>
      obtain ⟨v', h_v', h_le⟩ := h.grow.config v h_config
      rw [Workspace.currentRules, Workspace.currentRules,
        Workspace.initialized_of_isSome (by rw [h_config]; rfl),
        Workspace.initialized_of_isSome (by rw [h_v']; rfl), Workspace.currentConfigVersion,
        Workspace.currentConfigVersion, h_config, h_v']
      exact ⟨h.grow.rules, h_le⟩
  refine ⟨h_inv.currentConfigVersion_pos, h_begins.2, ?_⟩
  show pinnedRules db.currentRules = pinnedRules
    (db'.currentRules.take (db.currentConfigVersion + 8))
  rw [← h_inv.currentRules_length]
  exact congrArg pinnedRules (List.prefix_iff_eq_take.mp h_begins.1)

/-- `load_pinned_rules` commits the seeding at most. -/
def loadPinnedRulesPost (pin : PinnedPrivacyRules) (db db' : Workspace) : Prop :=
  PinnedAt pin db ∧ db' = db.initialized

/-- A scan pins the latest revisions of one version. -/
theorem meets_loadPinnedRules :
    workspaceDiscipline.Meets loadPinnedRules loadPinnedRulesPost := by
  intro db h_inv
  rw [loadPinnedRules, Discipline.wp_bind]
  refine wp_ensureInitialized leavesRules_some fun db₁ held w h₁ _ h_init => ?_
  have h_inv₁ := h₁.inv h_inv
  refine wp_readPinnedRules h_inv₁ h_init leavesRules_some fun db₂ h₂ => ?_
  intro db₃ h₃ db' h_db'
  have h_init₂ : Initialises held some w db₂ := h_init.mono (fun _ => id) h₂
  have h_inv₂ := h₂.inv h_inv₁
  obtain ⟨h_w, h_seeding⟩ := h_init₂ db₃ h₃ (h₃.inv h_inv₂)
  rw [h_w, Option.map_some] at h_db'
  obtain rfl := Option.some.inj h_db'
  exact ⟨guarantee_initialized (h₃.inv h_inv₂) h_seeding, pinnedAt_of_rely h_inv₂ h_init₂ h₃, rfl⟩

/-- Initialising twice is initialising once. -/
theorem meets_ensureInitialized :
    workspaceDiscipline.Meets ensureInitialized fun _ db db' => db' = db.initialized := by
  intro db h_inv
  refine wp_ensureInitialized leavesRules_some fun db₁ held w h₁ _ h_init => ?_
  intro db₂ h₂ db' h_db'
  have h_inv₂ := h₂.inv (h₁.inv h_inv)
  obtain ⟨h_w, h_seeding⟩ := h_init db₂ h₂ h_inv₂
  rw [h_w, Option.map_some] at h_db'
  obtain rfl := Option.some.inj h_db'
  exact ⟨guarantee_initialized h_inv₂ h_seeding, rfl⟩

end Rules

/-! ### The requests of the service -/

/-- The requests of the rule service; the identifier of a new rule is that of `uuid4()`. -/
inductive RuleRequest where
  | ensure
  | create (ruleId : Uuid) (payload : PrivacyRuleCreate)
  | update (ruleId : RuleId) (payload : PrivacyRuleUpdate)
  | loadPinned

/-- The result of a request. -/
inductive RuleResult where
  | initialized
  | changed (change : RuleChange)
  | pinned (pin : PinnedPrivacyRules)
  deriving DecidableEq

/-- The transaction of a request. -/
def RuleRequest.program : RuleRequest → WorkspaceTxn RuleResult
  | ensure => do
    ensureInitialized
    return .initialized
  | create ruleId payload => do
    let change ← createRule ruleId payload
    return .changed change
  | update ruleId payload => do
    let change ← updateRule ruleId payload
    return .changed change
  | loadPinned => do
    let pin ← loadPinnedRules
    return .pinned pin

/-- What the commit of a request does. -/
inductive RulePost : RuleRequest → RuleResult → Workspace → Workspace → Prop
  | initialized (db) : RulePost .ensure .initialized db db.initialized
  | created (ruleId payload change db db') : createRulePost ruleId payload change db db' →
      RulePost (.create ruleId payload) (.changed change) db db'
  | updated (ruleId payload change db db') : updateRulePost ruleId payload change db db' →
      RulePost (.update ruleId payload) (.changed change) db db'
  | pinned (pin db) : PinnedAt pin db → RulePost .loadPinned (.pinned pin) db db.initialized

/-- Each request of the rule service keeps its contract. -/
theorem meets_rule (request : RuleRequest) :
    workspaceDiscipline.Meets request.program (RulePost request) := by
  cases request with
  | ensure =>
    refine meets_ensureInitialized.andThen fun _ db db' h => ?_
    subst h
    exact .initialized db
  | create ruleId payload =>
    exact (meets_createRule ruleId payload).andThen fun change db db' h => .created _ _ _ _ _ h
  | update ruleId payload =>
    exact (meets_updateRule ruleId payload).andThen fun change db db' h => .updated _ _ _ _ _ h
  | loadPinned =>
    refine meets_loadPinnedRules.andThen fun pin db db' h => ?_
    obtain ⟨h_pin, rfl⟩ := h
    exact .pinned pin db h_pin

end DqScoring
