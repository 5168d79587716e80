import DqScoring.Framework.Table
import DqScoring.Framework.Traverse
import DqScoring.Governance.Approval
import DqScoring.Presentation.RulesetSchemas

/-!
# The two sources of a run specification

A run is specified twice in the source: `trigger_run` reads the snapshot, the rules and the
policy and hands the specification to the queue, and `_reconstruct_spec` reads them again
for a run that carries none. The rows below hold the columns that the two read, with the
constraints of the tables.

The two statements on `quality_rules` list the columns by hand, and the one of
`trigger_run` leaves out `conflict_group` and `is_primary_scoring_rule`.
`specs_agree_iff` says when the specifications agree for all that: when no rule of the
ruleset uses the two columns.
-/

namespace DqScoring

open Framework

/-! ### Rows -/

/-- The null policies as the database stores them. -/
inductive StoredNullPolicy where
  | fail | ignore | separate | notApplicable
  deriving DecidableEq, Repr

/-- `null_policy.lower()`. -/
def StoredNullPolicy.lower : StoredNullPolicy → String
  | fail => "fail"
  | ignore => "ignore"
  | separate => "separate"
  | notApplicable => "not_applicable"

/-- The column `severity`. -/
inductive Severity where
  | critical | standard
  deriving DecidableEq, Repr

/-- A row of `quality_rules`. -/
structure QualityRuleRow (α : Type) [Field α] [LinearOrder α] where
  ruleId : Uuid
  tenantId : Uuid
  rulesetId : Uuid
  ruleName : String
  dimension : StandardDimension
  ruleType : RuleKind
  /-- Any JSON value. -/
  parameters : PyValue
  nullPolicy : StoredNullPolicy
  weight : α
  severity : Severity
  isAdvisory : Bool
  isRequired : Bool
  gateEnabled : Bool
  scoreEnabled : Bool
  acceptanceThreshold : Option α
  conflictGroup : Option String
  isPrimaryScoringRule : Bool
  weight_nonneg : 0 ≤ weight
  advisory_weight : isAdvisory = true → weight = 0
  threshold_mem : ∀ t ∈ acceptanceThreshold, t ∈ Set.Icc (0 : α) 100
  required_not_advisory : ¬ (isRequired = true ∧ isAdvisory = true)
  advisory_unscored : ¬ (isAdvisory = true ∧ scoreEnabled = true)

/-- A row of `rulesets`. -/
structure RulesetRow where
  rulesetId : Uuid
  tenantId : Uuid
  assetId : Option Uuid
  status : RevisionStatus

/-- A row of `scoring_policies`. -/
structure ScoringPolicyRow (α : Type) [Field α] [LinearOrder α] where
  policyId : Uuid
  tenantId : Uuid
  status : RevisionStatus
  dimensionWeights : PyValue
  publicationThreshold : α
  gateRules : PyValue
  publicationThreshold_mem : publicationThreshold ∈ Set.Icc (0 : α) 1

/-- A row of `dataset_snapshots`. -/
structure SnapshotRow where
  snapshotId : Uuid
  tenantId : Uuid
  assetId : Uuid
  sourceKind : String
  sourceDescriptor : PyValue
  schemaDefinition : PyValue
  totalRows : ℕ
  totalColumns : ℕ
  capturedAt : Time

/-- The tables that a specification is read from. -/
structure ConfigurationDb (α : Type) [Field α] [LinearOrder α] where
  snapshots : Table SnapshotRow.snapshotId
  rulesets : Table RulesetRow.rulesetId
  rules : Table (QualityRuleRow.ruleId (α := α))
  policies : Table (ScoringPolicyRow.policyId (α := α))
  /-- The foreign key `(tenant_id, ruleset_id)` of the rules. -/
  rules_owned : ∀ r ∈ rules.rows, ∃ ruleset, rulesets.find? r.rulesetId = some ruleset ∧
    ruleset.tenantId = r.tenantId

/-- The order in which a statement without `ORDER BY` returns its rows. -/
structure RowOrder (β : Type) where
  apply : List β → List β
  perm : ∀ rows, (apply rows).Perm rows

/-! ### Specifications -/

/-- `DatasetSnapshot`, with its JSON columns. -/
structure SnapshotSpec where
  snapshotId : Uuid
  tenantId : Uuid
  assetId : Uuid
  sourceKind : String
  sourceDescriptor : PyDict
  schemaDefinition : PyDict
  totalRows : ℕ
  totalColumns : ℕ
  capturedAt : Time

/-- `RunSpec` with everything that a worker executes. -/
structure ExecutionSpec (α : Type) [Field α] [LinearOrder α] where
  runId : Uuid
  tenantId : Uuid
  snapshot : SnapshotSpec
  rules : List (QualityRule α)
  policy : ScoringPolicy α
  executionProfile : String
  outlierColumns : List String
  rulesetId : Uuid
  policyId : Uuid
  createdBy : Option Uuid

/-- How building a specification ends early. -/
inductive SpecError where
  | http (error : HttpError)
  | raised (error : PyError)
  | keyError (key : String)
  | assertion (message : String)
  deriving DecidableEq

variable {α : Type} [Field α] [LinearOrder α]

/-- An exception of a modelled function. -/
def orRaise {β : Type} : Except PyError β → Except SpecError β
  | .ok b => .ok b
  | .error e => .error (.raised e)

/-- Pydantic's reading of a value as `dict[str, Any]`. -/
def dictField (field : String) : PyValue → Except SpecError PyDict
  | .dict d => .ok d
  | _ => orRaise (fieldError field "Input should be a valid dictionary")

/-! ### The policy -/

/-- The conversions of a JSON value to a number. -/
structure FloatReading (α : Type) where
  /-- `float(x)`. -/
  float : PyValue → Except PyError α
  /-- Pydantic's reading of a value as `float`. -/
  validated : PyValue → Option α

/-- A key and a value of an argument of `dict`. -/
def pairOf : PyValue → Except PyError (PyValue × PyValue)
  -- what `dict` takes as one pair
  | .list [k, v] => .ok (k, v)
  | .list _ => .error (.valueError "dictionary update sequence element has wrong length")
  | .str s =>
    match s.toList with
    | [k, v] => .ok (.str (String.singleton k), .str (String.singleton v))
    | _ => .error (.valueError "dictionary update sequence element has wrong length")
  | .dict [(k, _), (v, _)] => .ok (.str k, .str v)
  -- a dictionary is iterated over its keys
  | .dict _ => .error (.valueError "dictionary update sequence element has wrong length")
  | _ => .error (.typeError "cannot convert dictionary update sequence element to a sequence")

/-- `dict(x)`. -/
def pyDictOf : PyValue → Except PyError (List (PyValue × PyValue))
  | .dict d => .ok (d.map fun e => (.str e.1, e.2))
  | .list items => items.mapM pairOf
  -- the characters of a text are too short to be pairs
  | .str _ => .error (.valueError "dictionary update sequence element has wrong length")
  | _ => .error (.typeError "object is not iterable")

/-- Pydantic's reading of a pair as an entry of `dict[str, float]`. -/
def weightEntry (reading : FloatReading α) (entry : PyValue × PyValue) :
    Except PyError (String × α) :=
  match entry.1, reading.validated entry.2 with
  | .str k, some w => .ok (k, w)
  | .str _, none => fieldError "dimension_weights" "Input should be a valid number"
  | _, _ => fieldError "dimension_weights" "Input should be a valid string"

/-- The lookup of some entries; a later entry of a key replaces an earlier one. -/
def weightLookup (entries : List (String × α)) : String → Option α :=
  entries.foldl (fun weights entry => Function.update weights entry.1 (some entry.2)) fun _ => none

/-- `rules.get(key, rules.get(legacy))`. -/
def gateRule (rules : PyDict) (key legacy : String) : PyValue := rules.getD key (rules.get legacy)

/-- `float(x)` unless the value is absent. -/
def optionalFloat (reading : FloatReading α) (v : PyValue) : Except PyError (Option α) :=
  if v.isNone then .ok none else some <$> reading.float v

/-- The bound 100 may be read as a number of the field. -/
theorem mem_Icc_hundred {x : α} (h : x ∈ Set.Icc (0 : α) ((100 : ℕ) : α)) :
    x ∈ Set.Icc (0 : α) 100 := by
  simpa using h

theorem forall_mem_Icc_hundred {x : Option α}
    (h : ∀ t ∈ x, t ∈ Set.Icc (0 : α) ((100 : ℕ) : α)) : ∀ t ∈ x, t ∈ Set.Icc (0 : α) 100 :=
  fun t h_t => mem_Icc_hundred (h t h_t)

/-- `ScoringPolicy(**fields)`. -/
def scoringPolicyOf [IsStrictOrderedRing α] (weights : String → Option α)
    (publicationThreshold warnMin passMin : α) (criticalAcceptanceThreshold : Option α) :
    Except PyError (ScoringPolicy α) :=
  if h_publication : publicationThreshold ∈ Set.Icc (0 : α) 1 then
    if h_warn : warnMin ∈ Set.Icc (0 : α) ((100 : ℕ) : α) then
      if h_pass : passMin ∈ Set.Icc (0 : α) ((100 : ℕ) : α) then
        if h_critical : ∀ t ∈ criticalAcceptanceThreshold, t ∈ Set.Icc (0 : α) ((100 : ℕ) : α) then
          if h_order : warnMin ≤ passMin then
            -- the bounds of the policy, as fields of the value
            .ok {
              publicationThreshold
              warnMin
              passMin
              minCriticalConfidence := ScoringPolicy.ofDefaults.minCriticalConfidence
              criticalAcceptanceThreshold
              dimensionWeights := weights
              publicationThreshold_mem := h_publication
              warnMin_mem := mem_Icc_hundred h_warn
              passMin_mem := mem_Icc_hundred h_pass
              minCriticalConfidence_mem := ScoringPolicy.ofDefaults.minCriticalConfidence_mem
              criticalAcceptanceThreshold_mem := forall_mem_Icc_hundred h_critical
              warnMin_le_passMin := h_order }
          else .error (.valueError
            "warn_min (gate fail threshold) must not exceed pass_min (gate warn threshold)")
        else fieldError "critical_acceptance_threshold" "Input should be from 0 to 100"
      else fieldError "pass_min" "Input should be from 0 to 100"
    else fieldError "warn_min" "Input should be from 0 to 100"
  else fieldError "publication_threshold" "Input should be from 0 to 1"

/-- `scoring_policy_from_row`. -/
def scoringPolicyFromRow [IsStrictOrderedRing α] (reading : FloatReading α)
    (dimensionWeights : PyValue) (publicationThreshold : α) (gateRules : PyValue) :
    Except PyError (ScoringPolicy α) := do
  let weights ← pyDictOf (dimensionWeights.orElse (.dict []))
  match gateRules.orElse (.dict []) with
  | .dict rules =>
    let fail ← optionalFloat reading (gateRule rules "gate_fail_threshold" "warn_min")
    let warn ← optionalFloat reading (gateRule rules "gate_warn_threshold" "pass_min")
    let critical ← optionalFloat reading (PyDict.get rules "critical_acceptance_threshold")
    let entries ← weights.mapM (weightEntry reading)
    -- missing keys fall back to the defaults of the model
    scoringPolicyOf (weightLookup entries) publicationThreshold (fail.getD ((60 : ℕ) : α))
      (warn.getD ((80 : ℕ) : α)) critical
  | _ => .error (.attributeError "object has no attribute 'get'")

/-! ### `trigger_run` -/

/-- The payload of a run. -/
structure TriggerRunRequest where
  snapshotId : Uuid
  rulesetId : Uuid
  policyId : Uuid
  executionProfile : String := "standard"
  outlierColumns : List String := []

/-- A resource that is not there. -/
def notFound {β : Type} (detail : String) : Except SpecError β := .error (.http ⟨404, detail⟩)

/-- Raise an `HTTPException` under a condition. -/
def raiseIf (condition : Prop) [Decidable condition] (statusCode : ℕ) (detail : String) :
    Except SpecError Unit :=
  if condition then .error (.http ⟨statusCode, detail⟩) else .ok ()

/-- `check_tenant_access`. -/
def checkTenantAccess (resource current : Uuid) : Except SpecError Unit :=
  raiseIf (resource ≠ current) 404 "Requested resource was not found."

/-- The rule that `trigger_run` builds from a row: the statement does not select the last
two columns, so the model takes their defaults. -/
def QualityRuleRow.triggered (row : QualityRuleRow α) (parameters : PyDict) : QualityRule α where
  ruleId := row.ruleId
  -- the name of the rule is its code
  ruleCode := row.ruleName
  dimension := row.dimension.value
  ruleType := row.ruleType.value
  parameters
  nullPolicy := row.nullPolicy.lower
  isRequired := row.isRequired
  isCritical := decide (row.severity = .critical)
  gateEnabled := row.gateEnabled
  scoreEnabled := row.scoreEnabled
  contributionWeight := row.weight
  acceptanceThreshold := row.acceptanceThreshold
  isAdvisory := row.isAdvisory

/-- The comprehension over the rows of `trigger_run`. -/
def triggeredRule (row : QualityRuleRow α) : Except SpecError (QualityRule α) :=
  row.triggered <$> dictField "parameters" row.parameters

/-- The values that iterating over a value gives. -/
def iterate : PyValue → Except SpecError (List PyValue)
  | .list items => .ok items
  | .str s => .ok (s.toList.map fun c => .str (String.singleton c))
  | .dict d => .ok (d.map fun e => .str e.1)
  | _ => .error (.raised (.typeError "object is not iterable"))

/-- `c["name"] if isinstance(c, dict) else c`, as a member of a set. -/
def columnEntry (c : PyValue) : Except SpecError PyValue := do
  let entry ← match c with
    | .dict d =>
      -- a column is a name, or a dictionary that has one
      match d.lookup "name" with
      | some name => .ok name
      | none => .error (.keyError "name")
    | c => .ok c
  match entry with
  -- it is put into a set, which lists cannot be
  | .list _ | .dict _ => .error (.raised (.typeError "unhashable type"))
  | entry => return entry

/-- The columns of the schema. -/
def schemaColumns (schema : PyDict) : Except SpecError (List String) := do
  let items ← iterate (schema.getD "columns" (.list []))
  let entries ← items.mapM columnEntry
  return entries.filterMap PyValue.text?

/-- The columns that the parameters of a rule name. -/
def referencedBy (parameters : PyDict) : List String :=
  (parameters.filter fun e =>
    ["column", "target_column", "left_column", "right_column"].contains e.1).filterMap
      fun e => e.2.text?

/-- The specification that `trigger_run` hands to the queue. -/
def triggerRun [IsStrictOrderedRing α] (reading : FloatReading α)
    (order : RowOrder (QualityRuleRow α)) (db : ConfigurationDb α) (req : TriggerRunRequest)
    (currentUser : AuthenticatedUser) (runId : Uuid) : Except SpecError (ExecutionSpec α) := do
  -- the checks of the route, in its order
  let some snapRow := db.snapshots.find? req.snapshotId
    | notFound "Dataset Snapshot not found."
  checkTenantAccess snapRow.tenantId currentUser.tenantId
  let sourceDescriptor ← dictField "source_descriptor" snapRow.sourceDescriptor
  let schemaDefinition ← dictField "schema_definition" snapRow.schemaDefinition
  let some rulesetRow := db.rulesets.find? req.rulesetId | notFound "Ruleset not found."
  checkTenantAccess rulesetRow.tenantId currentUser.tenantId
  raiseIf (rulesetRow.status ≠ .active) 422
    "CONFIGURATION_NOT_APPROVED: Ruleset must be in ACTIVE status before evaluation."
  raiseIf (rulesetRow.assetId ≠ some snapRow.assetId) 422 "ASSET_CONFIGURATION_MISMATCH"
  let rules ← (order.apply (db.rules.rows.filter fun r =>
    decide (r.rulesetId = req.rulesetId))).mapM triggeredRule
  let columns ← schemaColumns schemaDefinition
  -- the columns that the parameters name
  let referenced := rules.flatMap fun r => referencedBy r.parameters
  raiseIf (rules.isEmpty ∨ ∃ c ∈ referenced ++ req.outlierColumns, c ∉ columns) 422
    "INCOMPATIBLE_CONFIGURATION"
  let some polRow := db.policies.find? req.policyId | notFound "Scoring Policy not found."
  checkTenantAccess polRow.tenantId currentUser.tenantId
  raiseIf (polRow.status ≠ .active) 422
    "CONFIGURATION_NOT_APPROVED: Scoring Policy must be in ACTIVE status before evaluation."
  -- the policy is read from its row
  let policy ← orRaise (scoringPolicyFromRow reading polRow.dimensionWeights
    polRow.publicationThreshold polRow.gateRules)
  return {
    runId
    tenantId := currentUser.tenantId
    snapshot := {
      snapshotId := snapRow.snapshotId
      tenantId := snapRow.tenantId
      assetId := snapRow.assetId
      sourceKind := snapRow.sourceKind
      sourceDescriptor
      schemaDefinition
      totalRows := snapRow.totalRows
      totalColumns := snapRow.totalColumns
      capturedAt := snapRow.capturedAt }
    rules
    policy
    executionProfile := req.executionProfile
    outlierColumns := req.outlierColumns
    rulesetId := req.rulesetId
    policyId := req.policyId
    createdBy := some currentUser.userId }

/-! ### `_reconstruct_spec` -/

/-- The rule that `_reconstruct_spec` builds from a row. -/
def QualityRuleRow.reconstructed (row : QualityRuleRow α) (parameters : PyDict) :
    QualityRule α where
  ruleId := row.ruleId
  ruleCode := row.ruleName
  dimension := row.dimension.value
  ruleType := row.ruleType.value
  parameters
  nullPolicy := row.nullPolicy.lower
  contributionWeight := row.weight
  isCritical := decide (row.severity = .critical)
  isAdvisory := row.isAdvisory
  isRequired := row.isRequired
  gateEnabled := row.gateEnabled
  scoreEnabled := row.scoreEnabled
  acceptanceThreshold := row.acceptanceThreshold
  -- the columns that the SELECT of `trigger_run` leaves out
  conflictGroup := row.conflictGroup
  isPrimaryScoringRule := row.isPrimaryScoringRule

/-- The comprehension over the rows of `_reconstruct_spec`. -/
def reconstructedRule (row : QualityRuleRow α) : Except SpecError (QualityRule α) :=
  row.reconstructed <$> dictField "parameters" (row.parameters.orElse (.dict []))

/-- `_reconstruct_spec`. -/
def reconstructSpec [IsStrictOrderedRing α] (reading : FloatReading α)
    (order : RowOrder (QualityRuleRow α)) (db : ConfigurationDb α)
    (runId tenantId snapshotId rulesetId policyId : Uuid) (executionProfile : String)
    (outlierColumns : List String) : Except SpecError (ExecutionSpec α) := do
  let some sRow := db.snapshots.rows.find? fun r =>
    -- the rows are those of the tenant
      decide (r.tenantId = tenantId) && decide (r.snapshotId = snapshotId)
    | .error (.assertion "Snapshot not found")
  let sourceDescriptor ← dictField "source_descriptor" (sRow.sourceDescriptor.orElse (.dict []))
  let schemaDefinition ← dictField "schema_definition" (sRow.schemaDefinition.orElse (.dict []))
  let rules ← (order.apply (db.rules.rows.filter fun r =>
    decide (r.tenantId = tenantId) && decide (r.rulesetId = rulesetId))).mapM reconstructedRule
  let some pRow := db.policies.rows.find? fun r =>
      decide (r.tenantId = tenantId) && decide (r.policyId = policyId)
    | .error (.assertion "Policy not found")
  let policy ← orRaise (scoringPolicyFromRow reading pRow.dimensionWeights
    pRow.publicationThreshold pRow.gateRules)
  return {
    runId
    tenantId
    snapshot := {
      snapshotId
      tenantId
      assetId := sRow.assetId
      sourceKind := sRow.sourceKind
      sourceDescriptor
      schemaDefinition
      totalRows := sRow.totalRows
      totalColumns := sRow.totalColumns
      capturedAt := sRow.capturedAt }
    rules
    policy
    executionProfile
    outlierColumns
    rulesetId
    policyId
    -- the specification of a run has no creator
    createdBy := none }

/-! ### Agreement -/

/-- The two specifications hold the same snapshot and policy, and the same rules with every
field that the validator, the scorer and the gate read. -/
structure SameConfiguration (spec spec' : ExecutionSpec α) : Prop where
  snapshot_eq : spec.snapshot = spec'.snapshot
  rules_perm : spec.rules.Perm spec'.rules
  policy_eq : spec.policy = spec'.policy

/-- The rule uses neither of the columns that `trigger_run` leaves out. -/
def QualityRuleRow.HasDefaultGroup (row : QualityRuleRow α) : Prop :=
  row.conflictGroup = none ∧ row.isPrimaryScoringRule = true

/-- The parameters of a row that are a dictionary. -/
def QualityRuleRow.parameterDict (row : QualityRuleRow α) : PyDict :=
  match row.parameters with
  | .dict d => d
  | _ => []

/-- A JSON column that passes holds a dictionary. -/
theorem dictField_ok {field : String} {v : PyValue} {d : PyDict}
    (h : dictField field v = .ok d) : v = .dict d := by
  cases v <;> cases h
  rfl

/-- A dictionary stays itself under `or {}`, empty or not. -/
theorem dict_orElse (d : PyDict) : (PyValue.dict d).orElse (.dict []) = .dict d := by
  unfold PyValue.orElse
  cases d with
  | nil => rfl
  | cons e d => rfl

/-- A rule row that becomes a rule has a dictionary of parameters. -/
theorem triggeredRule_ok {row : QualityRuleRow α} {rule : QualityRule α}
    (h : triggeredRule row = .ok rule) : row.parameters = .dict row.parameterDict := by
  unfold triggeredRule at h
  cases h_dict : dictField "parameters" row.parameters with
  | error e =>
    rw [h_dict] at h
    cases h
  | ok d =>
    have h_parameters := dictField_ok h_dict
    unfold QualityRuleRow.parameterDict
    rw [h_parameters]

/-- The rule that `trigger_run` builds from a row. -/
theorem triggeredRule_eq {row : QualityRuleRow α} (h : row.parameters = .dict row.parameterDict) :
    triggeredRule row = .ok (row.triggered row.parameterDict) := by
  unfold triggeredRule
  rw [h]
  rfl

/-- The rule that the worker rebuilds from a row. -/
theorem reconstructedRule_eq {row : QualityRuleRow α}
    (h : row.parameters = .dict row.parameterDict) :
    reconstructedRule row = .ok (row.reconstructed row.parameterDict) := by
  unfold reconstructedRule
  rw [h, dict_orElse]
  rfl

/-- The two rules of a row agree exactly when the row has the defaults. -/
theorem triggered_eq_reconstructed_iff (row : QualityRuleRow α) (d : PyDict) :
    row.triggered d = row.reconstructed d ↔ row.HasDefaultGroup := by
  unfold QualityRuleRow.triggered QualityRuleRow.reconstructed QualityRuleRow.HasDefaultGroup
  rw [QualityRule.mk.injEq]
  constructor
  · rintro ⟨-, -, -, -, -, -, -, -, -, -, h_group, h_primary, -, -, -⟩
    exact ⟨h_group.symm, h_primary.symm⟩
  · rintro ⟨h_group, h_primary⟩
    rw [h_group, h_primary]
    simp

/-- What a specification of `trigger_run` was read from. -/
structure TriggeredFrom [IsStrictOrderedRing α] (reading : FloatReading α)
    (order : RowOrder (QualityRuleRow α)) (db : ConfigurationDb α) (req : TriggerRunRequest)
    (tenantId : Uuid) (spec : ExecutionSpec α) (snapRow : SnapshotRow)
    (polRow : ScoringPolicyRow α) : Prop where
  snapshot_found : db.snapshots.find? req.snapshotId = some snapRow
  snapshot_tenant : snapRow.tenantId = tenantId
  ruleset_found : ∃ row, db.rulesets.find? req.rulesetId = some row ∧ row.tenantId = tenantId
  descriptor_dict : snapRow.sourceDescriptor = .dict spec.snapshot.sourceDescriptor
  schema_dict : snapRow.schemaDefinition = .dict spec.snapshot.schemaDefinition
  snapshot_eq : spec.snapshot = {
    snapshotId := snapRow.snapshotId
    tenantId := snapRow.tenantId
    assetId := snapRow.assetId
    sourceKind := snapRow.sourceKind
    sourceDescriptor := spec.snapshot.sourceDescriptor
    schemaDefinition := spec.snapshot.schemaDefinition
    totalRows := snapRow.totalRows
    totalColumns := snapRow.totalColumns
    capturedAt := snapRow.capturedAt }
  rules_read : (order.apply (db.rules.rows.filter fun r =>
    decide (r.rulesetId = req.rulesetId))).mapM triggeredRule = .ok spec.rules
  policy_found : db.policies.find? req.policyId = some polRow
  policy_tenant : polRow.tenantId = tenantId
  policy_read : scoringPolicyFromRow reading polRow.dimensionWeights polRow.publicationThreshold
    polRow.gateRules = .ok spec.policy

/-- A resource that passes is the tenant's own. -/
theorem checkTenantAccess_ok {resource current : Uuid} {u : Unit}
    (h : checkTenantAccess resource current = .ok u) : resource = current := by
  unfold checkTenantAccess raiseIf at h
  split at h
  · cases h
  · next h_eq => exact not_not.mp h_eq

/-- An answer that was not raised is the result. -/
theorem orRaise_ok {β : Type} {x : Except PyError β} {b : β} (h : orRaise x = .ok b) :
    x = .ok b := by
  cases x with
  | error e => cases h
  | ok b' => exact congrArg Except.ok (Except.ok.inj h)

section Agreement

variable [IsStrictOrderedRing α] {reading : FloatReading α}
  {order order' : RowOrder (QualityRuleRow α)} {db : ConfigurationDb α} {req : TriggerRunRequest}
  {currentUser : AuthenticatedUser} {runId : Uuid} {spec : ExecutionSpec α}

/-- Where a spec comes from when `trigger_run` builds one: which rows it read. -/
theorem triggeredFrom_of_ok (h : triggerRun reading order db req currentUser runId = .ok spec) :
    ∃ snapRow polRow,
      TriggeredFrom reading order db req currentUser.tenantId spec snapRow polRow := by
  unfold triggerRun at h
  split at h
  case h_2 => cases h
  case h_1 snapRow h_snapshot =>
    obtain ⟨_, h_tenant, h⟩ := ok_of_bind h
    obtain ⟨descriptor, h_descriptor, h⟩ := ok_of_bind h
    obtain ⟨schema, h_schema, h⟩ := ok_of_bind h
    split at h
    case h_2 => cases h
    case h_1 rulesetRow h_ruleset =>
      obtain ⟨_, h_rulesetTenant, h⟩ := ok_of_bind h
      -- the checks on the configuration leave the rest of the function
      obtain ⟨_, _, h⟩ := ok_of_bind h
      obtain ⟨_, _, h⟩ := ok_of_bind h
      obtain ⟨rules, h_rules, h⟩ := ok_of_bind h
      obtain ⟨columns, _, h⟩ := ok_of_bind h
      obtain ⟨_, _, h⟩ := ok_of_bind h
      split at h
      case h_2 => cases h
      case h_1 polRow h_policy =>
        obtain ⟨_, h_policyTenant, h⟩ := ok_of_bind h
        obtain ⟨_, _, h⟩ := ok_of_bind h
        obtain ⟨policy, h_read, h⟩ := ok_of_bind h
        cases h
        exact ⟨snapRow, polRow, {
          snapshot_found := h_snapshot
          snapshot_tenant := checkTenantAccess_ok h_tenant
          ruleset_found := ⟨rulesetRow, h_ruleset, checkTenantAccess_ok h_rulesetTenant⟩
          descriptor_dict := dictField_ok h_descriptor
          schema_dict := dictField_ok h_schema
          snapshot_eq := rfl
          rules_read := h_rules
          policy_found := h_policy
          policy_tenant := checkTenantAccess_ok h_policyTenant
          policy_read := orRaise_ok h_read }⟩

/-- What `trigger_run` takes from the request, and what it has checked of the columns. -/
structure TriggeredFor (req : TriggerRunRequest) (currentUser : AuthenticatedUser) (runId : Uuid)
    (spec : ExecutionSpec α) : Prop where
  runId : spec.runId = runId
  tenantId : spec.tenantId = currentUser.tenantId
  snapshotId : spec.snapshot.snapshotId = req.snapshotId
  rulesetId : spec.rulesetId = req.rulesetId
  policyId : spec.policyId = req.policyId
  createdBy : spec.createdBy = some currentUser.userId
  columns : ∃ columns, schemaColumns spec.snapshot.schemaDefinition = .ok columns ∧
    spec.rules ≠ [] ∧
    ∀ c ∈ spec.rules.flatMap (fun r => referencedBy r.parameters) ++ req.outlierColumns, c ∈ columns

/-- Where a spec comes from when `trigger_run` builds one: what of the request it kept. -/
theorem triggeredFor_of_ok (h : triggerRun reading order db req currentUser runId = .ok spec) :
    TriggeredFor req currentUser runId spec := by
  unfold triggerRun at h
  split at h
  case h_2 => cases h
  case h_1 snapRow h_snapshot =>
    obtain ⟨_, _, h⟩ := ok_of_bind h
    obtain ⟨descriptor, _, h⟩ := ok_of_bind h
    obtain ⟨schema, _, h⟩ := ok_of_bind h
    split at h
    case h_2 => cases h
    case h_1 rulesetRow _ =>
      obtain ⟨_, _, h⟩ := ok_of_bind h
      obtain ⟨_, _, h⟩ := ok_of_bind h
      obtain ⟨_, _, h⟩ := ok_of_bind h
      obtain ⟨rules, _, h⟩ := ok_of_bind h
      obtain ⟨columns, h_columns, h⟩ := ok_of_bind h
      obtain ⟨_, h_compatible, h⟩ := ok_of_bind h
      split at h
      case h_2 => cases h
      case h_1 polRow _ =>
        obtain ⟨_, _, h⟩ := ok_of_bind h
        obtain ⟨_, _, h⟩ := ok_of_bind h
        obtain ⟨policy, _, h⟩ := ok_of_bind h
        cases h
        refine ⟨rfl, rfl, (Table.find?_eq_some_iff.mp h_snapshot).2, rfl, rfl, rfl, columns,
          h_columns, ?_⟩
        -- the check of the columns has passed
        unfold raiseIf at h_compatible
        split at h_compatible
        · cases h_compatible
        · next h_checked =>
          obtain ⟨h_rules, h_all⟩ := not_or.mp h_checked
          refine ⟨fun h_nil => h_rules (List.isEmpty_iff.mpr h_nil), fun c h_c => ?_⟩
          by_contra h_missing
          exact h_all ⟨c, h_c, h_missing⟩

omit [IsStrictOrderedRing α] in
/-- The rows whose rules are read: a foreign key makes the tenant of the rules the tenant
of their ruleset, so that the two statements select the same rows. -/
theorem filter_rules_eq {rulesetId tenantId : Uuid} {row : RulesetRow}
    (h_found : db.rulesets.find? rulesetId = some row) (h_tenant : row.tenantId = tenantId) :
    (db.rules.rows.filter fun r =>
        decide (r.tenantId = tenantId) && decide (r.rulesetId = rulesetId)) =
      db.rules.rows.filter fun r => decide (r.rulesetId = rulesetId) := by
  refine List.filter_congr fun r h_mem => ?_
  by_cases h_ruleset : r.rulesetId = rulesetId
  · obtain ⟨owner, h_owner, h_same⟩ := db.rules_owned r h_mem
    rw [h_ruleset, h_found] at h_owner
    obtain rfl := Option.some.inj h_owner
    have h_rule : r.tenantId = tenantId := h_same.symm.trans h_tenant
    rw [decide_eq_true h_rule, Bool.true_and]
  · rw [decide_eq_false h_ruleset, Bool.and_false]

/-- The rules of a triggered ruleset have dictionaries of parameters. -/
theorem TriggeredFrom.parameters_dict {snapRow : SnapshotRow} {polRow : ScoringPolicyRow α}
    {tenantId : Uuid} (h : TriggeredFrom reading order db req tenantId spec snapRow polRow) :
    ∀ row ∈ db.rules.rows.filter (fun r => decide (r.rulesetId = req.rulesetId)),
      row.parameters = .dict row.parameterDict := by
  intro row h_row
  have h_mem := (order.perm _).mem_iff.mpr h_row
  obtain ⟨rule, -, h_rule⟩ := exists_of_mapM_ok h.rules_read h_mem
  exact triggeredRule_ok h_rule

/-- The rules of `trigger_run`, row by row. -/
theorem TriggeredFrom.rules_eq {snapRow : SnapshotRow} {polRow : ScoringPolicyRow α}
    {tenantId : Uuid} (h : TriggeredFrom reading order db req tenantId spec snapRow polRow) :
    spec.rules = (order.apply (db.rules.rows.filter fun r =>
      decide (r.rulesetId = req.rulesetId))).map fun row => row.triggered row.parameterDict := by
  have h_map := mapM_eq_map fun row h_row =>
    triggeredRule_eq (h.parameters_dict row ((order.perm _).mem_iff.mp h_row))
  exact Except.ok.inj (h.rules_read.symm.trans h_map)

/-- The specification that is rebuilt for the ids of one that was triggered. -/
theorem TriggeredFrom.reconstructs {snapRow : SnapshotRow} {polRow : ScoringPolicyRow α}
    {tenantId : Uuid} (h : TriggeredFrom reading order db req tenantId spec snapRow polRow)
    (runId : Uuid) (executionProfile : String) (outlierColumns : List String) :
    reconstructSpec reading order' db runId tenantId req.snapshotId req.rulesetId req.policyId
        executionProfile outlierColumns = .ok {
      runId
      tenantId
      snapshot := spec.snapshot
      rules := (order'.apply (db.rules.rows.filter fun r =>
        decide (r.rulesetId = req.rulesetId))).map fun row =>
          row.reconstructed row.parameterDict
      policy := spec.policy
      executionProfile
      outlierColumns
      rulesetId := req.rulesetId
      policyId := req.policyId
      createdBy := none } := by
  obtain ⟨rulesetRow, h_ruleset, h_owner⟩ := h.ruleset_found
  have h_snapshot := Table.find?_rows_eq_some (p := fun r : SnapshotRow =>
      decide (r.tenantId = tenantId) && decide (r.snapshotId = req.snapshotId))
    h.snapshot_found (by
      rw [h.snapshot_tenant, (Table.find?_eq_some_iff.mp h.snapshot_found).2]
      simp) (by
      intro x hx
      exact of_decide_eq_true (Bool.and_eq_true_iff.mp hx).2)
  have h_policy := Table.find?_rows_eq_some (p := fun r : ScoringPolicyRow α =>
      decide (r.tenantId = tenantId) && decide (r.policyId = req.policyId))
    h.policy_found (by
      rw [h.policy_tenant, (Table.find?_eq_some_iff.mp h.policy_found).2]
      simp) (by
      intro x hx
      exact of_decide_eq_true (Bool.and_eq_true_iff.mp hx).2)
  have h_rules := mapM_eq_map fun row h_row =>
    reconstructedRule_eq (h.parameters_dict row ((order'.perm _).mem_iff.mp h_row))
  have h_id : snapRow.snapshotId = req.snapshotId :=
    (Table.find?_eq_some_iff.mp h.snapshot_found).2
  unfold reconstructSpec
  rw [h_snapshot]
  simp only [h.descriptor_dict, h.schema_dict, dict_orElse, dictField, bind, Except.bind,
    filter_rules_eq h_ruleset h_owner, h_rules, h_policy, h.policy_read, orRaise, pure,
    Except.pure]
  rw [h.snapshot_eq, h.snapshot_tenant, h_id]

end Agreement

/-- **The two specifications agree** exactly when no rule of the ruleset uses the columns
that `trigger_run` leaves out. -/
theorem specs_agree_iff [IsStrictOrderedRing α] {reading : FloatReading α}
    {order order' : RowOrder (QualityRuleRow α)} {db : ConfigurationDb α}
    {req : TriggerRunRequest} {currentUser : AuthenticatedUser} {runId : Uuid}
    {spec : ExecutionSpec α}
    (h : triggerRun reading order db req currentUser runId = .ok spec)
    (executionProfile : String) (outlierColumns : List String) :
    (∃ spec', reconstructSpec reading order' db runId currentUser.tenantId req.snapshotId
        req.rulesetId req.policyId executionProfile outlierColumns = .ok spec' ∧
      SameConfiguration spec spec') ↔
      ∀ row ∈ db.rules.rows, row.rulesetId = req.rulesetId → row.HasDefaultGroup := by
  obtain ⟨snapRow, polRow, h_from⟩ := triggeredFrom_of_ok h
  have h_selected : ∀ row : QualityRuleRow α,
      row ∈ db.rules.rows.filter (fun r => decide (r.rulesetId = req.rulesetId)) ↔
        row ∈ db.rules.rows ∧ row.rulesetId = req.rulesetId := by
    intro row
    rw [List.mem_filter, decide_eq_true_eq]
  rw [h_from.reconstructs]
  constructor
  · rintro ⟨spec', h_ok, h_same⟩ row h_row h_ruleset
    obtain rfl := Except.ok.inj h_ok
    have h_rules := h_same.rules_perm
    rw [h_from.rules_eq] at h_rules
    -- the rebuilt rule of the row is one of the triggered rules, which have the defaults
    have h_mem := (order'.perm _).mem_iff.mpr ((h_selected row).mpr ⟨h_row, h_ruleset⟩)
    have h_rebuilt := h_rules.mem_iff.mpr (List.mem_map_of_mem h_mem)
    obtain ⟨row', -, h_eq⟩ := List.mem_map.mp h_rebuilt
    exact ⟨(congrArg QualityRule.conflictGroup h_eq).symm,
      (congrArg QualityRule.isPrimaryScoringRule h_eq).symm⟩
  · intro h_default
    refine ⟨_, rfl, rfl, ?_, rfl⟩
    rw [h_from.rules_eq]
    have h_rows := ((order.perm (db.rules.rows.filter fun r =>
      decide (r.rulesetId = req.rulesetId))).trans (order'.perm _).symm).map
        fun row => row.triggered row.parameterDict
    refine h_rows.trans (List.Perm.of_eq ?_)
    refine List.map_congr_left fun row h_row => ?_
    obtain ⟨h_mem, h_ruleset⟩ := (h_selected row).mp ((order'.perm _).mem_iff.mp h_row)
    exact (triggered_eq_reconstructed_iff row _).mpr (h_default row h_mem h_ruleset)

/-! ### A rule of a conflict group -/

/-- Numbers are read as they are. -/
def exactReading : FloatReading ℚ where
  float
    | .int n => .ok n
    | .float x => .ok x
    | .bool b => .ok (if b then 1 else 0)
    | _ => .error (.typeError "float() argument must be a string or a real number")
  validated
    | .int n => some n
    | .float x => some x
    | .bool b => some (if b then 1 else 0)
    | _ => none

/-- The rows as they are stored. -/
def storedOrder : RowOrder (QualityRuleRow ℚ) := ⟨id, fun rows => List.Perm.refl rows⟩

theorem zero_le_one_weight : (0 : ℚ) ≤ 1 := by norm_num

theorem weightless_of_advisory : false = true → (1 : ℚ) = 0 :=
  fun h => absurd h Bool.false_ne_true

theorem threshold_mem_of_none : ∀ t ∈ (none : Option ℚ), t ∈ Set.Icc (0 : ℚ) 100 :=
  fun t h => absurd h (Option.not_mem_none t)

theorem not_both_of_false : ¬ (false = true ∧ false = true) := fun h => Bool.false_ne_true h.1

theorem not_both_of_unset : ¬ (false = true ∧ true = true) := fun h => Bool.false_ne_true h.1

/-- A rule on the column `email`, the primary one of its group or not. -/
def emailRule (isPrimary : Bool) : QualityRuleRow ℚ where
  ruleId := Uuid.repeated 1
  tenantId := Uuid.repeated 2
  rulesetId := Uuid.repeated 3
  ruleName := "EMAIL_PRESENT"
  dimension := .completeness
  ruleType := .nonNull
  parameters := .dict [("column", .str "email")]
  nullPolicy := .fail
  weight := 1
  severity := .standard
  isAdvisory := false
  isRequired := false
  gateEnabled := true
  scoreEnabled := true
  acceptanceThreshold := none
  conflictGroup := if isPrimary then none else some "email"
  isPrimaryScoringRule := isPrimary
  weight_nonneg := zero_le_one_weight
  advisory_weight := weightless_of_advisory
  threshold_mem := threshold_mem_of_none
  required_not_advisory := not_both_of_false
  advisory_unscored := not_both_of_unset

/-- An active configuration with that rule. -/
def emailDb (isPrimary : Bool) : ConfigurationDb ℚ where
  snapshots := ⟨[{
    snapshotId := Uuid.repeated 4, tenantId := Uuid.repeated 2, assetId := Uuid.repeated 5
    sourceKind := "OBJECT_FILE", sourceDescriptor := .dict []
    schemaDefinition := .dict [("columns", .list [.dict [("name", .str "email")]])]
    totalRows := 10, totalColumns := 1, capturedAt := 0 }], by simp⟩
  rulesets := ⟨[{
    rulesetId := Uuid.repeated 3, tenantId := Uuid.repeated 2
    assetId := some (Uuid.repeated 5), status := .active }], by simp⟩
  rules := ⟨[emailRule isPrimary], by simp⟩
  policies := ⟨[{
    policyId := Uuid.repeated 6, tenantId := Uuid.repeated 2, status := .active
    dimensionWeights := .dict [], publicationThreshold := 4 / 5, gateRules := .dict []
    publicationThreshold_mem := by norm_num }], by simp⟩
  rules_owned := by
    intro r h_r
    obtain rfl := List.mem_singleton.mp h_r
    exact ⟨_, rfl, rfl⟩

/-- The run over it. -/
def emailRequest : TriggerRunRequest where
  snapshotId := Uuid.repeated 4
  rulesetId := Uuid.repeated 3
  policyId := Uuid.repeated 6

/-- A user of its tenant. -/
def emailUser : AuthenticatedUser where
  userId := Uuid.repeated 7
  tenantId := Uuid.repeated 2
  role := .dataEngineer

/-- The sample database has a spec to trigger. -/
theorem triggerRun_emailDb (isPrimary : Bool) :
    ∃ spec, triggerRun exactReading storedOrder (emailDb isPrimary) emailRequest emailUser
      (Uuid.repeated 8) = .ok spec := by
  have h_some : (triggerRun exactReading storedOrder (emailDb isPrimary) emailRequest emailUser
      (Uuid.repeated 8)).toOption.isSome = true := by
    cases isPrimary <;> decide +kernel
  cases h : triggerRun exactReading storedOrder (emailDb isPrimary) emailRequest emailUser
      (Uuid.repeated 8) with
  | error e =>
    rw [h] at h_some
    cases h_some
  | ok spec => exact ⟨spec, rfl⟩

theorem specs_agree_iff_emailDb :
    ∃ spec, triggerRun exactReading storedOrder (emailDb true) emailRequest emailUser
        (Uuid.repeated 8) = .ok spec ∧
      ∃ spec', reconstructSpec exactReading storedOrder (emailDb true) (Uuid.repeated 8)
          (Uuid.repeated 2) (Uuid.repeated 4) (Uuid.repeated 3) (Uuid.repeated 6) "standard" [] =
            .ok spec' ∧ SameConfiguration spec spec' := by
  obtain ⟨spec, h_spec⟩ := triggerRun_emailDb true
  refine ⟨spec, h_spec, (specs_agree_iff h_spec "standard" []).mpr fun row h_row _ => ?_⟩
  obtain rfl := List.mem_singleton.mp h_row
  exact ⟨rfl, rfl⟩

/-- A rule that is not the primary one of its conflict group is scored by the specification
of `trigger_run`, and not by the one that is rebuilt. -/
theorem specs_differ_emailDb :
    ∃ spec, triggerRun exactReading storedOrder (emailDb false) emailRequest emailUser
        (Uuid.repeated 8) = .ok spec ∧
      spec.rules.map (·.isPrimaryScoringRule) = [true] ∧
      ∃ spec', reconstructSpec exactReading storedOrder (emailDb false) (Uuid.repeated 8)
          (Uuid.repeated 2) (Uuid.repeated 4) (Uuid.repeated 3) (Uuid.repeated 6) "standard" [] =
            .ok spec' ∧
        spec'.rules.map (·.isPrimaryScoringRule) = [false] ∧ ¬ SameConfiguration spec spec' := by
  obtain ⟨spec, h_spec⟩ := triggerRun_emailDb false
  obtain ⟨snapRow, polRow, h_from⟩ := triggeredFrom_of_ok h_spec
  have h_primary : spec.rules.map (·.isPrimaryScoringRule) = [true] := by
    rw [h_from.rules_eq]
    decide
  have h_rebuilt : ((storedOrder.apply ((emailDb false).rules.rows.filter fun r =>
      decide (r.rulesetId = emailRequest.rulesetId))).map fun row =>
        row.reconstructed row.parameterDict).map (·.isPrimaryScoringRule) = [false] := by
    decide
  refine ⟨spec, h_spec, h_primary, _, h_from.reconstructs _ _ _, h_rebuilt, fun h_same => ?_⟩
  have h_perm := h_same.rules_perm.map (·.isPrimaryScoringRule)
  rw [h_primary] at h_perm
  have h_eq := (List.singleton_perm.mp h_perm).trans h_rebuilt
  exact absurd h_eq (by decide)

end DqScoring
