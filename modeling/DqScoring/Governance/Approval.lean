import DqScoring.Common.Uuid
import DqScoring.Core.Entities
import DqScoring.Framework.RowLocks
import DqScoring.Framework.Table
import DqScoring.Presentation.Requests

/-!
# The approval workflow

`presentation/api/governance.py` on the three governed tables, and the requests that
create revisions. Every request is one transaction, written statement by statement:
rows are locked as the source locks them, an UPDATE takes the rows it found at its start
and re-checks each one once it is locked, and the partial unique indexes refuse a second
ACTIVE revision.

The configuration that a revision carries is not modelled, and neither are the CHECK
constraints on submitter and approver, which the assignments here satisfy.
-/

namespace DqScoring

open Framework

/-! ### Revisions -/

/-- The status of a revision. -/
inductive RevisionStatus where
  | draft | pendingApproval | active | deprecated
  deriving DecidableEq, Repr

/-- The text of a status. -/
def RevisionStatus.text : RevisionStatus → String
  | draft => "DRAFT"
  | pendingApproval => "PENDING_APPROVAL"
  | active => "ACTIVE"
  | deprecated => "DEPRECATED"

/-- The governed tables. -/
inductive GovernedTable where
  | rulesets | policies | templates
  deriving DecidableEq, Repr

namespace GovernedTable

/-- What a revision of the table is called in messages. -/
def label : GovernedTable → String
  | rulesets => "Ruleset"
  | policies => "Scoring Policy"
  | templates => "Ruleset Template"

/-- `label.lower()`. -/
def lowerLabel : GovernedTable → String
  | rulesets => "ruleset"
  | policies => "scoring policy"
  | templates => "ruleset template"

end GovernedTable

/-- A row of a governed table; a column that a table lacks is null. -/
structure RevisionRow where
  entityId : Uuid
  tenantId : Option Uuid
  assetId : Option Uuid := none
  templateCode : Option String := none
  status : RevisionStatus
  createdBy : Option Uuid
  submittedBy : Option Uuid := none
  submittedAt : Option Time := none
  approvedBy : Option Uuid := none
  approvedAt : Option Time := none
  deriving DecidableEq

/-- A column that defines the scope of a revision. -/
inductive ScopeColumn where
  | tenantId | assetId | templateCode
  deriving DecidableEq, Repr

/-- The value of a scope column. -/
inductive ScopeValue where
  | uuid (u : Uuid)
  | text (s : String)
  deriving DecidableEq

/-- The value a row has in a scope column. -/
def RevisionRow.scopeValue (row : RevisionRow) : ScopeColumn → Option ScopeValue
  | .tenantId => row.tenantId.map .uuid
  | .assetId => row.assetId.map .uuid
  | .templateCode => row.templateCode.map .text

/-- `supersede_scope`: the columns that define the one ACTIVE revision. -/
def GovernedTable.supersedeScope : GovernedTable → List ScopeColumn
  | rulesets => [.tenantId, .assetId]
  | policies => [.tenantId]
  | templates => [.tenantId, .templateCode]

/-- SQL equality: null equals nothing. -/
def sqlEq {β : Type} [DecidableEq β] (x y : Option β) : Bool :=
  x.any fun a => y.any fun b => decide (a = b)

/-- The condition `{scope}` of the superseding UPDATE, for the scope of `record`. -/
def GovernedTable.inScope (t : GovernedTable) (record row : RevisionRow) : Bool :=
  t.supersedeScope.all fun c => sqlEq (row.scopeValue c) (record.scopeValue c)

/-- The key of an ACTIVE row in the partial unique index of the table, if the index has the row:
`uq_rulesets_tenant_asset_active`, `uq_policies_tenant_active` and
`uq_ruleset_template_active_scope`. -/
def GovernedTable.activeKey (t : GovernedTable) (row : RevisionRow) :
    Option (Option Uuid × Option Uuid × Option String) :=
  if row.status ≠ .active then none
  else
    match t with
    | rulesets => row.assetId.map fun assetId => (row.tenantId, some assetId, none)
    | policies => some (row.tenantId, none, none)
    -- `COALESCE(tenant_id, '00000000-0000-0000-0000-000000000000')`
    | templates => some (some (row.tenantId.getD (Uuid.repeated 0)), none, row.templateCode)

/-- The governed tables. -/
structure GovernanceDb where
  table : GovernedTable → Table RevisionRow.entityId

/-- No two rows of a table have one key in its partial unique index. -/
def GovernanceDb.UniqueActive (db : GovernanceDb) : Prop :=
  ∀ t, (db.table t).HasUniqueIndex t.activeKey

instance (db : GovernanceDb) : Decidable db.UniqueActive :=
  decidable_of_iff
    (∀ t ∈ [GovernedTable.rulesets, .policies, .templates],
      (db.table t).HasUniqueIndex t.activeKey) <| by
    constructor
    · intro h t
      exact h t (by cases t <;> decide)
    · exact fun h t _ => h t

/-- The tables, if the partial unique indexes accept them. -/
def GovernanceDb.checked (db : GovernanceDb) : Option GovernanceDb :=
  if db.UniqueActive then some db else none

/-- Replace one table. -/
def GovernanceDb.set (db : GovernanceDb) (t : GovernedTable) (rows : Table RevisionRow.entityId) :
    GovernanceDb :=
  ⟨Function.update db.table t rows⟩

/-! ### Requests -/

/-- `APPROVER_ROLES`. -/
def approverRoles : List UserRole := [.dataOwner, .dataSteward, .workspaceAdmin]

/-- The row after its submission. -/
def RevisionRow.submit (user : AuthenticatedUser) (now : Time) (row : RevisionRow) : RevisionRow :=
  { row with
    status := .pendingApproval, submittedBy := some user.userId, submittedAt := some now }

/-- The row after its approval. -/
def RevisionRow.activate (user : AuthenticatedUser) (now : Time) (row : RevisionRow) :
    RevisionRow :=
  { row with status := .active, approvedBy := some user.userId, approvedAt := some now }

/-- The row after its supersession. -/
def RevisionRow.deprecate (row : RevisionRow) : RevisionRow := { row with status := .deprecated }

@[simp] theorem RevisionRow.submit_entityId (user : AuthenticatedUser) (now : Time)
    (row : RevisionRow) : (row.submit user now).entityId = row.entityId := rfl

@[simp] theorem RevisionRow.activate_entityId (user : AuthenticatedUser) (now : Time)
    (row : RevisionRow) : (row.activate user now).entityId = row.entityId := rfl

@[simp] theorem RevisionRow.deprecate_entityId (row : RevisionRow) :
    row.deprecate.entityId = row.entityId := rfl

/-- The rows that the superseding UPDATE takes for a revision. -/
def supersededBy (t : GovernedTable) (record : RevisionRow) (ids : List Uuid) (r : RevisionRow) :
    Bool :=
  decide (r.entityId ∈ ids) && decide (r.status = .active) && t.inScope record r

/-- A governance transaction; a row lock is a table and the key of a row. -/
abbrev GovernanceTxn := Txn GovernanceDb (GovernedTable × Uuid) HttpError

def badRequest {β : Type} (detail : String) : GovernanceTxn β := .raise ⟨400, detail⟩

/-- `_load_for_update`. -/
def loadForUpdate (t : GovernedTable) (entityId : Uuid) (user : AuthenticatedUser) :
    GovernanceTxn RevisionRow := do
  .forUpdate (t, entityId)
  match ← .select fun db => (db.table t).find? entityId with
  | none => .raise ⟨404, t.label ++ " not found."⟩
  | some record =>
    -- `check_tenant_access`
    if record.tenantId ≠ some user.tenantId then
      .raise ⟨404, "Requested resource was not found."⟩
    else return record

/-- `_transition`: update the row if it still has the expected status. -/
def transition (t : GovernedTable) (entityId : Uuid) (expected : RevisionStatus)
    (assign : RevisionRow → RevisionRow) (h_assign : ∀ r, (assign r).entityId = r.entityId) :
    GovernanceTxn Unit := do
  .forUpdate (t, entityId)
  let row ← .select fun db => (db.table t).find? entityId
  if row.any fun r => decide (r.status = expected) then
    .exec fun db => (db.set t ((db.table t).update entityId assign h_assign)).checked
  else
    -- `cur.rowcount != 1`
    .raise ⟨409, t.label ++ " changed while this request was processed. Reload and try again."⟩

/-- `submit_for_approval`. -/
def submitForApproval (t : GovernedTable) (entityId : Uuid) (user : AuthenticatedUser)
    (now : Time) : GovernanceTxn Unit := do
  let record ← loadForUpdate t entityId user
  -- the status is that of the row under the lock
  if record.status ≠ .draft then
    badRequest ("Only DRAFT " ++ t.lowerLabel
      ++ " revisions can be submitted for approval (current status: " ++ record.status.text ++ ").")
  else
    transition t entityId .draft (RevisionRow.submit user now)
      (RevisionRow.submit_entityId user now)

/-- The superseding UPDATE of `approve`. -/
def supersede (t : GovernedTable) (record : RevisionRow) : GovernanceTxn Unit := do
  let current ← .select fun db => (db.table t).rows.filter fun r =>
    decide (r.status = .active) && t.inScope record r
  .forUpdateAll (current.map fun r => (t, r.entityId))
  -- a row that was not ACTIVE any more when its lock was granted is left alone
  .exec fun db => some (db.set t ((db.table t).updateWhere
    (supersededBy t record (current.map RevisionRow.entityId))
    RevisionRow.deprecate RevisionRow.deprecate_entityId))

/-- `approve`. -/
def approve (t : GovernedTable) (entityId : Uuid) (user : AuthenticatedUser) (now : Time) :
    GovernanceTxn Unit := do
  let record ← loadForUpdate t entityId user
  match record.status with
  | .active => badRequest (t.label ++ " is already ACTIVE.")
  | .draft => badRequest (t.label ++ " must be submitted for approval before it can be approved.")
  | .deprecated =>
    badRequest ("Cannot approve " ++ t.lowerLabel ++ " in " ++ record.status.text ++ " status.")
  | .pendingApproval =>
    -- the creator is tested before the role
    if some user.userId = record.createdBy ∨ some user.userId = record.submittedBy then
      .raise ⟨403, "Independent approval violation: Creator/submitter cannot approve their own "
        ++ t.lowerLabel ++ "."⟩
    else if user.role ∉ approverRoles then
      .raise ⟨403, "Insufficient permissions: Approver must have DATA_OWNER, DATA_STEWARD, or "
        ++ "WORKSPACE_ADMIN role."⟩
    else do
      -- the active revisions of the same lineage are deprecated first
      supersede t record
      transition t entityId .pendingApproval (RevisionRow.activate user now)
        (RevisionRow.activate_entityId user now)

/-- The INSERT of `create_ruleset`, of `create_policy` and of `import_pack`: a DRAFT revision of the
user's tenant. -/
def insertDraft (t : GovernedTable) (row : RevisionRow) : GovernanceTxn Unit :=
  .exec fun db => do
    let rows ← (db.table t).insert row
    (db.set t rows).checked

/-- The requests on the governed tables. The identifiers of new rows are the `uuid4()` of the
source. -/
inductive GovernanceRequest where
  | createRuleset (rulesetId assetId : Uuid) (user : AuthenticatedUser)
  | createPolicy (policyId : Uuid) (user : AuthenticatedUser)
  | importTemplate (templateId : Uuid) (templateCode : String) (user : AuthenticatedUser)
  | submit (t : GovernedTable) (entityId : Uuid) (user : AuthenticatedUser) (now : Time)
  | approve (t : GovernedTable) (entityId : Uuid) (user : AuthenticatedUser) (now : Time)

/-- The row that a creating request inserts. -/
def draftRow (entityId : Uuid) (assetId : Option Uuid) (templateCode : Option String)
    (user : AuthenticatedUser) : RevisionRow where
  entityId := entityId
  tenantId := some user.tenantId
  assetId := assetId
  templateCode := templateCode
  status := .draft
  createdBy := some user.userId

/-- The transaction of a request. -/
def GovernanceRequest.program : GovernanceRequest → GovernanceTxn Unit
  | createRuleset rulesetId assetId user =>
    insertDraft .rulesets (draftRow rulesetId (some assetId) none user)
  | createPolicy policyId user => insertDraft .policies (draftRow policyId none none user)
  | importTemplate templateId templateCode user =>
    insertDraft .templates (draftRow templateId none (some templateCode) user)
  | submit t entityId user now => submitForApproval t entityId user now
  | approve t entityId user now => DqScoring.approve t entityId user now

/-- The approval workflow: any requests of any users, in any interleaving. -/
def governanceSystem (I : Type) :
    TxnSystem I GovernanceRequest GovernanceDb (GovernedTable × Uuid) HttpError Unit where
  program := GovernanceRequest.program
  allowed _ _ := True

end DqScoring
