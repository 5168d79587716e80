import DqScoring.Governance.ApprovalSteps

/-!
# Approval needs a second pair of eyes

Every interleaving of governance requests, started on the tables as the migrations supply
them: one ACTIVE revision in each scope, every ACTIVE revision of a tenant reached
through DRAFT and PENDING_APPROVAL and approved by somebody else, no way back from
DEPRECATED, and nothing changed by a request that is rolled back.
-/

namespace DqScoring

open Framework Relation

variable {I : Type} [DecidableEq I]

/-- A state of the approval workflow. -/
abbrev GovernanceState (I : Type) :=
  TxnState I GovernanceRequest GovernanceDb (GovernedTable × Uuid) HttpError Unit

/-- The log of the approval workflow. -/
abbrev GovernanceLog (I : Type) := List (TxnEvent I GovernanceRequest HttpError Unit)

/-- One statement of one governance request. -/
abbrev GovernanceStep : GovernanceState I → GovernanceState I → Prop :=
  TxnSystem.Step (governanceSystem I)

/-- The tables as the migrations supply them: there are system templates, which belong to
no tenant, and nothing else. -/
structure GovernanceDb.Supplied (db : GovernanceDb) : Prop where
  unique : db.UniqueActive
  systemTemplates : ∀ t, ∀ row ∈ (db.table t).rows, t = .templates ∧ row.tenantId = none

/-- The two revisions have one scope. -/
def SameScope (t : GovernedTable) (row row' : RevisionRow) : Prop :=
  ∀ c ∈ t.supersedeScope, row.scopeValue c = row'.scopeValue c

/-- Somebody with an approver role, neither the creator nor the submitter, has approved the
revision, and that approval is committed. -/
def ApprovedByAnother (log : GovernanceLog I) (t : GovernedTable) (row : RevisionRow) : Prop :=
  ∃ i user now, .committed i (.approve t row.entityId user now) () ∈ log ∧
    row.approvedBy = some user.userId ∧ some user.userId ≠ row.createdBy ∧
    some user.userId ≠ row.submittedBy ∧ user.role ∈ approverRoles

/-- The revision has the status in the committed tables. -/
def HasStatus (t : GovernedTable) (entityId : Uuid) (status : RevisionStatus)
    (s : GovernanceState I) : Prop :=
  ∃ row, (s.db.table t).find? entityId = some row ∧ row.status = status

/-- On the way from `s₀` to `s` the revision had these statuses, the latest first. -/
def Went (t : GovernedTable) (entityId : Uuid) (s₀ : GovernanceState I) :
    List RevisionStatus → GovernanceState I → Prop
  | [], s => ReflTransGen GovernanceStep s₀ s
  | status :: earlier, s =>
    ∃ s', Went t entityId s₀ earlier s' ∧ HasStatus t entityId status s' ∧
      ReflTransGen GovernanceStep s' s

/-- The statuses before a status, the latest first. -/
def RevisionStatus.earlier : RevisionStatus → List RevisionStatus
  | draft => []
  | pendingApproval => [draft]
  | active => [pendingApproval, draft]
  | deprecated => [active, pendingApproval, draft]

/-- What an entity went through is kept along a run. -/
theorem Went.run {t : GovernedTable} {entityId : Uuid} {s₀ s s' : GovernanceState I}
    {statuses : List RevisionStatus} (h : Went t entityId s₀ statuses s)
    (h_run : ReflTransGen GovernanceStep s s') : Went t entityId s₀ statuses s' := by
  cases statuses with
  | nil => exact ReflTransGen.trans h h_run
  | cons status earlier =>
    obtain ⟨s₁, h_went, h_status, h_to⟩ := h
    exact ⟨s₁, h_went, h_status, h_to.trans h_run⟩

/-! ### Invariants -/

theorem GovernanceDb.Supplied.inv {db : GovernanceDb} (h : db.Supplied) :
    governanceDiscipline.inv db := by
  refine ⟨h.unique, fun row h_row => ?_⟩
  have h_table := (h.systemTemplates .rulesets row h_row).1
  cases h_table

/-- What a step does to the committed tables and the log. -/
theorem governance_effect {s s' : GovernanceState I}
    (h : Reachable (TxnSystem.Initial GovernanceDb.Supplied) GovernanceStep s)
    (h_step : GovernanceStep s s') :
    TxnSystem.Effect governanceDiscipline GovernanceRequest.post (fun _ _ => True)
      s.db s.log s'.db s'.log :=
  TxnSystem.effect_of_step meets_program (fun _ => GovernanceDb.Supplied.inv) h h_step

/-- A step leaves a row alone, or commits a request that moves it. -/
theorem row_step {s s' : GovernanceState I}
    (h : Reachable (TxnSystem.Initial GovernanceDb.Supplied) GovernanceStep s)
    (h_step : GovernanceStep s s') (t : GovernedTable) (entityId : Uuid) :
    (s'.db.table t).find? entityId = (s.db.table t).find? entityId ∨
      ∃ request, RowMove request t entityId ((s.db.table t).find? entityId)
        ((s'.db.table t).find? entityId) := by
  have h_effect := governance_effect h h_step
  generalize s.db = db, s.log = log, s'.db = db', s'.log = log' at h_effect
  cases h_effect with
  | statement => exact .inl rfl
  | begun => exact .inl rfl
  | committed i r a _ _ _ _ _ _ h_post => exact .inr ⟨r, rowMove_of_post h_post t entityId⟩
  | rolledBack => exact .inl rfl

/-- ACTIVE rows of one scope are one row. -/
theorem eq_of_sameScope {db : GovernanceDb} (h : governanceDiscipline.inv db) {t : GovernedTable}
    {row row' : RevisionRow} (h_row : row ∈ (db.table t).rows) (h_row' : row' ∈ (db.table t).rows)
    (h_active : row.status = .active) (h_active' : row'.status = .active)
    (h_scope : SameScope t row row') : row = row' := by
  obtain ⟨h_unique, h_assets⟩ := h
  -- both rows have a key in the partial unique index, and it is one key
  suffices h_key : ∃ k, t.activeKey row = some k ∧ t.activeKey row' = some k by
    obtain ⟨k, hk, hk'⟩ := h_key
    exact (h_unique t).eq_of_mem h_row h_row' hk hk'
  have h_tenant : row.tenantId = row'.tenantId := by
    have h_column := h_scope .tenantId (by cases t <;> decide)
    exact Option.map_injective (fun _ _ => ScopeValue.uuid.inj) h_column
  simp only [GovernedTable.activeKey, h_active, h_active', ne_eq, not_true_eq_false, if_false]
  cases t with
  | rulesets =>
    have h_asset : row.assetId = row'.assetId :=
      Option.map_injective (fun _ _ => ScopeValue.uuid.inj) (h_scope .assetId (by decide))
    obtain ⟨assetId, h_some⟩ := Option.isSome_iff_exists.mp (h_assets row h_row)
    exact ⟨(row.tenantId, some assetId, none), by rw [h_some, Option.map_some],
      by rw [← h_asset, h_some, Option.map_some, h_tenant]⟩
  | policies => exact ⟨_, rfl, by rw [h_tenant]⟩
  | templates =>
    have h_code : row.templateCode = row'.templateCode :=
      Option.map_injective (fun _ _ => ScopeValue.text.inj) (h_scope .templateCode (by decide))
    exact ⟨_, rfl, by rw [h_tenant, h_code]⟩

/-- A revision of a tenant has been through the statuses before its own. -/
theorem went_of_run {s₀ s : GovernanceState I}
    (h₀ : TxnSystem.Initial GovernanceDb.Supplied s₀) (h_run : ReflTransGen GovernanceStep s₀ s)
    {t : GovernedTable} {entityId : Uuid} {row : RevisionRow}
    (h_find : (s.db.table t).find? entityId = some row) (h_tenant : row.tenantId ≠ none) :
    Went t entityId s₀ row.status.earlier s := by
  induction h_run generalizing row with
  | refl =>
    have h_row := (Table.find?_eq_some_iff.mp h_find).1
    exact absurd (h₀.1.systemTemplates t row h_row).2 h_tenant
  | @tail s₁ s₂ h_before h_last ih =>
    have h_reach : Reachable (TxnSystem.Initial GovernanceDb.Supplied) GovernanceStep s₁ :=
      ⟨s₀, h₀, h_before⟩
    have h_single := ReflTransGen.single h_last
    -- the statuses before, and then the one that the row leaves
    have h_leaves : ∀ {row₁ : RevisionRow}, (s₁.db.table t).find? entityId = some row₁ →
        row₁.tenantId ≠ none → Went t entityId s₀ (row₁.status :: row₁.status.earlier) s₂ :=
      fun h_find₁ h_tenant₁ => ⟨s₁, ih h_find₁ h_tenant₁, ⟨_, h_find₁, rfl⟩, h_single⟩
    rcases row_step h_reach h_last t entityId with h_same | ⟨request, h_move⟩
    · rw [h_same] at h_find
      exact (ih h_find h_tenant).run h_single
    · rw [h_find] at h_move
      generalize h_find₁ : (s₁.db.table t).find? entityId = found at h_move
      cases h_move with
      | same => exact (ih h_find₁ h_tenant).run h_single
      | created _ h_draft =>
        rw [h_draft]
        exact h_before.trans h_single
      | submitted row₁ user now _ _ h_draft =>
        have h_went := h_leaves h_find₁ h_tenant
        rwa [h_draft] at h_went
      | approved row₁ user now _ h_may =>
        have h_went := h_leaves h_find₁ h_tenant
        rwa [h_may.isPending] at h_went
      | superseded row₁ user now newId _ _ h_active =>
        have h_went := h_leaves h_find₁ h_tenant
        rwa [h_active] at h_went

/-- Approved revisions of tenants were approved by somebody else. -/
theorem approvedByAnother_of_reachable {s : GovernanceState I}
    (h : Reachable (TxnSystem.Initial GovernanceDb.Supplied) GovernanceStep s) :
    ∀ t entityId row, (s.db.table t).find? entityId = some row → row.tenantId ≠ none →
      row.status = .active → ApprovedByAnother s.log t row := by
  refine TxnSystem.committed_invariant (P := fun db log => ∀ t entityId row,
    (db.table t).find? entityId = some row → row.tenantId ≠ none → row.status = .active →
      ApprovedByAnother log t row) meets_program (fun _ => GovernanceDb.Supplied.inv) ?_ ?_ h
  · intro db h_supplied t entityId row h_find h_tenant
    have h_row := (Table.find?_eq_some_iff.mp h_find).1
    exact absurd (h_supplied.systemTemplates t row h_row).2 h_tenant
  · intro db log db' log' ih h_effect t entityId row h_find h_tenant h_active
    -- what was approved stays approved when the log grows
    have h_log : ∀ {e}, ApprovedByAnother log t row → ApprovedByAnother (e :: log) t row := by
      rintro e ⟨i, user, now, h_mem, h_rest⟩
      exact ⟨i, user, now, List.mem_cons_of_mem e h_mem, h_rest⟩
    cases h_effect with
    | statement => exact ih t entityId row h_find h_tenant h_active
    | begun => exact h_log (ih t entityId row h_find h_tenant h_active)
    | rolledBack => exact h_log (ih t entityId row h_find h_tenant h_active)
    | committed i request a _ _ _ _ _ _ h_post =>
      have h_move := rowMove_of_post h_post t entityId
      rw [h_find] at h_move
      generalize h_find₁ : (db.table t).find? entityId = found at h_move
      cases h_move with
      | same => exact h_log (ih t entityId row h_find₁ h_tenant h_active)
      | created _ h_draft =>
        rw [h_draft] at h_active
        cases h_active
      | submitted row₁ user now => cases h_active
      | superseded row₁ => cases h_active
      | approved row₁ user now h_request h_may =>
        have h_key : row₁.entityId = entityId := (Table.find?_eq_some_iff.mp h_find₁).2
        refine ⟨i, user, now, ?_, rfl, h_may.notCreator, h_may.notSubmitter, h_may.isApprover⟩
        rw [RevisionRow.activate_entityId, h_key, ← h_request]
        exact List.mem_cons_self

/-- A DEPRECATED revision stays DEPRECATED. -/
theorem deprecated_of_run {s s' : GovernanceState I}
    (h : Reachable (TxnSystem.Initial GovernanceDb.Supplied) GovernanceStep s)
    (h_run : ReflTransGen GovernanceStep s s') {t : GovernedTable} {entityId : Uuid}
    (h_deprecated : HasStatus t entityId .deprecated s) : HasStatus t entityId .deprecated s' := by
  induction h_run with
  | refl => exact h_deprecated
  | @tail s₁ s₂ h_before h_last ih =>
    obtain ⟨row, h_find, h_status⟩ := ih
    rcases row_step (h.run h_before) h_last t entityId with h_same | ⟨request, h_move⟩
    · exact ⟨row, h_same.trans h_find, h_status⟩
    · -- no move leaves DEPRECATED
      rw [h_find] at h_move
      generalize h_find₂ : (s₂.db.table t).find? entityId = found at h_move
      cases h_move with
      | same => exact ⟨row, h_find₂, h_status⟩
      | submitted _ _ _ _ _ h_draft =>
        rw [h_status] at h_draft
        cases h_draft
      | approved _ _ _ _ h_may =>
        have h_pending := h_may.isPending
        rw [h_status] at h_pending
        cases h_pending
      | superseded _ _ _ _ _ _ h_active =>
        rw [h_status] at h_active
        cases h_active

/-! ### The workflow -/

/-- `GENERAL_TABULAR_NON_NULL`, as the migrations supply it. -/
def systemTemplate : RevisionRow where
  entityId := Uuid.repeated 1
  tenantId := none
  templateCode := some "GENERAL_TABULAR_NON_NULL"
  status := .active
  createdBy := none

/-- The tables with one system template. -/
def suppliedDb : GovernanceDb where
  table t :=
    match t with
    | .templates => ⟨[systemTemplate], List.nodup_singleton _⟩
    | _ => Table.empty

/-- The supplied templates are active from the start. -/
theorem suppliedDb_supplied : suppliedDb.Supplied := by
  refine ⟨by decide, fun t row h_row => ?_⟩
  cases t with
  | rulesets => cases h_row
  | policies => cases h_row
  | templates =>
    obtain rfl := List.mem_singleton.mp h_row
    exact ⟨rfl, rfl⟩

/-- The workflow before any request. -/
def suppliedState : GovernanceState ℕ := ⟨suppliedDb, fun _ => none, []⟩

theorem suppliedState_initial : TxnSystem.Initial GovernanceDb.Supplied suppliedState :=
  ⟨suppliedDb_supplied, fun _ => rfl, rfl⟩

/-- A system template is ACTIVE without any approval: the migrations supply it so. -/
theorem system_template_not_approved :
    ¬ ∀ s₀ s : GovernanceState ℕ, TxnSystem.Initial GovernanceDb.Supplied s₀ →
      ReflTransGen GovernanceStep s₀ s →
      ∀ t, ∀ row ∈ (s.db.table t).rows, row.status = .active →
        Went t row.entityId s₀ [.active, .pendingApproval, .draft] s ∧
          ApprovedByAnother s.log t row := by
  intro h
  obtain ⟨-, i, user, now, h_mem, -⟩ := h suppliedState suppliedState suppliedState_initial
    .refl .templates systemTemplate List.mem_cons_self rfl
  cases h_mem

/-- **Four eyes.** In every interleaving each scope has at most one ACTIVE revision; every ACTIVE
revision of a tenant went through DRAFT and PENDING_APPROVAL and was approved by somebody with an
approver role who neither created nor submitted it; a DEPRECATED revision stays so; and a request
that is rolled back changes no row. -/
theorem approval_workflow {s₀ s : GovernanceState I}
    (h₀ : TxnSystem.Initial GovernanceDb.Supplied s₀) (h_run : ReflTransGen GovernanceStep s₀ s) :
    (∀ t, ∀ row ∈ (s.db.table t).rows, ∀ row' ∈ (s.db.table t).rows, row.status = .active →
      row'.status = .active → SameScope t row row' → row = row') ∧
    (∀ t, ∀ row ∈ (s.db.table t).rows, row.status = .active → row.tenantId ≠ none →
      Went t row.entityId s₀ [.active, .pendingApproval, .draft] s ∧
        ApprovedByAnother s.log t row) ∧
    (∀ s' t entityId, ReflTransGen GovernanceStep s s' → HasStatus t entityId .deprecated s →
      HasStatus t entityId .deprecated s') ∧
    (∀ s' i request error, GovernanceStep s s' →
      s'.log = .rolledBack i request error :: s.log → s'.db = s.db) := by
  have h_reach : Reachable (TxnSystem.Initial GovernanceDb.Supplied) GovernanceStep s :=
    ⟨s₀, h₀, h_run⟩
  have h_inv : governanceDiscipline.inv s.db :=
    (TxnSystem.follows_of_reachable meets_program (fun _ => GovernanceDb.Supplied.inv) h_reach).inv
  refine ⟨?_, ?_, ?_, ?_⟩
  · intro t row h_row row' h_row' h_active h_active' h_scope
    exact eq_of_sameScope h_inv h_row h_row' h_active h_active' h_scope
  · intro t row h_row h_active h_tenant
    have h_find : (s.db.table t).find? row.entityId = some row :=
      Table.find?_eq_some_iff.mpr ⟨h_row, rfl⟩
    have h_went := went_of_run h₀ h_run h_find h_tenant
    rw [h_active] at h_went
    exact ⟨⟨s, h_went, ⟨row, h_find, h_active⟩, .refl⟩,
      approvedByAnother_of_reachable h_reach t _ row h_find h_tenant h_active⟩
  · intro s' t entityId h_later h_deprecated
    exact deprecated_of_run h_reach h_later h_deprecated
  · intro s' i request error h_step h_log
    exact TxnSystem.db_of_rolledBack h_step h_log

/-- A policy that its author has submitted and a steward has approved. -/
theorem approval_workflow_policy :
    ∃ s : GovernanceState ℕ, (s.db.table .policies).rows.map RevisionRow.status = [.active] ∧
      ∀ t, ∀ row ∈ (s.db.table t).rows, row.status = .active → row.tenantId ≠ none →
        Went t row.entityId suppliedState [.active, .pendingApproval, .draft] s ∧
          ApprovedByAnother s.log t row := by
  let author : AuthenticatedUser := ⟨Uuid.repeated 2, Uuid.repeated 3, .dataEngineer⟩
  let steward : AuthenticatedUser := ⟨Uuid.repeated 4, Uuid.repeated 3, .dataSteward⟩
  have h_rows : ((governanceSystem ℕ).serial [(0, .createPolicy (Uuid.repeated 5) author),
      (1, .submit .policies (Uuid.repeated 5) author 0),
      (2, .approve .policies (Uuid.repeated 5) steward 1)] suppliedDb []).map
        (fun x => (x.1.table .policies).rows.map RevisionRow.status) = some [.active] := by
    decide
  obtain ⟨⟨db, log⟩, h_serial, h_status⟩ := Option.map_eq_some_iff.mp h_rows
  have h_run := TxnSystem.run_serial
    (TxnSystem.serialAllowed_of_forall (fun _ _ _ => trivial) _ _) h_serial
  exact ⟨_, h_status, (approval_workflow suppliedState_initial h_run).2.1⟩

end DqScoring
