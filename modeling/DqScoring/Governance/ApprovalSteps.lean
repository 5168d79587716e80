import DqScoring.Governance.Approval

/-!
# What each governance request commits

`governanceDiscipline` says what a row lock protects, and `meets_program` that each
transaction, run under the interference of the others, commits what
`GovernanceRequest.post` says of it. `RowMove` reads the postconditions row by row.
-/

namespace DqScoring

open Framework

/-! ### Postconditions -/

/-- The user may approve the revision. -/
structure RevisionRow.MayApprove (row : RevisionRow) (user : AuthenticatedUser) : Prop where
  sameTenant : row.tenantId = some user.tenantId
  isPending : row.status = .pendingApproval
  notCreator : some user.userId ≠ row.createdBy
  notSubmitter : some user.userId ≠ row.submittedBy
  isApprover : user.role ∈ approverRoles

/-- A table after an approval. -/
def approvedTable (t : GovernedTable) (record : RevisionRow) (ids : List Uuid)
    (user : AuthenticatedUser) (now : Time) (rows : Table RevisionRow.entityId) :
    Table RevisionRow.entityId :=
  (rows.updateWhere (supersededBy t record ids) RevisionRow.deprecate
    RevisionRow.deprecate_entityId).update record.entityId (RevisionRow.activate user now)
      (RevisionRow.activate_entityId user now)

/-- What the commit of a request does to the tables. -/
def GovernanceRequest.post (request : GovernanceRequest) (_ : Unit) (db db' : GovernanceDb) :
    Prop :=
  match request with
  | createRuleset rulesetId assetId user =>
    -- what is created is a draft of the user
    ∃ rows, (db.table .rulesets).insert (draftRow rulesetId (some assetId) none user) = some rows
      ∧ db' = db.set .rulesets rows
  | createPolicy policyId user =>
    ∃ rows, (db.table .policies).insert (draftRow policyId none none user) = some rows
      ∧ db' = db.set .policies rows
  | importTemplate templateId templateCode user =>
    ∃ rows, (db.table .templates).insert (draftRow templateId none (some templateCode) user)
      = some rows ∧ db' = db.set .templates rows
  | submit t entityId user now =>
    -- a submission moves one row of the tenant
    ∃ row, (db.table t).find? entityId = some row ∧ row.tenantId = some user.tenantId
      ∧ row.status = .draft
      ∧ db' = db.set t ((db.table t).update entityId (RevisionRow.submit user now)
        (RevisionRow.submit_entityId user now))
  | approve t entityId user now =>
    -- an approval activates one row and deprecates others
    ∃ record ids, (db.table t).find? entityId = some record ∧ record.MayApprove user
      ∧ db' = db.set t (approvedTable t record ids user now (db.table t))

/-! ### The discipline of the row locks -/

/-- Every ruleset has an asset. -/
def GovernanceDb.RulesetsHaveAssets (db : GovernanceDb) : Prop :=
  ∀ r ∈ (db.table .rulesets).rows, r.assetId.isSome

/-- A locked row is changed by the holder of its lock only. -/
def governanceDiscipline : Discipline GovernanceDb (GovernedTable × Uuid) where
  inv db := db.UniqueActive ∧ db.RulesetsHaveAssets
  grow _ _ := True
  same l db db' := ∀ row, (db.table l.1).find? l.2 = some row → (db'.table l.1).find? l.2 = some row
  grow_refl _ := trivial
  grow_trans _ _ := trivial
  same_refl _ _ _ := id
  same_trans h h' row := h' row ∘ h row

@[simp] theorem GovernanceDb.table_set (db : GovernanceDb) (t t' : GovernedTable)
    (rows : Table RevisionRow.entityId) :
    (db.set t rows).table t' = if t' = t then rows else db.table t' := by
  simp only [set, Function.update_apply]

theorem GovernanceDb.set_set (db : GovernanceDb) (t : GovernedTable)
    (rows rows' : Table RevisionRow.entityId) : (db.set t rows).set t rows' = db.set t rows' := by
  simp [set]

/-- The unique index refuses a second active revision. -/
theorem GovernanceDb.checked_eq_some_iff {db db' : GovernanceDb} :
    db.checked = some db' ↔ db.UniqueActive ∧ db' = db := by
  unfold checked
  by_cases h : db.UniqueActive
  · rw [if_pos h]
    exact ⟨fun h' => ⟨h, (Option.some.inj h').symm⟩, fun h' => by rw [h'.2]⟩
  · rw [if_neg h]
    constructor
    · intro h'
      cases h'
    · exact fun h' => absurd h'.1 h

/-! ### Every transaction meets its postcondition -/

section Meets

variable {held : List (GovernedTable × Uuid)} {db db' : GovernanceDb}

/-- Inserting a row keeps the rows that others may have locked. -/
theorem meets_insertDraft (t : GovernedTable) (row : RevisionRow)
    (h_asset : t = .rulesets → row.assetId.isSome) :
    governanceDiscipline.Meets (insertDraft t row) fun _ db db' =>
      ∃ rows, (db.table t).insert row = some rows ∧ db' = db.set t rows := by
  intro db h_inv
  simp only [insertDraft, Discipline.wp_exec]
  intro db₁ h₁ db' h_db'
  obtain ⟨h_unique, h_assets⟩ := h₁.inv h_inv
  simp only [Option.bind_some, Option.bind_eq_bind, Option.bind_eq_some_iff] at h_db'
  obtain ⟨rows, h_rows, h_checked⟩ := h_db'
  obtain ⟨h_unique', rfl⟩ := GovernanceDb.checked_eq_some_iff.mp h_checked
  refine ⟨⟨⟨h_unique', ?_⟩, trivial, ?_⟩, rows, h_rows, rfl⟩
  · intro r hr
    rw [GovernanceDb.table_set] at hr
    by_cases ht : GovernedTable.rulesets = t
    · rw [if_pos ht] at hr
      subst ht
      rw [Table.rows_of_insert h_rows, List.mem_append, List.mem_singleton] at hr
      rcases hr with hr | rfl
      · exact h_assets r hr
      · exact h_asset rfl
    · rw [if_neg ht] at hr
      exact h_assets r hr
  · rintro ⟨t', id⟩ - row' h_find
    show ((db₁.set t rows).table t').find? id = some row'
    rw [GovernanceDb.table_set]
    by_cases ht : t' = t
    · subst ht
      rw [if_pos rfl, Table.find?_of_insert h_rows, if_neg]
      · exact h_find
      · -- the key of the new row was free
        rintro rfl
        have h_free := Table.find?_none_of_insert h_rows
        rw [show (db₁.table t').find? row.entityId = some row' from h_find] at h_free
        cases h_free
    · rw [if_neg ht]
      exact h_find

/-- What a transaction knows once it has loaded a record for update. -/
theorem wp_loadForUpdate {t : GovernedTable} {entityId : Uuid} {user : AuthenticatedUser}
    {K : RevisionRow → List (GovernedTable × Uuid) → (GovernanceDb → Option GovernanceDb) →
      GovernanceDb → Prop}
    (h : ∀ db' record, governanceDiscipline.rely held db db' →
      (db'.table t).find? entityId = some record → record.tenantId = some user.tenantId →
      K record ((t, entityId) :: held) some db') :
    governanceDiscipline.wp (loadForUpdate t entityId user) K held some db := by
  simp only [loadForUpdate, Discipline.wp_bind, Discipline.wp_forUpdate, Discipline.wp_select]
  rintro db₁ h₁ db₂ h₂ view ⟨⟩
  have h_rely : governanceDiscipline.rely held db db₂ :=
    h₁.trans (h₂.mono fun l hl => List.mem_cons_of_mem _ hl)
  cases h_find : (db₂.table t).find? entityId with
  | none => exact Discipline.wp_raise _
  | some record =>
    show governanceDiscipline.wp (ite _ _ _) K _ some db₂
    split
    · exact Discipline.wp_raise _
    · rename_i h_tenant
      exact h db₂ record h_rely h_find (not_not.mp h_tenant)

/-- What a transaction has done once it has moved a row it expected in one status. -/
theorem wp_transition {t : GovernedTable} {entityId : Uuid} {expected : RevisionStatus}
    {assign : RevisionRow → RevisionRow} {h_assign : ∀ r, (assign r).entityId = r.entityId}
    {K : Unit → List (GovernedTable × Uuid) → (GovernanceDb → Option GovernanceDb) →
      GovernanceDb → Prop} {writes : GovernanceDb → Option GovernanceDb}
    (h : ∀ db', governanceDiscipline.rely held db db' →
      K () ((t, entityId) :: held)
        (fun db => (writes db).bind fun v =>
          (v.set t ((v.table t).update entityId assign h_assign)).checked) db') :
    governanceDiscipline.wp (transition t entityId expected assign h_assign) K held writes db := by
  simp only [transition, Discipline.wp_bind, Discipline.wp_forUpdate, Discipline.wp_select]
  intro db₁ h₁ db₂ h₂ view _
  have h_rely : governanceDiscipline.rely held db db₂ :=
    h₁.trans (h₂.mono fun l hl => List.mem_cons_of_mem _ hl)
  split
  · exact h db₂ h_rely
  · exact Discipline.wp_raise _

/-- An update of some rows of a table keeps the rows it does not take. -/
theorem same_of_updateWhere {t : GovernedTable} {p : RevisionRow → Bool}
    {f : RevisionRow → RevisionRow} {hf : ∀ r, (f r).entityId = r.entityId}
    {l : GovernedTable × Uuid} (hp : l.1 = t → ∀ r, (db.table t).find? l.2 = some r → p r = false) :
    governanceDiscipline.same l db (db.set t ((db.table t).updateWhere p f hf)) := by
  obtain ⟨t', id⟩ := l
  intro row (h_find : (db.table t').find? id = some row)
  show ((db.set t _).table t').find? id = some row
  rw [GovernanceDb.table_set]
  by_cases ht : t' = t
  · subst ht
    rw [if_pos rfl, Table.find?_updateWhere, h_find, Option.map_some, hp rfl row h_find,
      if_neg Bool.false_ne_true]
  · rw [if_neg ht]
    exact h_find

/-- An update touches the locked row only. -/
theorem same_of_update {t : GovernedTable} {entityId : Uuid} {f : RevisionRow → RevisionRow}
    {hf : ∀ r, (f r).entityId = r.entityId} {l : GovernedTable × Uuid} (hl : l ≠ (t, entityId)) :
    governanceDiscipline.same l db (db.set t ((db.table t).update entityId f hf)) := by
  refine same_of_updateWhere fun ht r h_find => ?_
  have h_key : r.entityId = l.2 := (Table.find?_eq_some_iff.mp h_find).2
  rw [decide_eq_false_iff_not, h_key]
  intro h_id
  exact hl (Prod.ext ht h_id)

/-- Updates keep the assets of rulesets. -/
theorem GovernanceDb.RulesetsHaveAssets.updateWhere (h : db.RulesetsHaveAssets) {t : GovernedTable}
    {p : RevisionRow → Bool} {f : RevisionRow → RevisionRow}
    {hf : ∀ r, (f r).entityId = r.entityId} (hf_asset : ∀ r, (f r).assetId = r.assetId) :
    (db.set t ((db.table t).updateWhere p f hf)).RulesetsHaveAssets := by
  intro r hr
  rw [table_set] at hr
  by_cases ht : GovernedTable.rulesets = t
  · subst ht
    rw [if_pos rfl] at hr
    obtain ⟨r₀, hr₀, rfl⟩ := List.mem_map.mp hr
    split
    · rw [hf_asset]
      exact h r₀ hr₀
    · exact h r₀ hr₀
  · rw [if_neg ht] at hr
    exact h r hr

/-- A submission makes a draft pending, or is refused. -/
theorem meets_submit (t : GovernedTable) (entityId : Uuid) (user : AuthenticatedUser)
    (now : Time) :
    governanceDiscipline.Meets (submitForApproval t entityId user now)
      (GovernanceRequest.submit t entityId user now).post := by
  intro db h_inv
  rw [submitForApproval, Discipline.wp_bind]
  refine wp_loadForUpdate fun db₁ record h₁ h_find h_tenant => ?_
  split
  · exact Discipline.wp_raise _
  rename_i h_draft
  refine wp_transition fun db₂ h₂ db₃ h₃ db' h_db' => ?_
  -- the row is locked, so it is the record still
  have h_find₃ : (db₃.table t).find? entityId = some record :=
    (h₂.trans (h₃.mono fun l hl => List.mem_cons_of_mem _ hl)).same (t, entityId)
      List.mem_cons_self record h_find
  obtain ⟨-, h_assets⟩ := h₃.inv (h₂.inv (h₁.inv h_inv))
  obtain ⟨h_unique, rfl⟩ := GovernanceDb.checked_eq_some_iff.mp h_db'
  refine ⟨⟨⟨h_unique, h_assets.updateWhere fun _ => rfl⟩, trivial, ?_⟩,
    record, h_find₃, h_tenant, not_not.mp h_draft, rfl⟩
  intro l hl
  exact same_of_update fun h_eq => hl (h_eq ▸ List.mem_cons_self)

/-- What a transaction has done once it has superseded the ACTIVE revisions of a scope. -/
theorem wp_supersede {t : GovernedTable} {record : RevisionRow}
    {K : Unit → List (GovernedTable × Uuid) → (GovernanceDb → Option GovernanceDb) →
      GovernanceDb → Prop}
    (h : ∀ db' ids, governanceDiscipline.rely held db db' →
      K () (((ids.map fun id => (t, id))).reverse ++ held)
        (fun db => some (db.set t ((db.table t).updateWhere (supersededBy t record ids)
          RevisionRow.deprecate RevisionRow.deprecate_entityId))) db') :
    governanceDiscipline.wp (supersede t record) K held some db := by
  simp only [supersede, Discipline.wp_bind, Discipline.wp_select]
  rintro db₁ h₁ view ⟨⟩
  refine Discipline.wp_forUpdateAll fun db₂ h₂ => ?_
  have h_end := h db₂ (((db₁.table t).rows.filter fun r =>
    decide (r.status = .active) && t.inScope record r).map RevisionRow.entityId) (h₁.trans h₂)
  rwa [List.map_map] at h_end

/-- An approval by somebody else activates the revision and archives the one before. -/
theorem meets_approve (t : GovernedTable) (entityId : Uuid) (user : AuthenticatedUser)
    (now : Time) :
    governanceDiscipline.Meets (approve t entityId user now)
      (GovernanceRequest.approve t entityId user now).post := by
  intro db h_inv
  rw [approve, Discipline.wp_bind]
  -- the record is loaded under its lock
  refine wp_loadForUpdate fun db₁ record h₁ h_find h_tenant => ?_
  cases h_status : record.status with
  -- only a pending record can be approved
  | draft => exact Discipline.wp_raise _
  | active => exact Discipline.wp_raise _
  | deprecated => exact Discipline.wp_raise _
  | pendingApproval =>
    show governanceDiscipline.wp (ite _ _ (ite _ _ _)) _ _ some db₁
    split
    · exact Discipline.wp_raise _
    rename_i h_independent
    -- a creator may not approve, nor somebody of another tenant
    split
    · exact Discipline.wp_raise _
    rename_i h_role
    rw [not_or] at h_independent
    rw [Discipline.wp_bind]
    -- the active revisions in scope are locked, then all of them change in one statement
    refine wp_supersede fun db₂ ids h₂ => wp_transition fun db₃ h₃ db₄ h₄ db' h_db' => ?_
    have h_key : record.entityId = entityId := (Table.find?_eq_some_iff.mp h_find).2
    -- the row was locked first, so it is the record still
    have h_find₄ : (db₄.table t).find? entityId = some record := by
      have h_rely₂ := h₂.trans (h₃.mono fun l hl => List.mem_append_right _ hl)
      have h_rely := h_rely₂.trans (h₄.mono fun l hl =>
        List.mem_cons_of_mem _ (List.mem_append_right _ hl))
      exact h_rely.same (t, entityId) List.mem_cons_self record h_find
    obtain ⟨-, h_assets⟩ := h₄.inv (h₃.inv (h₂.inv (h₁.inv h_inv)))
    -- the unique index accepts one active revision only
    obtain ⟨h_unique, rfl⟩ := GovernanceDb.checked_eq_some_iff.mp h_db'
    have h_table : (db₄.set t ((db₄.table t).updateWhere (supersededBy t record ids)
        RevisionRow.deprecate RevisionRow.deprecate_entityId)).table t
        = (db₄.table t).updateWhere (supersededBy t record ids)
          RevisionRow.deprecate RevisionRow.deprecate_entityId := by
      rw [GovernanceDb.table_set, if_pos rfl]
    have h_assets' : (db₄.set t ((db₄.table t).updateWhere (supersededBy t record ids)
        RevisionRow.deprecate RevisionRow.deprecate_entityId)).RulesetsHaveAssets :=
      h_assets.updateWhere fun _ => rfl
    refine ⟨⟨⟨h_unique, h_assets'.updateWhere fun _ => rfl⟩, trivial, ?_⟩, record, ids, h_find₄,
      ⟨h_tenant, h_status, h_independent.1, h_independent.2, not_not.mp h_role⟩, ?_⟩
    · intro l hl
      -- the rows changed are locked: the superseded ones and the record
      refine governanceDiscipline.same_trans (same_of_updateWhere fun ht r h_row => ?_)
        (same_of_update fun h_eq => hl (h_eq ▸ List.mem_cons_self))
      by_contra h_taken
      rw [Bool.not_eq_false, supersededBy, Bool.and_eq_true, Bool.and_eq_true,
        decide_eq_true_eq] at h_taken
      have h_id : r.entityId = l.2 := (Table.find?_eq_some_iff.mp h_row).2
      refine hl (List.mem_cons_of_mem _ (List.mem_append_left _ (List.mem_reverse.mpr ?_)))
      exact List.mem_map.mpr ⟨l.2, h_id ▸ h_taken.1.1, Prod.ext ht.symm rfl⟩
    · rw [h_table, GovernanceDb.set_set, approvedTable, h_key]

end Meets

/-- Every request meets its postcondition. -/
theorem meets_program (request : GovernanceRequest) :
    governanceDiscipline.Meets request.program request.post := by
  cases request with
  | createRuleset rulesetId assetId user => exact meets_insertDraft _ _ fun _ => rfl
  | createPolicy policyId user => exact meets_insertDraft _ _ fun h => by cases h
  | importTemplate templateId templateCode user => exact meets_insertDraft _ _ fun h => by cases h
  | submit t entityId user now => exact meets_submit t entityId user now
  | approve t entityId user now => exact meets_approve t entityId user now

/-! ### Row by row -/

/-- What the commit of a request does to the row of a key. -/
inductive RowMove (request : GovernanceRequest) (t : GovernedTable) (entityId : Uuid) :
    Option RevisionRow → Option RevisionRow → Prop
  | same (row) : RowMove request t entityId row row
  | created (row) : row.status = .draft → RowMove request t entityId none (some row)
  | submitted (row user now) : request = .submit t entityId user now →
      row.tenantId = some user.tenantId → row.status = .draft →
      RowMove request t entityId (some row) (some (row.submit user now))
  | approved (row user now) : request = .approve t entityId user now → row.MayApprove user →
      RowMove request t entityId (some row) (some (row.activate user now))
  | superseded (row user now newId) : request = .approve t newId user now →
      row.tenantId = some user.tenantId → row.status = .active →
      RowMove request t entityId (some row) (some row.deprecate)

/-- The superseding UPDATE takes rows of the tenant of the new revision. -/
theorem inScope_tenantId {t : GovernedTable} {record row : RevisionRow}
    (h : t.inScope record row = true) : row.tenantId.isSome ∧ row.tenantId = record.tenantId := by
  have h_column : sqlEq (row.scopeValue .tenantId) (record.scopeValue .tenantId) = true := by
    refine List.all_eq_true.mp h .tenantId ?_
    cases t <;> decide
  simp only [RevisionRow.scopeValue] at h_column
  cases h_row : row.tenantId with
  | none =>
    rw [h_row] at h_column
    cases h_column
  | some u =>
    cases h_record : record.tenantId with
    | none =>
      rw [h_row, h_record] at h_column
      cases h_column
    | some u' =>
      rw [h_row, h_record] at h_column
      simp only [sqlEq, Option.map_some, Option.any_some, decide_eq_true_eq,
        ScopeValue.uuid.injEq] at h_column
      exact ⟨rfl, congrArg some h_column⟩

/-- An inserted row is the move of its key, and of no other. -/
private theorem rowMove_of_insert {request : GovernanceRequest} {db : GovernanceDb}
    {t₀ t : GovernedTable} {row : RevisionRow} {rows : Table RevisionRow.entityId}
    (h_insert : (db.table t₀).insert row = some rows) (h_draft : row.status = .draft)
    (entityId : Uuid) :
    RowMove request t entityId ((db.table t).find? entityId)
      (((db.set t₀ rows).table t).find? entityId) := by
  rw [GovernanceDb.table_set]
  by_cases ht : t = t₀
  · subst ht
    rw [if_pos rfl, Table.find?_of_insert h_insert]
    by_cases h_key : entityId = row.entityId
    · rw [if_pos h_key, h_key, Table.find?_none_of_insert h_insert]
      exact .created row h_draft
    · rw [if_neg h_key]
      exact .same _
  · rw [if_neg ht]
    exact .same _

/-- Every commit moves each row as `RowMove` says. -/
theorem rowMove_of_post {request : GovernanceRequest} {db db' : GovernanceDb}
    (h : request.post () db db') (t : GovernedTable) (entityId : Uuid) :
    RowMove request t entityId ((db.table t).find? entityId) ((db'.table t).find? entityId) := by
  cases request with
  | createRuleset rulesetId assetId user =>
    obtain ⟨rows, h_insert, rfl⟩ := h
    exact rowMove_of_insert h_insert rfl entityId
  | createPolicy policyId user =>
    obtain ⟨rows, h_insert, rfl⟩ := h
    exact rowMove_of_insert h_insert rfl entityId
  | importTemplate templateId templateCode user =>
    obtain ⟨rows, h_insert, rfl⟩ := h
    exact rowMove_of_insert h_insert rfl entityId
  | submit t₀ id user now =>
    -- only the submitted row changes
    obtain ⟨row, h_find, h_tenant, h_draft, rfl⟩ := h
    rw [GovernanceDb.table_set]
    by_cases ht : t = t₀
    · subst ht
      rw [if_pos rfl, Table.find?_update]
      by_cases h_id : entityId = id
      · subst h_id
        rw [if_pos rfl, h_find]
        exact .submitted row user now rfl h_tenant h_draft
      · rw [if_neg h_id]
        exact .same _
    · rw [if_neg ht]
      exact .same _
  | approve t₀ id user now =>
    -- the approved row becomes active
    obtain ⟨record, ids, h_find, h_may, rfl⟩ := h
    have h_key : record.entityId = id := (Table.find?_eq_some_iff.mp h_find).2
    rw [GovernanceDb.table_set]
    by_cases ht : t = t₀
    · subst ht
      rw [if_pos rfl, approvedTable, Table.find?_update, Table.find?_updateWhere,
        Table.find?_updateWhere, h_key]
      by_cases h_id : entityId = id
      · -- the record is pending, so it is not one of the superseded rows
        subst h_id
        have h_kept : ¬ supersededBy t record ids record = true := by
          intro h_taken
          rw [supersededBy, Bool.and_eq_true, Bool.and_eq_true, decide_eq_true_eq,
            decide_eq_true_eq, h_may.isPending] at h_taken
          exact RevisionStatus.noConfusion h_taken.1.2
        rw [if_pos rfl, h_find, Option.map_some, if_neg h_kept, Option.map_some]
        exact .approved record user now rfl h_may
      · rw [if_neg h_id]
        -- another row is archived if it is in scope and active
        cases h_row : (db.table t).find? entityId with
        | none => exact .same none
        | some row =>
          rw [Option.map_some]
          split
          · rename_i h_taken
            rw [supersededBy, Bool.and_eq_true, Bool.and_eq_true, decide_eq_true_eq,
              decide_eq_true_eq] at h_taken
            have h_tenant := (inScope_tenantId h_taken.2).2
            exact .superseded row user now id rfl (h_tenant.trans h_may.sameTenant) h_taken.1.2
          · exact .same _
    · rw [if_neg ht]
      exact .same _

end DqScoring
