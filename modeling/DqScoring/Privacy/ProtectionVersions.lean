import DqScoring.Workspace.System

/-!
# Protection versions

The protection version of an asset counts the accepted changes of its protection: the
classifications and the policy of the asset, the decisions on its findings, and the
submission and the publication of APPLY scans of its snapshots. A client that sends the
version it has read is refused when it has read an old one, so no change is lost
(`protection_versions`).
-/

namespace DqScoring

open Framework Relation

/-- The commit of a request is an accepted change of the protection of an asset. -/
inductive AcceptedChange (db : Workspace) (assetId : Uuid) :
    WorkspaceRequest → WorkspaceResult → Prop
  | classified (userId payload result) :
      AcceptedChange db assetId (.protection (.classify userId assetId payload)) result
  | policySet (expectedVersion categories result) :
      AcceptedChange db assetId (.protection (.setPolicy assetId expectedVersion categories)) result
  | reviewed (userId findingId expectedStatus newStatus reason result) :
      db.assetOfFinding findingId = some assetId →
      AcceptedChange db assetId
        (.protection (.review userId findingId expectedStatus newStatus reason)) result
  | queued (snapshotId scanId now job snapshot) :
      db.snapshots.find? snapshotId = some snapshot → snapshot.assetId = assetId →
      AcceptedChange db assetId (.scan (.create snapshotId .apply scanId now))
        (.scan (.submitted (.queued job)))
  | published (workerId claim findings now snapshot) : claim.purpose = .apply →
      db.snapshots.find? claim.snapshotId = some snapshot → snapshot.assetId = assetId →
      AcceptedChange db assetId (.scan (.publish workerId claim findings now))
        (.scan (.published true))

section Versions

variable {db db' : Workspace} {assetId : Uuid}

/-- The version of an asset is in its revision row. -/
theorem protectionVersion_congr (h : db'.revisions = db.revisions) :
    db'.protectionVersion assetId = db.protectionVersion assetId := by
  rw [Workspace.protectionVersion, Workspace.protectionVersion, h]

/-- The version of an asset goes up by one, that of any other stays. -/
theorem protectionVersion_of_bumped {id : Uuid} (h : db'.revisions = db.bumped id) :
    db'.protectionVersion assetId
      = if assetId = id then db.protectionVersion assetId + 1
        else db.protectionVersion assetId := by
  rw [Workspace.protectionVersion, h, Workspace.find?_bumped]
  by_cases h_id : assetId = id
  · subst h_id
    rw [if_pos rfl, if_pos rfl]
    rfl
  · rw [if_neg h_id, if_neg h_id]
    rfl

/-- What a request does to the version of an asset. -/
def CountsChange (db : Workspace) (assetId : Uuid) (request : WorkspaceRequest)
    (result : WorkspaceResult) (db' : Workspace) : Prop :=
  AcceptedChange db assetId request result ∧
      db'.protectionVersion assetId = db.protectionVersion assetId + 1 ∨
    ¬ AcceptedChange db assetId request result ∧
      db'.protectionVersion assetId = db.protectionVersion assetId

/-- A request that counts the version of one asset up is a change of that asset. -/
theorem countsChange_of_bumped {request : WorkspaceRequest} {result : WorkspaceResult} {id : Uuid}
    (h : db'.revisions = db.bumped id)
    (h_iff : AcceptedChange db assetId request result ↔ assetId = id) :
    CountsChange db assetId request result db' := by
  rw [CountsChange, protectionVersion_of_bumped h, h_iff]
  by_cases h_id : assetId = id
  · rw [if_pos h_id]
    exact .inl ⟨h_id, rfl⟩
  · rw [if_neg h_id]
    exact .inr ⟨h_id, rfl⟩

/-- What each scan request does to the version of an asset. -/
theorem countsChange_of_scanPost {request : ScanRequest} {result : ScanResult}
    (h : ScanPost request result db db') :
    CountsChange db assetId (.scan request) (.scan result) db' := by
  -- no row of revisions is written
  have h_same : ∀ {db₁ : Workspace}, db₁.revisions = db.revisions →
      ¬ AcceptedChange db assetId (.scan request) (.scan result) →
      CountsChange db assetId (.scan request) (.scan result) db₁ :=
    fun h_eq h_not => .inr ⟨h_not, protectionVersion_congr h_eq⟩
  -- or the missing row of revision zero at most
  have h_ensured : ∀ {db₁ : Workspace} {id : Uuid},
      db₁.revisions = (db.ensureRevision id).revisions →
      ¬ AcceptedChange db assetId (.scan request) (.scan result) →
      CountsChange db assetId (.scan request) (.scan result) db₁ := by
    intro db₁ id h_eq h_not
    refine .inr ⟨h_not, ?_⟩
    rw [protectionVersion_congr h_eq, Workspace.protectionVersion_ensureRevision]
  cases h with
  | submitted snapshotId selection _ _ _ _ _ h_submitted =>
    cases h_submitted with
    | inProgress => exact h_ensured rfl (by rintro ⟨⟩)
    | queued snapshot pin rows h_snapshot =>
      -- only a scan to be applied is a change
      cases selection with
      | apply =>
        refine countsChange_of_bumped rfl ⟨fun h_change => ?_, fun h_id => ?_⟩
        · cases h_change with
          | queued _ _ _ _ _ h_snapshot' h_asset =>
            rw [h_snapshot] at h_snapshot'
            obtain rfl := Option.some.inj h_snapshot'
            exact h_asset.symm
        · exact .queued _ _ _ _ snapshot h_snapshot h_id.symm
      | preview => exact h_ensured rfl (by rintro ⟨⟩)
  | claimed _ _ _ _ _ _ _ h_claimed => cases h_claimed <;> exact h_same rfl (by rintro ⟨⟩)
  | extended _ _ _ _ _ _ _ _ h_updated =>
    rw [h_updated.frame]
    exact h_same rfl (by rintro ⟨⟩)
  | loaded => exact h_same rfl (by rintro ⟨⟩)
  | published _ claim _ _ _ _ _ h_published =>
    -- and only its publication
    cases h_published with
    | gone => exact h_same rfl (by rintro ⟨⟩)
    | lost => exact h_ensured rfl (by rintro ⟨⟩)
    | preview _ _ _ _ _ h_purpose =>
      refine h_ensured rfl fun h_change => ?_
      cases h_change with
      | published _ _ _ _ _ h_apply =>
        rw [h_purpose] at h_apply
        cases h_apply
    | applied snapshot _ _ _ h_snapshot _ _ h_purpose =>
      refine countsChange_of_bumped rfl ⟨fun h_change => ?_, fun h_id => ?_⟩
      · cases h_change with
        | published _ _ _ _ _ _ h_snapshot' h_asset =>
          rw [h_snapshot] at h_snapshot'
          obtain rfl := Option.some.inj h_snapshot'
          exact h_asset.symm
      · exact .published _ _ _ _ snapshot h_purpose h_snapshot h_id.symm
  | failed _ _ _ _ _ _ _ h_updated =>
    -- a failure leaves the revisions alone
    rw [h_updated.frame]
    exact h_same rfl (by rintro ⟨⟩)

/-- What each protection request does to the version of an asset. -/
theorem countsChange_of_protectionPost {request : ProtectionRequest} {result : ProtectionResult}
    (h : ProtectionPost request db db') :
    CountsChange db assetId (.protection request) (.protection result) db' := by
  cases h with
  | classified _ id _ _ _ h_updated =>
    obtain ⟨rows, rfl⟩ := h_updated.writes
    refine countsChange_of_bumped rfl ⟨fun h_change => ?_, ?_⟩
    · cases h_change
      rfl
    · rintro rfl
      exact .classified _ _ _
  | policySet id _ _ _ _ h_updated =>
    obtain ⟨rows, rfl⟩ := h_updated.writes
    refine countsChange_of_bumped rfl ⟨fun h_change => ?_, ?_⟩
    · cases h_change
      rfl
    · rintro rfl
      exact .policySet _ _ _
  | reviewed _ _ _ _ _ id _ _ h_reviewed =>
    rw [h_reviewed.writes]
    refine countsChange_of_bumped rfl ⟨fun h_change => ?_, ?_⟩
    · cases h_change with
      | reviewed _ _ _ _ _ _ h_asset =>
        rw [h_reviewed.asset] at h_asset
        exact (Option.some.inj h_asset).symm
    · rintro rfl
      exact .reviewed _ _ _ _ _ _ h_reviewed.asset
  | resolved => exact .inr ⟨by rintro ⟨⟩, rfl⟩
  | policyRead => exact .inr ⟨by rintro ⟨⟩, rfl⟩

/-- **Counting.** Each accepted change counts the version of its asset up, and nothing else does. -/
theorem countsChange_of_post {request : WorkspaceRequest} {result : WorkspaceResult}
    (h : WorkspacePost request result db db') : CountsChange db assetId request result db' := by
  cases h with
  | rule _ _ _ _ h_rule =>
    rw [h_rule.frame]
    exact .inr ⟨by rintro ⟨⟩, rfl⟩
  | scan _ _ _ _ h_scan => exact countsChange_of_scanPost h_scan
  | protection _ _ _ _ h_protection => exact countsChange_of_protectionPost h_protection
  | importing _ _ _ _ h_import =>
    rw [h_import.frame]
    exact .inr ⟨by rintro ⟨⟩, rfl⟩

end Versions

/-! ### Steps and runs -/

/-- A step commits an accepted change of the protection of an asset. -/
def CommitsChange (assetId : Uuid) (s s' : WorkspaceState) : Prop :=
  ∃ i request result, s'.log = .committed i request result :: s.log ∧
    AcceptedChange s.db assetId request result

/-- What a step does to the protection version of an asset. -/
structure ProtectionStep (assetId : Uuid) (s s' : WorkspaceState) : Prop where
  changed : CommitsChange assetId s s' →
    s'.db.protectionVersion assetId = s.db.protectionVersion assetId + 1
  unchanged : ¬ CommitsChange assetId s s' →
    s'.db.protectionVersion assetId = s.db.protectionVersion assetId
  /-- A rejected request changes nothing. -/
  rejected : ∀ i request error, s'.log = .rolledBack i request error :: s.log → s'.db = s.db

/-- What one step does to the version of an asset, said once. -/
theorem protectionStep (assetId : Uuid) {s s' : WorkspaceState}
    (h : WorkspaceReachable Workspace.WellFormed s)
    (h_step : TxnSystem.Step workspaceSystem s s') : ProtectionStep assetId s s' := by
  obtain ⟨db, opened, log⟩ := s
  obtain ⟨db', opened', log'⟩ := s'
  have h_effect : WorkspaceEffect db log db' log' := workspace_effect (fun _ => id) h h_step
  refine ⟨?_, ?_, fun i request error h_log => TxnSystem.db_of_rolledBack h_step h_log⟩
  · rintro ⟨i, request, result, (rfl : log' = _), h_change⟩
    cases h_effect with
    | committed _ _ _ _ _ _ _ _ _ h_post =>
      rcases countsChange_of_post h_post with ⟨-, h_version⟩ | ⟨h_not, -⟩
      · exact h_version
      · exact absurd h_change h_not
  · intro h_not
    cases h_effect with
    | committed i request result _ _ _ _ _ _ h_post =>
      rcases countsChange_of_post h_post with ⟨h_change, -⟩ | ⟨-, h_version⟩
      · exact absurd ⟨i, request, result, rfl, h_change⟩ h_not
      · exact h_version
    | _ => rfl

/-- Versions never decrease. -/
theorem protectionVersion_le_of_run (assetId : Uuid) {s s' : WorkspaceState}
    (h : WorkspaceReachable Workspace.WellFormed s)
    (h_run : ReflTransGen (TxnSystem.Step workspaceSystem) s s') :
    s.db.protectionVersion assetId ≤ s'.db.protectionVersion assetId := by
  induction h_run with
  | refl => exact le_rfl
  | @tail s₁ s₂ h_before h_last ih =>
    have h_step := protectionStep assetId (h.run h_before) h_last
    by_cases h_change : CommitsChange assetId s₁ s₂
    · rw [h_step.changed h_change]
      exact Nat.le_succ_of_le ih
    · rw [h_step.unchanged h_change]
      exact ih

/-- Where the version is still the same, nothing has changed since. -/
theorem no_change_of_eq {assetId : Uuid} {s s₁ s₂ s' : WorkspaceState}
    (h : WorkspaceReachable Workspace.WellFormed s)
    (h_to : ReflTransGen (TxnSystem.Step workspaceSystem) s s₁)
    (h_step : TxnSystem.Step workspaceSystem s₁ s₂)
    (h_from : ReflTransGen (TxnSystem.Step workspaceSystem) s₂ s')
    (h_eq : s'.db.protectionVersion assetId = s.db.protectionVersion assetId) :
    ¬ CommitsChange assetId s₁ s₂ := by
  intro h_change
  have h₁ := protectionVersion_le_of_run assetId h h_to
  have h₂ := (protectionStep assetId (h.run h_to) h_step).changed h_change
  have h₃ := protectionVersion_le_of_run assetId ((h.run h_to).next h_step) h_from
  omega

/-- The version of an asset that a request expects. -/
def ProtectionRequest.expects : ProtectionRequest → Option (Uuid × ℕ)
  | classify _ assetId payload => some (assetId, payload.expectedVersion)
  | setPolicy assetId expectedVersion _ => some (assetId, expectedVersion)
  | _ => none

/-- What the commit of a request that expects something found. -/
theorem expectation_of_post {request : ProtectionRequest} {result : WorkspaceResult}
    {db db' : Workspace} (h : WorkspacePost (.protection request) result db db') :
    (∀ assetId version, request.expects = some (assetId, version) →
      db.protectionVersion assetId = version) ∧
    ∀ userId findingId expectedStatus newStatus reason,
      request = .review userId findingId expectedStatus newStatus reason →
      (db.findings.find? findingId).map SensitiveDataFinding.status = some expectedStatus := by
  cases h with
  | protection _ _ _ _ h_protection =>
    refine ⟨?_, ?_⟩
    · intro assetId version h_expects
      cases h_protection with
      | classified _ _ _ _ _ h_updated =>
        cases h_expects
        exact h_updated.version
      | policySet _ _ _ _ _ h_updated =>
        cases h_expects
        exact h_updated.version
      | _ => cases h_expects
    · rintro userId findingId expectedStatus newStatus reason rfl
      cases h_protection with
      | reviewed _ _ _ _ _ _ _ _ h_reviewed => exact h_reviewed.finding

/-- **Protection versions.** From any tenant and in every interleaving, the version of an asset
goes up by one with every accepted change and with nothing else; a classification or a policy is
accepted only if no change of the asset was committed since the version it expects was the
version; a decision is accepted only if the finding has the status it expects; and a request
that is rolled back changes nothing. -/
theorem protection_versions {s : WorkspaceState} (h : WorkspaceReachable Workspace.WellFormed s) :
    (∀ s' assetId, TxnSystem.Step workspaceSystem s s' → ProtectionStep assetId s s') ∧
    (∀ s₁ s₂ s₃ s' i request result assetId version,
      ReflTransGen (TxnSystem.Step workspaceSystem) s s₁ →
      TxnSystem.Step workspaceSystem s₁ s₂ →
      ReflTransGen (TxnSystem.Step workspaceSystem) s₂ s₃ →
      TxnSystem.Step workspaceSystem s₃ s' →
      s'.log = .committed i (.protection request) result :: s₃.log →
      request.expects = some (assetId, version) → s.db.protectionVersion assetId = version →
      ¬ CommitsChange assetId s₁ s₂) ∧
    ∀ s' i userId findingId expectedStatus newStatus reason result,
      TxnSystem.Step workspaceSystem s s' →
      s'.log = .committed i (.protection
        (.review userId findingId expectedStatus newStatus reason)) result :: s.log →
      (s.db.findings.find? findingId).map SensitiveDataFinding.status = some expectedStatus := by
  refine ⟨fun s' assetId h_step => protectionStep assetId h h_step, ?_, ?_⟩
  · intro s₁ s₂ s₃ s' i request result assetId version h_to h_step h_from h_last h_log h_expects
      h_version
    have h₃ : WorkspaceReachable Workspace.WellFormed s₃ := ((h.run h_to).next h_step).run h_from
    have h_found := (expectation_of_post (workspace_post (fun _ => id) h₃ h_last h_log)).1
      assetId version h_expects
    exact no_change_of_eq h h_to h_step h_from (h_found.trans h_version.symm)
  · intro s' i userId findingId expectedStatus newStatus reason result h_step h_log
    exact (expectation_of_post (workspace_post (fun _ => id) h h_step h_log)).2 _ _ _ _ _ rfl

/-- An asset whose policy has been set. -/
theorem protection_versions_policy : ∃ s : WorkspaceState,
    s.db.protectionVersion (Uuid.repeated 1) = 1 ∧
      ∀ s' assetId, TxnSystem.Step workspaceSystem s s' → ProtectionStep assetId s s' := by
  have h_version : (workspaceSystem.serial [(0, .protection (.setPolicy (Uuid.repeated 1) 0
      [.basicPersonalData]))] legacyWorkspace []).map
        (fun x => x.1.protectionVersion (Uuid.repeated 1)) = some 1 := by
    decide
  obtain ⟨⟨db, log⟩, h_serial, h_eq⟩ := Option.map_eq_some_iff.mp h_version
  have h_run := TxnSystem.run_serial (TxnSystem.serialAllowed_of_forall (by simp [workspaceSystem,
    WorkspaceRequest.allowed]) _ _) h_serial
  exact ⟨_, h_eq, (protection_versions
    ⟨_, ⟨legacyWorkspace_wellFormed, fun _ => rfl, rfl⟩, h_run⟩).1⟩

end DqScoring
