import DqScoring.Privacy.ProtectionService

/-!
# What each change of the declared protection commits

Every change holds the lock of its asset to the end, so the version it read is the version
that it counts up.
-/

namespace DqScoring

open Framework

section Steps

variable {held : List RowLock} {db db' : Workspace} {assetId : Uuid}

/-! ### Locks -/

/-- The version of a locked asset stays. -/
theorem rely_protectionVersion (h : workspaceDiscipline.rely held db db')
    (h_held : .asset assetId ∈ held) (h_asset : (db.assets.find? assetId).isSome) :
    db'.protectionVersion assetId = db.protectionVersion assetId := by
  obtain ⟨row, h_row⟩ := Option.isSome_iff_exists.mp h_asset
  rw [Workspace.protectionVersion, Workspace.protectionVersion, (rely_asset h h_held h_row).2.2]

/-- What a transaction has done once it has locked the protection revision of an asset. -/
theorem wp_lockRevision {K : ℕ → List RowLock → (Workspace → Option Workspace) → Workspace → Prop}
    (h : ∀ db', workspaceDiscipline.rely held db db' → K (db'.protectionVersion assetId)
      (.revision assetId :: held) (fun db => some (db.ensureRevision assetId)) db') :
    workspaceDiscipline.wp (lockRevision assetId) K held some db := by
  simp only [lockRevision, Discipline.wp_bind, Discipline.wp_exec, Discipline.wp_forUpdate,
    Discipline.wp_select]
  rintro db₁ h₁ db₂ h₂ view ⟨⟩
  have h_rely : workspaceDiscipline.rely held db db₂ :=
    h₁.trans (h₂.mono fun l hl => List.mem_cons_of_mem _ hl)
  rw [Workspace.find?_ensureRevision, if_pos rfl]
  exact h db₂ h_rely

/-- Whoever holds the asset's lock may count its revision up. -/
theorem guarantee_bumped (h_inv : db.WellFormed) (h_held : .asset assetId ∈ held) :
    workspaceDiscipline.guarantee held db { db with revisions := db.bumped assetId } := by
  refine guarantee_revisions h_inv fun id h_id => ?_
  rw [Workspace.find?_bumped, if_neg]
  rintro rfl
  exact h_id h_held

/-- Whoever holds the asset's lock may create its revision row. -/
theorem guarantee_ensureRevision (h_inv : db.WellFormed) (h_held : .asset assetId ∈ held) :
    workspaceDiscipline.guarantee held db (db.ensureRevision assetId) := by
  refine guarantee_revisions h_inv fun id h_id => ?_
  have h_find := db.find?_ensureRevision assetId id
  rw [if_neg] at h_find
  · exact h_find
  · rintro rfl
    exact h_id h_held

/-- What a transaction knows once it has locked an asset and found it. -/
theorem wp_lockAsset {β : Type} {k : Option DataAsset → WorkspaceTxn β}
    {K : β → List RowLock → (Workspace → Option Workspace) → Workspace → Prop}
    (h_none : ∀ db', workspaceDiscipline.wp (k none) K (.asset assetId :: held) some db')
    (h : ∀ db' row, workspaceDiscipline.rely held db db' → db'.assets.find? assetId = some row →
      workspaceDiscipline.wp (k (some row)) K (.asset assetId :: held) some db') :
    workspaceDiscipline.wp (do
      Txn.forUpdate (.asset assetId)
      let row ← Txn.select fun db => db.assets.find? assetId
      k row) K held some db := by
  simp only [Discipline.wp_bind, Discipline.wp_forUpdate, Discipline.wp_select]
  rintro db₁ h₁ db₂ h₂ view ⟨⟩
  cases h_find : db₂.assets.find? assetId with
  | none => exact h_none db₂
  | some row =>
    exact h db₂ row (h₁.trans (h₂.mono fun l hl => List.mem_cons_of_mem _ hl)) h_find

/-! ### Classifications -/

/-- Changes of declarations change the declarations. -/
theorem classifyAll_eq (userId assetId : Uuid) (changes : List ClassificationChange)
    (db : Workspace) :
    ∃ rows, changes.foldl (fun db c => db.classify userId assetId c) db
      = { db with classifications := rows } := by
  induction changes generalizing db with
  | nil => exact ⟨db.classifications, rfl⟩
  | cons change changes ih =>
    obtain ⟨rows, h_rows⟩ := ih (db.classify userId assetId change)
    exact ⟨rows, h_rows⟩

/-- `update_classifications` is accepted at the version it expects, and counts it up. -/
structure ClassificationsUpdated (assetId : Uuid) (payload : UpdateClassificationsRequest)
    (db db' : Workspace) : Prop where
  asset : (db.assets.find? assetId).isSome
  version : db.protectionVersion assetId = payload.expectedVersion
  writes : ∃ rows, db' = { db with classifications := rows, revisions := db.bumped assetId }

/-- An update of the declarations bumps the version exactly when it changes them. -/
theorem meets_updateClassifications (userId assetId : Uuid)
    (payload : UpdateClassificationsRequest) :
    workspaceDiscipline.Meets (updateClassifications userId assetId payload)
      fun _ => ClassificationsUpdated assetId payload := by
  intro db h_inv
  rw [updateClassifications]
  -- the asset is locked before its snapshot is read
  refine wp_lockAsset (fun _ => Discipline.wp_raise _) fun db₁ row h₁ h_find => ?_
  rw [Discipline.wp_bind, Discipline.wp_select]
  rintro db₂ h₂ view ⟨⟩
  cases (db₂.snapshots.find? payload.snapshotId).filter fun s => decide (s.assetId = assetId) with
  | none => exact Discipline.wp_raise _
  | some snapshot =>
    show workspaceDiscipline.wp (ite _ _ _) _ _ _ _
    split
    · exact Discipline.wp_raise _
    rw [Discipline.wp_bind]
    refine wp_lockRevision fun db₃ h₃ => ?_
    -- a change against another version than the current one is refused
    show workspaceDiscipline.wp (ite _ _ _) _ _ _ _
    split
    · exact Discipline.wp_raise _
    rename_i h_version
    simp only [Discipline.wp_bind, Discipline.wp_exec, bumpRevision]
    refine Discipline.wp_readsOnly (readsOnly_resolveSnapshotProtection _) fun _ db₄ h₄ => ?_
    rintro db₅ h₅ db' ⟨⟩
    -- the asset is locked, so its version is the one that was read
    have h_held : RowLock.asset assetId ∈ [RowLock.revision assetId, .asset assetId] := by simp
    have h_rely₃ := h₂.trans h₃
    have h_asset₃ : (db₃.assets.find? assetId).isSome := by
      rw [(rely_asset h_rely₃ List.mem_cons_self h_find).1]
      rfl
    have h_rely₅ := h₄.trans h₅
    have h_inv₅ := h_rely₅.inv (h_rely₃.inv (h₁.inv h_inv))
    obtain ⟨rows, h_rows⟩ :=
      classifyAll_eq userId assetId payload.changes (db₅.ensureRevision assetId)
    have h_eq : (payload.changes.foldl (fun db c => db.classify userId assetId c)
        (db₅.ensureRevision assetId)).bumpRevision assetId
          = { db₅ with classifications := rows, revisions := db₅.bumped assetId } := by
      rw [h_rows]
      rfl
    -- the version goes up before the declarations are written
    have h_revision : workspaceDiscipline.guarantee [RowLock.revision assetId, .asset assetId]
        db₅ _ := guarantee_bumped h_inv₅ h_held
    refine ⟨?_, h_rely₅.grow.assets _ h_asset₃, ?_, rows, h_eq⟩
    · show workspaceDiscipline.guarantee _ db₅ _
      rw [h_eq]
      exact h_revision.trans (guarantee_declarations h_revision.inv)
    · rw [rely_protectionVersion h_rely₅ h_held h_asset₃]
      exact not_not.mp h_version

/-! ### Policies -/

/-- Adding policies touches their table only. -/
theorem addPolicies_eq (assetId : Uuid) (categories : List SensitiveCategory) (db : Workspace) :
    ∃ rows, db.addPolicies assetId categories = { db with policies := rows } := by
  have h_roles : ∀ (roles : List String) (c : SensitiveCategory) (db : Workspace),
      ∃ rows, roles.foldl (fun db role => db.addPolicy assetId c role) db
        = { db with policies := rows } := by
    intro roles c
    induction roles with
    | nil => exact fun db => ⟨db.policies, rfl⟩
    | cons role roles ih =>
      intro db
      obtain ⟨rows, h_rows⟩ := ih (db.addPolicy assetId c role)
      exact ⟨rows, h_rows⟩
  rw [Workspace.addPolicies]
  induction categories generalizing db with
  | nil => exact ⟨db.policies, rfl⟩
  | cons c categories ih =>
    obtain ⟨rows₁, h_rows₁⟩ := h_roles activeProtectionRoles c db
    rw [List.foldl_cons, h_rows₁]
    obtain ⟨rows, h_rows⟩ := ih { db with policies := rows₁ }
    exact ⟨rows, h_rows⟩

theorem readsOnly_getAssetProtectionPolicy (assetId : Uuid) :
    (getAssetProtectionPolicy assetId).ReadsOnly := by
  refine (Txn.readsOnly_select _).bind fun row => ?_
  cases row with
  | none => trivial
  | some row =>
    refine (Txn.readsOnly_select _).bind fun _ => (Txn.readsOnly_select _).bind fun _ => ?_
    exact (Txn.readsOnly_select _).bind fun _ => trivial

/-- `update_asset_protection_policy` is accepted at the version it expects, and counts it up. -/
structure PolicyUpdated (assetId : Uuid) (expectedVersion : ℕ) (db db' : Workspace) : Prop where
  asset : (db.assets.find? assetId).isSome
  version : db.protectionVersion assetId = expectedVersion
  writes : ∃ rows, db' = { db with policies := rows, revisions := db.bumped assetId }

/-- An update of the policy bumps the version, if its expectation still holds. -/
theorem meets_updateAssetProtectionPolicy (assetId : Uuid) (expectedVersion : ℕ)
    (categories : List SensitiveCategory) :
    workspaceDiscipline.Meets (updateAssetProtectionPolicy assetId expectedVersion categories)
      fun _ => PolicyUpdated assetId expectedVersion := by
  intro db h_inv
  rw [updateAssetProtectionPolicy]
  refine wp_lockAsset (fun _ => Discipline.wp_raise _) fun db₁ row h₁ h_find => ?_
  rw [Discipline.wp_bind]
  refine wp_lockRevision fun db₂ h₂ => ?_
  show workspaceDiscipline.wp (ite _ _ _) _ _ _ _
  split
  · exact Discipline.wp_raise _
  rename_i h_version
  simp only [Discipline.wp_bind, Discipline.wp_exec, bumpRevision]
  refine Discipline.wp_readsOnly (readsOnly_getAssetProtectionPolicy _) fun _ db₃ h₃ => ?_
  refine Discipline.wp_readsOnly (readsOnly_getAssetProtectionPolicy _) fun _ db₄ h₄ => ?_
  rintro db₅ h₅ db' ⟨⟩
  -- the asset is locked, so its version is the one that was read
  have h_held : RowLock.asset assetId ∈ [RowLock.revision assetId, .asset assetId] := by simp
  have h_asset₂ : (db₂.assets.find? assetId).isSome := by
    rw [(rely_asset h₂ List.mem_cons_self h_find).1]
    rfl
  have h_rely₅ := (h₃.trans h₄).trans h₅
  have h_inv₅ := h_rely₅.inv (h₂.inv (h₁.inv h_inv))
  obtain ⟨rows, h_rows⟩ :=
    addPolicies_eq assetId categories ((db₅.ensureRevision assetId).clearPolicies assetId)
  have h_eq : (((db₅.ensureRevision assetId).clearPolicies assetId).addPolicies assetId
      categories).bumpRevision assetId
        = { db₅ with policies := rows, revisions := db₅.bumped assetId } := by
    rw [h_rows]
    rfl
  have h_revision : workspaceDiscipline.guarantee [RowLock.revision assetId, .asset assetId]
      db₅ _ := guarantee_bumped h_inv₅ h_held
  refine ⟨?_, h_rely₅.grow.assets _ h_asset₂, ?_, rows, h_eq⟩
  · show workspaceDiscipline.guarantee _ db₅ _
    rw [h_eq]
    exact h_revision.trans (guarantee_declarations h_revision.inv)
  · rw [rely_protectionVersion h_rely₅ h_held h_asset₂]
    exact not_not.mp h_version

/-! ### Findings -/

/-- The asset of a finding is that of its snapshot. -/
theorem assetOfFinding_eq_some_iff {findingId : FindingId} :
    db.assetOfFinding findingId = some assetId ↔ ∃ f s, db.findings.find? findingId = some f ∧
      db.snapshots.find? f.snapshotId = some s ∧ s.assetId = assetId := by
  rw [Workspace.assetOfFinding]
  constructor
  · intro h
    obtain ⟨f, h_f, h_rest⟩ := Option.bind_eq_some_iff.mp h
    obtain ⟨s, h_s, h_asset⟩ := Option.bind_eq_some_iff.mp h_rest
    exact ⟨f, s, h_f, h_s, Option.some.inj h_asset⟩
  · rintro ⟨f, s, h_f, h_s, rfl⟩
    rw [h_f, Option.bind_eq_bind, Option.bind_some, h_s]
    rfl

/-- A finding keeps its asset. -/
theorem assetOfFinding_of_grows (h : db.Grows db') {findingId : FindingId}
    (h_asset : db.assetOfFinding findingId = some assetId) :
    db'.assetOfFinding findingId = some assetId := by
  obtain ⟨f, s, h_f, h_s, h_id⟩ := assetOfFinding_eq_some_iff.mp h_asset
  obtain ⟨f', h_f', h_snapshot⟩ := h.findings findingId f h_f
  refine assetOfFinding_eq_some_iff.mpr ⟨f', s, h_f', ?_, h_id⟩
  rw [h_snapshot]
  exact h.snapshots _ s h_s

/-- Whoever holds the finding's lock may decide it. -/
theorem guarantee_decideFinding (h_inv : db.WellFormed) {findingId : FindingId}
    (h_held : .finding findingId ∈ held) (newStatus : FindingStatus) (reason : String)
    (userId : Uuid) :
    workspaceDiscipline.guarantee held db (db.decideFinding findingId newStatus reason userId) := by
  refine guarantee_findings h_inv ?_ ?_
  · intro id f h_f
    rw [Table.find?_update]
    by_cases h_id : id = findingId
    · subst h_id
      rw [if_pos rfl, h_f]
      exact ⟨f.review newStatus reason userId, rfl, rfl⟩
    · rw [if_neg h_id]
      exact ⟨f, h_f, rfl⟩
  · intro id h_id f h_f
    rw [Table.find?_update, if_neg]
    · exact h_f
    · rintro rfl
      exact h_id h_held

/-- `update_finding_status` is accepted at the status it expects, and counts the version up. -/
structure FindingReviewed (userId : Uuid) (findingId : FindingId)
    (expectedStatus newStatus : FindingStatus) (reason : String) (assetId : Uuid)
    (db db' : Workspace) : Prop where
  finding : (db.findings.find? findingId).map SensitiveDataFinding.status = some expectedStatus
  asset : db.assetOfFinding findingId = some assetId
  writes : db' = { db.decideFinding findingId newStatus reason userId with
    revisions := db.bumped assetId }

/-- A review decides one finding and bumps the version of its asset. -/
theorem meets_updateFindingStatus (userId : Uuid) (findingId : FindingId)
    (expectedStatus newStatus : FindingStatus) (reason : String) :
    workspaceDiscipline.Meets
      (updateFindingStatus userId findingId expectedStatus newStatus reason)
      fun _ db db' => ∃ assetId,
        FindingReviewed userId findingId expectedStatus newStatus reason assetId db db' := by
  intro db h_inv
  rw [updateFindingStatus, Discipline.wp_bind, Discipline.wp_select]
  rintro db₁ h₁ view ⟨⟩
  -- a finding of no asset is not known
  cases h_asset : db₁.assetOfFinding findingId with
  | none => exact Discipline.wp_raise _
  | some assetId =>
    simp only [Discipline.wp_bind, Discipline.wp_forUpdate]
    intro db₂ h₂
    -- the version is locked, then the finding
    refine wp_lockRevision fun db₃ h₃ db₄ h₄ => ?_
    rw [Discipline.wp_select]
    rintro db₅ h₅ view ⟨⟩
    show workspaceDiscipline.wp _ _ _ _ _
    -- what was read at the start still holds, by the growth alone
    have h_rely₅ : workspaceDiscipline.rely [] db₁ db₅ := by
      refine (h₂.trans (h₃.mono ?_)).trans ((h₄.mono ?_).trans (h₅.mono ?_)) <;>
        exact fun l hl => by cases hl
    have h_inv₅ := h_rely₅.inv (h₁.inv h_inv)
    have h_asset₅ := assetOfFinding_of_grows h_rely₅.grow h_asset
    cases h_finding : db₅.findings.find? findingId with
    | none =>
      rw [show (db₅.ensureRevision assetId).findings.find? findingId = none from h_finding]
      exact Discipline.wp_raise _
    | some finding =>
      rw [show (db₅.ensureRevision assetId).findings.find? findingId = some finding from h_finding]
      show workspaceDiscipline.wp (ite _ _ _) _ _ _ _
      -- the review is refused unless the finding has the expected status
      split
      · exact Discipline.wp_raise _
      rename_i h_status
      simp only [Discipline.wp_bind, Discipline.wp_exec, bumpRevision]
      rintro db₆ h₆ db' ⟨⟩
      have h_inv₆ := h₆.inv h_inv₅
      -- the finding is locked, so it has the expected status still
      have h_finding₆ := rely_finding h₆ List.mem_cons_self h_finding
      have h_held : RowLock.asset assetId ∈
          [RowLock.finding findingId, .revision assetId, .asset assetId] := by simp
      have h_revision : workspaceDiscipline.guarantee
          [RowLock.finding findingId, .revision assetId, .asset assetId] db₆ _ :=
        guarantee_bumped h_inv₆ h_held
      refine ⟨h_revision.trans (guarantee_decideFinding h_revision.inv List.mem_cons_self
        newStatus reason userId), assetId, ?_, assetOfFinding_of_grows h₆.grow h_asset₅, rfl⟩
      rw [h_finding₆, Option.map_some]
      exact congrArg some (not_not.mp h_status)

end Steps

/-! ### Requests -/

/-- The requests on the protection of assets and snapshots. -/
inductive ProtectionRequest where
  | classify (userId assetId : Uuid) (payload : UpdateClassificationsRequest)
  | setPolicy (assetId : Uuid) (expectedVersion : ℕ) (categories : List SensitiveCategory)
  | review (userId : Uuid) (findingId : FindingId) (expectedStatus newStatus : FindingStatus)
      (reason : String)
  | resolve (snapshotId : Uuid)
  | readPolicy (assetId : Uuid)

/-- The result of a request. -/
inductive ProtectionResult where
  | protection (p : SnapshotProtection)
  | policy (p : AssetProtectionPolicy)
  | decision (d : FindingDecision)
  deriving DecidableEq

/-- The transaction of a request. -/
def ProtectionRequest.program : ProtectionRequest → WorkspaceTxn ProtectionResult
  | classify userId assetId payload => do
    let p ← updateClassifications userId assetId payload
    return .protection p
  | setPolicy assetId expectedVersion categories => do
    let p ← updateAssetProtectionPolicy assetId expectedVersion categories
    return .policy p
  | review userId findingId expectedStatus newStatus reason => do
    let d ← updateFindingStatus userId findingId expectedStatus newStatus reason
    return .decision d
  | resolve snapshotId => do
    let p ← resolveSnapshotProtection snapshotId
    return .protection p
  | readPolicy assetId => do
    let p ← getAssetProtectionPolicy assetId
    return .policy p

/-- What the commit of a request does. -/
inductive ProtectionPost : ProtectionRequest → Workspace → Workspace → Prop
  | classified (userId assetId payload db db') : ClassificationsUpdated assetId payload db db' →
      ProtectionPost (.classify userId assetId payload) db db'
  | policySet (assetId expectedVersion categories db db') :
      PolicyUpdated assetId expectedVersion db db' →
      ProtectionPost (.setPolicy assetId expectedVersion categories) db db'
  | reviewed (userId findingId expectedStatus newStatus reason assetId db db') :
      FindingReviewed userId findingId expectedStatus newStatus reason assetId db db' →
      ProtectionPost (.review userId findingId expectedStatus newStatus reason) db db'
  | resolved (snapshotId db) : ProtectionPost (.resolve snapshotId) db db
  | policyRead (assetId db) : ProtectionPost (.readPolicy assetId) db db

/-- A transaction that only reads commits nothing. -/
theorem meets_readsOnly {β : Type} {p : WorkspaceTxn β} (hp : p.ReadsOnly) :
    workspaceDiscipline.Meets p fun _ db db' => db' = db := by
  intro db h_inv
  refine Discipline.wp_readsOnly hp fun _ db₁ h₁ => ?_
  rintro db₂ h₂ db' ⟨⟩
  exact ⟨.refl _ (h₂.inv (h₁.inv h_inv)), rfl⟩

/-- Each request of the protection service keeps its contract. -/
theorem meets_protection (request : ProtectionRequest) :
    workspaceDiscipline.Meets request.program fun _ => ProtectionPost request := by
  cases request with
  | classify userId assetId payload =>
    exact (meets_updateClassifications userId assetId payload).andThen fun _ _ _ h =>
      .classified _ _ _ _ _ h
  | setPolicy assetId expectedVersion categories =>
    exact (meets_updateAssetProtectionPolicy assetId expectedVersion categories).andThen
      fun _ _ _ h => .policySet _ _ _ _ _ h
  | review userId findingId expectedStatus newStatus reason =>
    refine (meets_updateFindingStatus userId findingId expectedStatus newStatus reason).andThen
      fun _ _ _ h => ?_
    obtain ⟨assetId, h_reviewed⟩ := h
    exact .reviewed _ _ _ _ _ assetId _ _ h_reviewed
  | resolve snapshotId =>
    refine (meets_readsOnly (readsOnly_resolveSnapshotProtection snapshotId)).andThen
      fun _ db _ h => ?_
    subst h
    exact .resolved snapshotId _
  | readPolicy assetId =>
    refine (meets_readsOnly (readsOnly_getAssetProtectionPolicy assetId)).andThen
      fun _ db _ h => ?_
    subst h
    exact .policyRead assetId _

end DqScoring
