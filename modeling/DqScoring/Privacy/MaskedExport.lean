import DqScoring.Imports.Versioning
import DqScoring.Privacy.Masking
import Mathlib.Data.List.Forall2

/-!
# The masked export of a snapshot

`export_masked_parquet` of `services/privacy_service.py`. A first transaction resolves the
protection of the snapshot, the canonical Parquet is then masked with no transaction open,
and a second transaction resolves the protection again: the artifact is released only if
version and protected columns are those of the first one. Both transactions only read, so
that an export is a run of the workspace with the reads of both along it (`ExportRun`).
-/

namespace DqScoring

open Framework Relation

/-! ### Batches -/

/-- Some rows of a Parquet file by their columns, or all of them. -/
@[ext]
structure RecordBatch where
  columns : List ArrowColumn
  rowCount : ℕ
  lengths : ∀ c ∈ columns, c.values.length = rowCount

/-- The rows of a batch. -/
def RecordBatch.rows (b : RecordBatch) : List (List (String × ArrowCell)) :=
  (List.range b.rowCount).map (rowOf b.columns)

/-- Some cells of a column. -/
def ArrowColumn.slice (offset length : ℕ) (c : ArrowColumn) : ArrowColumn where
  name := c.name
  type := c.type
  values := (c.values.drop offset).take length
  typed v h_v := c.typed v (List.mem_of_mem_drop (List.mem_of_mem_take h_v))

/-- Some rows of a batch. -/
def RecordBatch.slice (b : RecordBatch) (offset length : ℕ) : RecordBatch where
  columns := b.columns.map (ArrowColumn.slice offset length)
  rowCount := min length (b.rowCount - offset)
  lengths c h_c := by
    obtain ⟨c₀, h_c₀, rfl⟩ := List.mem_map.mp h_c
    rw [ArrowColumn.slice, List.length_take, List.length_drop, b.lengths c₀ h_c₀]

/-- Some batches of a file, from an offset on. -/
def RecordBatch.batchesFrom (b : RecordBatch) (batchSize : ℕ) : ℕ → ℕ → List RecordBatch
  | 0, _ => []
  | count + 1, offset =>
    b.slice offset batchSize :: b.batchesFrom batchSize count (offset + batchSize)

/-- `iter_batches`. -/
def RecordBatch.iterBatches (b : RecordBatch) (batchSize : ℕ) : List RecordBatch :=
  b.batchesFrom batchSize ((b.rowCount + batchSize - 1) / batchSize) 0

/-- `EXPORT_BATCH_ROWS`. -/
def exportBatchRows : ℕ := 65536

/-! ### Masking a file -/

/-- A masked file: its schema and the batches written to it. -/
structure MaskedParquet where
  schema : List (String × ArrowType)
  batches : List RecordBatch

/-- The rows of a masked file. -/
def MaskedParquet.rows (p : MaskedParquet) : List (List (String × ArrowCell)) :=
  p.batches.flatMap RecordBatch.rows

/-- Mask a batch. -/
def RecordBatch.mask (protectedColumns : List String) (b : RecordBatch) : RecordBatch where
  columns := b.columns.map (maskColumn protectedColumns)
  rowCount := b.rowCount
  lengths c h_c := by
    obtain ⟨c₀, h_c₀, rfl⟩ := List.mem_map.mp h_c
    rw [maskColumn_length, b.lengths c₀ h_c₀]

/-- The file that an export writes. -/
def maskParquet (protectedColumns : List String) (table : RecordBatch) : MaskedParquet where
  schema := table.columns.map fun c =>
    (c.name, if c.name ∈ protectedColumns then ArrowType.string else c.type)
  batches := (table.iterBatches exportBatchRows).map (RecordBatch.mask protectedColumns)

/-! ### The export -/

/-- What the first transaction of an export reads. -/
structure ExportBegun where
  slug : String
  snapshotId : Uuid
  source : SourceDescriptor
  protection : SnapshotProtection

/-- The first transaction of an export; without a snapshot it takes the current one. -/
def beginExport (assetId : Uuid) (snapshotId : Option Uuid) : WorkspaceTxn ExportBegun := do
  match ← .select fun db => db.assets.find? assetId with
  | none => .raise ⟨404, "RESOURCE_NOT_FOUND"⟩
  | some asset =>
    -- the current snapshot, unless one is named
    match snapshotId.or asset.currentSnapshotId with
    | none => .raise ⟨404, "RESOURCE_NOT_FOUND"⟩
    | some snapshotId =>
      -- a snapshot of another asset counts as missing
      match ← .select fun db => (db.snapshots.find? snapshotId).filter
          fun s => decide (s.assetId = assetId) with
      | none => .raise ⟨404, "RESOURCE_NOT_FOUND"⟩
      | some row =>
        let protection ← resolveSnapshotProtection snapshotId
        return ⟨asset.slug, snapshotId, row.sourceDescriptor, protection⟩

/-- What the canonical object of a snapshot turns out to be. -/
inductive CanonicalObject where
  | readable (table : RecordBatch)
  /-- `SnapshotObjectError` with its code. -/
  | refused (code : String)
  /-- `ArrowException` or `OSError`. -/
  | malformed

/-- `MaskedExportArtifact`. -/
structure MaskedExportArtifact where
  filename : String
  content : MaskedParquet
  policyVersion : ℕ

/-- What an export makes of the canonical object and of the protection at its end. -/
def ExportBegun.release (begun : ExportBegun) (canonical : CanonicalObject)
    (current : SnapshotProtection) : Except HttpError MaskedExportArtifact :=
  match canonical with
  | .refused code => .error ⟨if code = "STORAGE_UNAVAILABLE" then 503 else 409, code⟩
  | .malformed => .error ⟨409, "MALFORMED_IMPORT"⟩
  | .readable table =>
    -- the protection is read again after the masking
    if current.policyVersion ≠ begun.protection.policyVersion
        ∨ current.protectedColumns.toFinset ≠ begun.protection.protectedColumns.toFinset then
      .error ⟨409, "POLICY_VERSION_CONFLICT"⟩
    else
      -- what is named and masked is what was begun
      .ok ⟨(if begun.slug = "" then "asset" else begun.slug) ++ "_masked.parquet",
        maskParquet begun.protection.protectedColumns table, begun.protection.policyVersion⟩

/-- An interleaving of an export with the transactions of others, up to its second read. -/
structure ExportRun (assetId : Uuid) (snapshotId : Option Uuid) where
  start : WorkspaceState
  begunAt : WorkspaceState
  resumedAt : WorkspaceState
  finish : WorkspaceState
  begun : ExportBegun
  current : SnapshotProtection
  begins : workspaceSystem.ReadsAlong (beginExport assetId snapshotId) start begun begunAt
  /-- The object is read and masked meanwhile. -/
  meanwhile : ReflTransGen (TxnSystem.Step workspaceSystem) begunAt resumedAt
  rechecks : workspaceSystem.ReadsAlong (resolveSnapshotProtection begun.snapshotId) resumedAt
    current finish

/-- What the export releases, or raises. -/
def ExportRun.outcome {assetId : Uuid} {snapshotId : Option Uuid}
    (run : ExportRun assetId snapshotId) (store : SourceDescriptor → CanonicalObject) :
    Except HttpError MaskedExportArtifact :=
  run.begun.release (store run.begun.source) run.current

/-- Beginning an export writes nothing. -/
theorem readsOnly_beginExport (assetId : Uuid) (snapshotId : Option Uuid) :
    (beginExport assetId snapshotId).ReadsOnly := by
  refine (Txn.readsOnly_select _).bind fun asset => ?_
  cases asset with
  | none => trivial
  | some asset =>
    show Txn.ReadsOnly (match snapshotId.or asset.currentSnapshotId with | none => _ | some _ => _)
    cases snapshotId.or asset.currentSnapshotId with
    | none => trivial
    | some snapshotId =>
      refine (Txn.readsOnly_select _).bind fun row => ?_
      cases row with
      | none => trivial
      | some row => exact (readsOnly_resolveSnapshotProtection snapshotId).bind fun _ => trivial

/-! ### Batches and rows -/

/-- A slice of a batch takes a slice of its rows. -/
theorem rows_slice (b : RecordBatch) (offset length : ℕ) :
    (b.slice offset length).rows = (b.rows.drop offset).take length := by
  have h_row : ∀ i < min length (b.rowCount - offset),
      rowOf (b.columns.map (ArrowColumn.slice offset length)) i = rowOf b.columns (offset + i) := by
    intro i h_i
    rw [rowOf, rowOf, List.map_map]
    refine List.map_congr_left fun c _ => ?_
    rw [Function.comp_apply, ArrowColumn.slice, List.getElem?_take, if_pos (by omega),
      List.getElem?_drop]
  rw [RecordBatch.rows, RecordBatch.rows, ← List.map_drop, ← List.map_take]
  refine List.ext_getElem ?_ fun i h_left h_right => ?_
  · simp [RecordBatch.slice]
  · rw [List.length_map, List.length_range] at h_left
    rw [List.getElem_map, List.getElem_map, List.getElem_range, List.getElem_take,
      List.getElem_drop, List.getElem_range]
    exact h_row i h_left

/-- The batches have all the rows, in order. -/
theorem rows_iterBatches (b : RecordBatch) {batchSize : ℕ} (h_pos : 0 < batchSize) :
    (b.iterBatches batchSize).flatMap RecordBatch.rows = b.rows := by
  have h_from : ∀ count offset, (b.batchesFrom batchSize count offset).flatMap RecordBatch.rows
      = (b.rows.drop offset).take (count * batchSize) := by
    intro count
    induction count with
    | zero =>
      intro offset
      rw [Nat.zero_mul, List.take_zero]
      rfl
    | succ count ih =>
      intro offset
      rw [RecordBatch.batchesFrom, List.flatMap_cons, rows_slice, ih, Nat.succ_mul,
        Nat.add_comm (count * batchSize), List.take_add, List.drop_drop]
  rw [RecordBatch.iterBatches, h_from, List.drop_zero, List.take_of_length_le]
  rw [RecordBatch.rows, List.length_map, List.length_range]
  have h_div := Nat.div_add_mod (b.rowCount + batchSize - 1) batchSize
  have h_mod := Nat.mod_lt (b.rowCount + batchSize - 1) h_pos
  rw [Nat.mul_comm] at h_div
  omega

/-- Masking acts row by row. -/
theorem rows_mask (protectedColumns : List String) (b : RecordBatch) :
    (b.mask protectedColumns).rows = b.rows.map (maskRow protectedColumns) := by
  rw [RecordBatch.rows, RecordBatch.rows, List.map_map]
  exact List.map_congr_left fun i _ => rowOf_maskColumn protectedColumns b.columns i

/-- The rows of a masked file are the masked rows. -/
theorem rows_maskParquet (protectedColumns : List String) (table : RecordBatch) :
    (maskParquet protectedColumns table).rows = table.rows.map (maskRow protectedColumns) := by
  rw [MaskedParquet.rows, maskParquet, List.flatMap_map]
  simp only [rows_mask]
  rw [← List.map_flatMap, rows_iterBatches table (by decide)]

/-- Only which columns are protected matters. -/
theorem maskParquet_congr {protected₁ protected₂ : List String}
    (h : protected₁.toFinset = protected₂.toFinset) (table : RecordBatch) :
    maskParquet protected₁ table = maskParquet protected₂ table := by
  have h_mem : ∀ name, name ∈ protected₁ ↔ name ∈ protected₂ := by
    intro name
    rw [← List.mem_toFinset, h, List.mem_toFinset]
  have h_mask : RecordBatch.mask protected₁ = RecordBatch.mask protected₂ := by
    funext b
    refine RecordBatch.ext ?_ rfl
    exact List.map_congr_left fun c _ => maskColumn_congr h_mem c
  rw [maskParquet, maskParquet, h_mask]
  simp only [h_mem]

/-! ### Two datasets -/

/-- Two cells of a protected column are both null or both not, and both empty or both not. -/
def SameShape (v w : ArrowCell) : Prop :=
  (v = none ↔ w = none) ∧ (v = some (.text "") ↔ w = some (.text ""))

/-- Two columns of one name and type agree, in shape only if they are protected. -/
structure ColumnsAgree (protectedColumns : List String) (c c' : ArrowColumn) : Prop where
  name : c.name = c'.name
  type : c.type = c'.type
  unprotected : c.name ∉ protectedColumns → c.values = c'.values
  shape : c.name ∈ protectedColumns → List.Forall₂ SameShape c.values c'.values

/-- Two tables of one schema and row count agree. -/
structure TablesAgree (protectedColumns : List String) (table table' : RecordBatch) : Prop where
  rowCount : table.rowCount = table'.rowCount
  columns : List.Forall₂ (ColumnsAgree protectedColumns) table.columns table'.columns

section Agree

variable {protectedColumns : List String} {table table' : RecordBatch}

/-- Only the empty text is empty. -/
theorem isEmptyText_iff {v : ArrowValue} : v.isEmptyText = true ↔ v = .text "" := by
  cases v with
  | text s => simp [ArrowValue.isEmptyText]
  | scalar => exact ⟨fun h => (by cases h), fun h => by cases h⟩
  | nested => exact ⟨fun h => (by cases h), fun h => by cases h⟩

/-- Masking keeps the shape of a cell only. -/
theorem map_maskValue_of_sameShape {v w : ArrowCell} (h : SameShape v w) :
    v.map maskValue = w.map maskValue := by
  obtain ⟨h_null, h_empty⟩ := h
  cases v with
  | none => rw [h_null.mp rfl]
  | some v =>
    cases w with
    | none => cases h_null.mpr rfl
    | some w =>
      have h_same : v.isEmptyText = w.isEmptyText := by
        rw [Bool.eq_iff_iff, isEmptyText_iff, isEmptyText_iff]
        simpa using h_empty
      show some (maskValue v) = some (maskValue w)
      rw [maskValue, maskValue, h_same]

/-- Columns that agree agree slice by slice. -/
theorem ColumnsAgree.slice {c c' : ArrowColumn} (h : ColumnsAgree protectedColumns c c')
    (offset length : ℕ) :
    ColumnsAgree protectedColumns (c.slice offset length) (c'.slice offset length) where
  name := h.name
  type := h.type
  unprotected h_name := congrArg (fun values => (values.drop offset).take length)
    (h.unprotected h_name)
  shape h_name := List.forall₂_take length (List.forall₂_drop offset (h.shape h_name))

/-- Columns that agree mask to one column. -/
theorem ColumnsAgree.mask_eq {c c' : ArrowColumn} (h : ColumnsAgree protectedColumns c c') :
    maskColumn protectedColumns c = maskColumn protectedColumns c' := by
  by_cases h_name : c.name ∈ protectedColumns
  · rw [maskColumn, maskColumn, if_pos h_name, if_pos (h.name ▸ h_name)]
    refine ArrowColumn.ext h.name rfl ?_
    rw [maskArray_values, maskArray_values, ← List.forall₂_eq_eq_eq, List.forall₂_map_left_iff,
      List.forall₂_map_right_iff]
    exact (h.shape h_name).imp fun _ _ => map_maskValue_of_sameShape
  · rw [maskColumn, maskColumn, if_neg h_name, if_neg (h.name ▸ h_name)]
    exact ArrowColumn.ext h.name h.type (h.unprotected h_name)

/-- Tables that agree agree slice by slice. -/
theorem TablesAgree.slice (h : TablesAgree protectedColumns table table') (offset length : ℕ) :
    TablesAgree protectedColumns (table.slice offset length) (table'.slice offset length) where
  rowCount := congrArg (fun n => min length (n - offset)) h.rowCount
  columns := by
    show List.Forall₂ _ (List.map _ _) (List.map _ _)
    rw [List.forall₂_map_left_iff, List.forall₂_map_right_iff]
    exact h.columns.imp fun _ _ h_columns => h_columns.slice offset length

/-- Tables that agree mask to one table. -/
theorem TablesAgree.mask_eq (h : TablesAgree protectedColumns table table') :
    table.mask protectedColumns = table'.mask protectedColumns := by
  refine RecordBatch.ext ?_ h.rowCount
  show List.map _ _ = List.map _ _
  rw [← List.forall₂_eq_eq_eq, List.forall₂_map_left_iff, List.forall₂_map_right_iff]
  exact h.columns.imp fun _ _ => ColumnsAgree.mask_eq

/-- Tables that agree are masked to the same file. -/
theorem TablesAgree.maskParquet_eq (h : TablesAgree protectedColumns table table') :
    maskParquet protectedColumns table = maskParquet protectedColumns table' := by
  have h_schema : table.columns.map (fun c =>
      (c.name, if c.name ∈ protectedColumns then ArrowType.string else c.type))
      = table'.columns.map fun c =>
        (c.name, if c.name ∈ protectedColumns then ArrowType.string else c.type) := by
    rw [← List.forall₂_eq_eq_eq, List.forall₂_map_left_iff, List.forall₂_map_right_iff]
    refine h.columns.imp fun c c' h_columns => ?_
    rw [h_columns.name, h_columns.type]
  have h_batches : ∀ batchSize count offset,
      (table.batchesFrom batchSize count offset).map (RecordBatch.mask protectedColumns)
        = (table'.batchesFrom batchSize count offset).map (RecordBatch.mask protectedColumns) := by
    intro batchSize count
    induction count with
    | zero => exact fun _ => rfl
    | succ count ih =>
      intro offset
      rw [RecordBatch.batchesFrom, RecordBatch.batchesFrom, List.map_cons, List.map_cons, ih,
        (h.slice offset batchSize).mask_eq]
  rw [maskParquet, maskParquet, h_schema, RecordBatch.iterBatches, RecordBatch.iterBatches,
    h.rowCount, h_batches]

end Agree

/-- **Masked export.** Whatever is interleaved with an export, if it releases an artifact then it
releases the same one for every dataset that agrees; the columns masked are those protected at
the recheck; and its rows are those that `mask_row` gives. -/
theorem masked_export {assetId : Uuid} {snapshotId : Option Uuid}
    (run : ExportRun assetId snapshotId)
    (store store' : SourceDescriptor → CanonicalObject) (table table' : RecordBatch)
    (h_table : store run.begun.source = .readable table)
    (h_table' : store' run.begun.source = .readable table')
    (h_agree : TablesAgree run.current.protectedColumns table table')
    (artifact : MaskedExportArtifact) (h_released : run.outcome store = .ok artifact) :
    run.outcome store' = .ok artifact ∧
      artifact.content = maskParquet run.current.protectedColumns table ∧
      artifact.policyVersion = run.current.policyVersion ∧
      artifact.content.rows = table.rows.map (maskRow run.current.protectedColumns) := by
  simp only [ExportRun.outcome, ExportBegun.release, h_table] at h_released
  split at h_released
  · cases h_released
  · rename_i h_same
    rw [not_or, not_not, not_not] at h_same
    obtain ⟨h_version, h_protected⟩ := h_same
    obtain rfl := Except.ok.inj h_released
    have h_content := maskParquet_congr h_protected
    refine ⟨?_, (h_content table).symm, h_version.symm, ?_⟩
    · have h_not : ¬ (run.current.policyVersion ≠ run.begun.protection.policyVersion
          ∨ run.current.protectedColumns.toFinset ≠
            run.begun.protection.protectedColumns.toFinset) := by
        rw [not_or, not_not, not_not]
        exact ⟨h_version, h_protected⟩
      simp only [ExportRun.outcome, ExportBegun.release, h_table', if_neg h_not]
      rw [← h_content, ← h_content, h_agree.maskParquet_eq]
    · show (maskParquet run.begun.protection.protectedColumns table).rows = _
      rw [← h_content, rows_maskParquet]

/-- A table of one column of texts and nulls. -/
def emailTable (values : List (Option String)) : RecordBatch where
  columns := [{ name := "email", type := .string, values := values.map fun v => v.map .text
                typed := by
                  intro v h_v
                  obtain ⟨cell, -, h_eq⟩ := List.mem_map.mp h_v
                  obtain ⟨s, -, rfl⟩ := Option.map_eq_some_iff.mp h_eq
                  rfl }]
  rowCount := values.length
  lengths c h_c := by
    obtain rfl := List.mem_singleton.mp h_c
    exact List.length_map _

/-- Two datasets that differ in a protected address are exported to the same artifact. -/
theorem masked_export_emails : ∃ (run : ExportRun (Uuid.repeated 1) none)
    (artifact : MaskedExportArtifact),
    run.outcome (fun _ => .readable (emailTable [some "an@example.com", none, some ""]))
        = .ok artifact ∧
      run.outcome (fun _ => .readable (emailTable [some "binh@example.com", none, some ""]))
        = .ok artifact ∧
      artifact.content.rows = [[("email", some (.text "[REDACTED]"))], [("email", none)],
        [("email", some (.text ""))]] := by
  have h_result : (workspaceSystem.serial [(0, .importing (.register (Uuid.repeated 3) [] 5
      ⟨Uuid.repeated 6, "", Uuid.repeated 7, Uuid.repeated 8⟩))] verifiedWorkspace []).map (fun x =>
        (((beginExport (Uuid.repeated 1) none).alone some x.1).map fun p =>
            (p.1.snapshotId, p.1.protection.policyVersion, p.1.protection.protectedColumns),
          ((resolveSnapshotProtection (Uuid.repeated 7)).alone some x.1).map fun p =>
            (p.1.policyVersion, p.1.protectedColumns)))
      = some (some (Uuid.repeated 7, 0, ["email"]), some (0, ["email"])) := by
    decide
  -- the export begins and is checked again in the same state
  obtain ⟨⟨db, log⟩, -, h_eq⟩ := Option.map_eq_some_iff.mp h_result
  obtain ⟨h_begun, h_current⟩ := Prod.mk.inj h_eq
  obtain ⟨⟨begun, _⟩, h_begin, h_read⟩ := Option.map_eq_some_iff.mp h_begun
  obtain ⟨⟨current, _⟩, h_resolve, h_recheck⟩ := Option.map_eq_some_iff.mp h_current
  obtain ⟨h_snapshot, h_before⟩ := Prod.mk.inj h_read
  obtain ⟨h_version, h_protected⟩ := Prod.mk.inj h_before
  obtain ⟨h_version', h_protected'⟩ := Prod.mk.inj h_recheck
  rw [← show begun.snapshotId = Uuid.repeated 7 from h_snapshot] at h_resolve
  let s : WorkspaceState := ⟨db, fun _ => none, log⟩
  let run : ExportRun (Uuid.repeated 1) none :=
    { start := s, begunAt := s, resumedAt := s, finish := s, begun := begun, current := current
      begins := (readsOnly_beginExport _ _).readsAlong h_begin
      meanwhile := .refl
      rechecks := (readsOnly_resolveSnapshotProtection _).readsAlong h_resolve }
  let table := emailTable [some "an@example.com", none, some ""]
  -- the protection is unchanged in between, so the artifact is released
  have h_released : ∃ artifact, run.outcome (fun _ => .readable table) = .ok artifact := by
    have h_same : ¬ (current.policyVersion ≠ begun.protection.policyVersion
        ∨ current.protectedColumns.toFinset ≠ begun.protection.protectedColumns.toFinset) := by
      rw [h_version, h_version', h_protected, h_protected']
      decide
    exact ⟨_, if_neg h_same⟩
  obtain ⟨artifact, h_artifact⟩ := h_released
  -- the table agrees with itself on the columns that are not masked
  have h_agree : TablesAgree run.current.protectedColumns table
      (emailTable [some "binh@example.com", none, some ""]) := by
    have h_column : run.current.protectedColumns = ["email"] := h_protected'
    refine ⟨rfl, .cons ⟨rfl, rfl, fun h_name => absurd ?_ h_name, fun _ => ?_⟩ .nil⟩
    · rw [h_column]
      exact List.mem_cons_self
    · refine .cons ⟨by simp, by simp⟩ (.cons ⟨Iff.rfl, Iff.rfl⟩ (.cons ⟨Iff.rfl, Iff.rfl⟩ .nil))
  -- so a protected cell has no influence on what is released
  obtain ⟨h_other, -, -, h_rows⟩ :=
    masked_export run _ (fun _ => .readable _) table _ rfl rfl h_agree artifact h_artifact
  refine ⟨run, artifact, h_artifact, h_other, ?_⟩
  rw [h_rows, show run.current.protectedColumns = ["email"] from h_protected']
  rfl

end DqScoring
