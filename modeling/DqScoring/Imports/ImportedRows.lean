import DqScoring.Common.ScanOrder
import DqScoring.Imports.CsvImport
import DqScoring.Imports.JsonlImport

/-!
# The rows of an accepted import

The write pass denotes the rows that it has taken (`Writes`): a step of either format adds the
row of its record, wherever a batch is written. The schema pass of a JSONL file reads the lines in
pieces; a piece with as many characters as `readline` may return has too many bytes, so the
pieces of an accepted file are its lines, and both passes parse the same records.
-/

namespace DqScoring

open Framework

variable {δ : Type} {env : ImportEnv δ}

/-! ### Batches -/

/-- A batch that is built column by column has the rows that it is built from. -/
theorem rows_ofRows {width : ℕ} {rows : List TableRow} (h : ∀ row ∈ rows, row.length = width) :
    (CanonicalBatch.ofRows width rows).rows = rows := by
  apply List.ext_getElem
  · rw [CanonicalBatch.rows, List.length_map, List.length_range]
    rfl
  · intro r h_r h_r'
    have h_width := h rows[r] (List.getElem_mem h_r')
    simp only [CanonicalBatch.rows, CanonicalBatch.ofRows, List.getElem_map, List.getElem_range,
      List.map_map]
    apply List.ext_getElem
    · rw [List.length_map, List.length_range, h_width]
    · intro i h_i h_i'
      simp [columnCells, List.getElem?_eq_getElem h_r', List.getElem?_eq_getElem h_i']

/-! ### The write pass -/

/-- The state has taken these rows. -/
structure Writes (w : WritePass) (rows : List TableRow) : Prop where
  rows_eq : w.batches.rows = rows
  count : w.rowCount = rows.length
  bounded : w.batches.Bounded rowBytes 8192 (16 * 1024 * 1024)

theorem writes_initial (scanner : ScannerState) (warnings : List String) :
    Writes { scanner, warnings } [] where
  rows_eq := rfl
  count := rfl
  bounded := Batches.bounded_empty (by norm_num) (by norm_num)

variable {w w' : WritePass} {rows : List TableRow} {row : TableRow}

/-- The scan of a row leaves the written batches alone. -/
theorem Writes.scan (h : Writes w rows) {detectors : Detectors} {scanRow : ScanRow}
    (h_scan : w.scan env detectors scanRow = .ok w') : Writes w' rows := by
  unfold WritePass.scan at h_scan
  split at h_scan
  · cases h_scan
    exact ⟨h.rows_eq, h.count, h.bounded⟩
  · cases h_scan
  · cases h_scan

/-- Sampling leaves the written batches alone. -/
theorem sample_batches (names : List String) (row : TableRow) (recBytes : ℕ) (w : WritePass) :
    (w.sample names row recBytes).batches = w.batches ∧
      (w.sample names row recBytes).rowCount = w.rowCount + 1 := by
  unfold WritePass.sample
  simp only
  split
  · exact ⟨rfl, rfl⟩
  · split <;> exact ⟨rfl, rfl⟩

/-- What follows the scan of a row adds the row. -/
theorem Writes.write (h : Writes w rows) {names : List String} {recBytes : ℕ}
    (h_write : (w.sample names row recBytes).write env row = .ok w') :
    Writes w' (rows ++ [row]) := by
  obtain ⟨h_batches, h_count⟩ := sample_batches names row recBytes w
  unfold WritePass.write at h_write
  rw [h_batches] at h_write
  obtain ⟨batches, h_take, rfl⟩ := map_eq_ok_iff.mp h_write
  refine ⟨?_, ?_, h.bounded.take h_take⟩
  · rw [← h.rows_eq]
    exact Batches.rows_take h_take
  · rw [List.length_append, ← h.count]
    exact h_count

/-! ### The canonical file -/

/-- The batches of the canonical file hold these rows, a cell for each column. -/
structure HoldsRows (accepted : AcceptedImport) (rows : List TableRow) : Prop where
  rows_eq : accepted.canonical.flatMap CanonicalBatch.rows = rows
  count : accepted.inspection.exactRowCount = rows.length
  width : ∀ row ∈ rows, row.length = accepted.inspection.columns.length
  batch : ∀ batch ∈ accepted.canonical, 0 < batch.numRows ∧ batch.numRows ≤ 8192 ∧
    batch.columns.length = accepted.inspection.columns.length

/-- What is left after the loop writes the rows that the loop has taken. -/
theorem Writes.finish (h : Writes w rows) {columns : List ImportColumn} {containers : List String}
    {normalizationVersion : ℕ} {accepted : AcceptedImport}
    (h_width : ∀ row ∈ rows, row.length = columns.length)
    (h_finish : finishImport env columns containers rows.length normalizationVersion w =
      .ok accepted) : HoldsRows accepted rows ∧ accepted.inspection.columns = columns := by
  obtain ⟨batches, h_batches, h_rest⟩ := ok_of_bind h_finish
  simp only at h_rest
  split at h_rest
  · cases h_rest
  · cases h_rest
    have h_rows := (Batches.flatten_finish h_batches).trans h.rows_eq
    have h_written := h.bounded.finish h_batches
    have h_names : (columns.map (·.name)).length = columns.length := List.length_map _
    have h_each : ∀ batch ∈ batches.written, ∀ row ∈ batch, row.length = columns.length := by
      intro batch h_batch row h_row
      refine h_width row ?_
      rw [← h_rows]
      exact List.mem_flatten.mpr ⟨batch, h_batch, h_row⟩
    refine ⟨⟨?_, rfl, h_width, ?_⟩, rfl⟩
    · show (batches.written.map _).flatMap _ = rows
      rw [h_names, List.flatMap_map, ← h_rows, ← List.flatMap_id]
      exact List.flatMap_congr fun batch h_batch => rows_ofRows (h_each batch h_batch)
    · intro batch h_batch
      obtain ⟨batchRows, h_mem, rfl⟩ := List.mem_map.mp h_batch
      obtain ⟨h_ne, h_le⟩ := h_written batchRows h_mem
      refine ⟨List.length_pos_of_ne_nil h_ne, h_le, ?_⟩
      show ((List.range _).map _).length = _
      rw [List.length_map, List.length_range, h_names]

/-! ### CSV -/

theorem not_of_refuseIf {p : Prop} [Decidable p] {error : ImportError} {u : Unit}
    (h : refuseIf p error = .ok u) : ¬p := by
  intro h_p
  rw [refuseIf, if_pos h_p] at h
  cases h

/-- The checks of the header leave the stripped names, one for each column. -/
theorem checkHeader_ok {mapping : Option (List String)} {header rawNames : List String}
    (h : checkHeader env mapping header = .ok rawNames) : rawNames = header.map pyStrip ∧
      (finalNames mapping rawNames).length = rawNames.length := by
  unfold checkHeader at h
  obtain ⟨_, -, h⟩ := ok_of_bind h
  obtain ⟨_, -, h⟩ := ok_of_bind h
  obtain ⟨_, -, h⟩ := ok_of_bind h
  obtain ⟨_, -, h⟩ := ok_of_bind h
  obtain ⟨_, h_length, h⟩ := ok_of_bind h
  cases h
  exact ⟨rfl, not_not.mp (not_of_refuseIf h_length)⟩

/-- Every column of the file has its column. -/
theorem map_zipIdx_zip {names names' : List String} (h : names'.length = names.length)
    {column : (String × String) × ℕ → ImportColumn}
    (h_column : ∀ e, (column e).originalName = e.1.1) :
    ((names.zip names').zipIdx.map column).map (·.originalName) = names := by
  have h_names : ((names.zip names').zipIdx.map column).map (·.originalName) =
      ((names.zip names').zipIdx.map Prod.fst).map Prod.fst := by
    rw [List.map_map, List.map_map]
    exact List.map_congr_left fun e _ => h_column e
  rw [h_names, List.zipIdx_map_fst, List.map_fst_zip h.ge]

/-- A row has as many fields as there are columns, and adds its cells. -/
theorem Writes.csvRow {names : List String} {detectors : Detectors} {fields : List String}
    (h : Writes w rows) (h_row : csvRow env names detectors w fields = .ok w') :
    Writes w' (rows ++ [fields.map cleanCell]) := by
  obtain ⟨_, -, h_row⟩ := ok_of_bind h_row
  obtain ⟨_, -, h_row⟩ := ok_of_bind h_row
  obtain ⟨scanned, h_scan, h_write⟩ := ok_of_bind h_row
  exact (h.scan h_scan).write h_write

/-- An accepted record has as many fields as the header. -/
theorem length_of_csvRow {names : List String} {detectors : Detectors} {fields : List String}
    (h_row : csvRow env names detectors w fields = .ok w') : fields.length = names.length := by
  obtain ⟨_, h_length, -⟩ := ok_of_bind h_row
  exact not_not.mp (not_of_refuseIf h_length)

/-- The rows of a CSV file, one after the other. -/
theorem Writes.csvLoop {names : List String} {detectors : Detectors} {records : List (List String)}
    (h_loop : records.foldlM (DqScoring.csvRow env names detectors) w = .ok w')
    {rows : List TableRow} (h : Writes w rows) :
    Writes w' (rows ++ records.map (·.map cleanCell)) := by
  revert rows
  refine foldlM_rule (R := fun w records w' => ∀ {rows}, Writes w rows →
    Writes w' (rows ++ records.map (·.map cleanCell))) ?_ ?_ h_loop
  · intro w rows h
    rw [List.map_nil, List.append_nil]
    exact h
  · intro w fields w₁ records w' h_row ih rows h
    rw [List.map_cons, List.append_cons]
    exact ih (h.csvRow h_row)

/-- An accepted CSV file. -/
theorem holdsRows_csv {delimiter : Char} {mapping : Option (List String)} {raw : ByteArray}
    {accepted : AcceptedImport} (h : processCsv env delimiter mapping raw = .ok accepted) :
    ∃ text header records, decodeUtf8Sig raw = some text ∧
      csvReader delimiter csvFieldLimit text.toList = (header :: records, none) ∧
      accepted.inspection.columns.map (·.originalName) = header.map pyStrip ∧
      HoldsRows accepted (records.map (·.map cleanCell)) := by
  unfold processCsv at h
  split at h
  · cases h
  · -- the bytes decode
    rename_i text h_text
    split at h
    · cases h
    · cases h
    · -- the file has a header
      rename_i header records error h_records
      obtain ⟨rawNames, h_header, h⟩ := ok_of_bind h
      obtain ⟨_, -, h⟩ := ok_of_bind h
      obtain ⟨rfl, h_length⟩ := checkHeader_ok h_header
      have h_columns : (csvColumns mapping (header.map pyStrip)).map (·.originalName) =
          header.map pyStrip := map_zipIdx_zip h_length fun _ => rfl
      obtain ⟨w, h_loop, h⟩ := ok_of_bind h
      obtain ⟨_, h_error, h⟩ := ok_of_bind h
      obtain ⟨_, -, h⟩ := ok_of_bind h
      -- the reader has ended without an error
      have h_none : error = none := Option.not_isSome_iff_eq_none.mp (not_of_refuseIf h_error)
      have h_writes := Writes.csvLoop h_loop (writes_initial _ _)
      rw [List.nil_append] at h_writes
      -- every record has as many fields as the header, or the loop would have stopped
      have h_each : ∀ row ∈ records.map (·.map cleanCell),
          row.length = (csvColumns mapping (header.map pyStrip)).length := by
        intro row h_row
        obtain ⟨fields, h_fields, rfl⟩ := List.mem_map.mp h_row
        have h_fields' := forall_of_foldlM_ok (P := fun fields : List String => fields.length =
          ((csvColumns mapping (header.map pyStrip)).map (·.name)).length)
          (fun _ _ _ => length_of_csvRow) h_loop fields h_fields
        rw [List.length_map] at h_fields' ⊢
        exact h_fields'
      rw [h_writes.count] at h
      obtain ⟨h_holds, h_same⟩ := h_writes.finish h_each h
      subst h_none
      exact ⟨text, header, records, h_text, h_records, by rw [h_same, h_columns], h_holds⟩

/-! ### JSONL: the records -/

/-- The objects of the lines that are not blank. -/
def IsRecords (limits : ParserLimits) (lines : List (List Char))
    (records : List (List (String × Json))) : Prop :=
  List.Forall₂
    (fun line entries => parseStructuredJson limits (stripLine line) = .ok (.obj entries))
    (lines.filter fun line => stripLine line ≠ "") records

/-- The records of a file are determined by its lines. -/
theorem IsRecords.unique {limits : ParserLimits} {lines : List (List Char)}
    {records records' : List (List (String × Json))} (h : IsRecords limits lines records)
    (h' : IsRecords limits lines records') : records = records' := by
  unfold IsRecords at h h'
  generalize lines.filter (fun line => stripLine line ≠ "") = lines at h h'
  induction h generalizing records' with
  | nil => exact (List.forall₂_nil_left_iff.mp h').symm
  | cons h_line _ ih =>
    obtain ⟨entries, rest, h_entries, h_rest, rfl⟩ := List.forall₂_cons_left_iff.mp h'
    rw [h_line] at h_entries
    cases h_entries
    rw [ih h_rest]

/-- A blank line holds no record. -/
theorem isRecords_cons_of_blank {limits : ParserLimits} {line : List Char}
    {lines : List (List Char)} {records : List (List (String × Json))}
    (h_blank : stripLine line = "") (h : IsRecords limits lines records) :
    IsRecords limits (line :: lines) records := by
  rw [IsRecords, List.filter_cons_of_neg (by simp [h_blank])]
  exact h

/-- A line that is not blank holds one record. -/
theorem isRecords_cons {limits : ParserLimits} {line : List Char} {lines : List (List Char)}
    {entries : List (String × Json)} {records : List (List (String × Json))}
    (h_line : stripLine line ≠ "")
    (h_entries : parseStructuredJson limits (stripLine line) = .ok (.obj entries))
    (h : IsRecords limits lines records) :
    IsRecords limits (line :: lines) (entries :: records) := by
  rw [IsRecords, List.filter_cons_of_pos (by simp [h_line])]
  exact .cons h_entries h

/-! ### JSONL: the schema pass -/

/-- The pass keeps what it knows and has seen the entries: each key has its column, which is one of
containers if the value is. -/
structure Collects (s : SchemaPass) (entries : List (String × Json)) (s' : SchemaPass) : Prop where
  keys : ∀ key ∈ s.keysOrder, key ∈ s'.keysOrder
  containers : s.containerColumns ⊆ s'.containerColumns
  seen : ∀ e ∈ entries, e.1 ∈ s'.keysOrder ∧
    (e.2.kind = .object ∨ e.2.kind = .array → e.1 ∈ s'.containerColumns)

theorem collects_nil (s : SchemaPass) : Collects s [] s :=
  ⟨fun _ h => h, fun _ h => h, List.forall_mem_nil _⟩

/-- The names of two lists of entries are collected one list after the other. -/
theorem Collects.append {s s₁ s' : SchemaPass} {entries entries' : List (String × Json)}
    (h : Collects s entries s₁) (h' : Collects s₁ entries' s') :
    Collects s (entries ++ entries') s' where
  keys key h_key := h'.keys key (h.keys key h_key)
  containers _ h_key := h'.containers (h.containers h_key)
  seen := by
    intro e h_e
    rcases List.mem_append.mp h_e with h_old | h_new
    · obtain ⟨h_key, h_container⟩ := h.seen e h_old
      exact ⟨h'.keys _ h_key, fun h_kind => h'.containers (h_container h_kind)⟩
    · exact h'.seen e h_new

/-- One entry adds its name, unless the name is there. -/
theorem collects_addKey {s s' : SchemaPass} {e : String × Json} (h : s.addKey e = .ok s') :
    Collects s [e] s' ∧ s'.rowCount = s.rowCount := by
  unfold SchemaPass.addKey at h
  simp only at h
  split at h
  · cases h
  · cases h
    refine ⟨⟨?_, ?_, List.forall_mem_singleton.mpr ⟨?_, ?_⟩⟩, rfl⟩
    · intro key h_key
      show key ∈ if e.1 ∉ s.keysOrder then s.keysOrder ++ [e.1] else s.keysOrder
      split
      · exact List.mem_append_left _ h_key
      · exact h_key
    · show s.containerColumns ⊆ if _ then _ else _
      split
      · exact Finset.subset_insert _ _
      · exact Finset.Subset.refl _
    · show e.1 ∈ if e.1 ∉ s.keysOrder then s.keysOrder ++ [e.1] else s.keysOrder
      split
      case isTrue => exact List.mem_append_right _ List.mem_cons_self
      case isFalse h_old => exact not_not.mp h_old
    · intro h_kind
      show e.1 ∈ if e.2.kind = .object ∨ e.2.kind = .array then _ else _
      rw [if_pos h_kind]
      exact Finset.mem_insert_self _ _

/-- One record adds its names in order. -/
theorem collects_entries {entries : List (String × Json)} {s s' : SchemaPass}
    (h : entries.foldlM SchemaPass.addKey s = .ok s') :
    Collects s entries s' ∧ s'.rowCount = s.rowCount := by
  refine foldlM_rule (R := fun s entries s' => Collects s entries s' ∧ s'.rowCount = s.rowCount)
    (fun s => ⟨collects_nil s, rfl⟩) ?_ h
  intro s e s₁ entries s' h_step h_rest
  obtain ⟨h_collects, h_count⟩ := collects_addKey h_step
  exact ⟨h_collects.append h_rest.1, h_rest.2.trans h_count⟩

/-- A line is blank, or it holds a record whose keys are collected. -/
theorem addLine_ok {s s' : SchemaPass} {line : List Char} (h : s.addLine env line = .ok s') :
    lineBytes line ≤ maxRecordBytes ∧
      ((stripLine line = "" ∧ Collects s [] s' ∧ s'.rowCount = s.rowCount) ∨
        ∃ entries, stripLine line ≠ "" ∧
          parseStructuredJson env.limits (stripLine line) = .ok (.obj entries) ∧
          Collects s entries s' ∧ s'.rowCount = s.rowCount + 1) := by
  unfold SchemaPass.addLine at h
  split at h
  · cases h
  · rename_i h_bytes
    refine ⟨Nat.le_of_not_lt h_bytes, ?_⟩
    simp only at h
    split at h
    · rename_i h_blank
      cases h
      exact .inl ⟨h_blank, ⟨fun _ h => h, fun _ h => h, List.forall_mem_nil _⟩, rfl⟩
    · rename_i h_line
      split at h
      · cases h
      · cases h
      · cases h
      · rename_i entries h_entries
        obtain ⟨h_collects, h_count⟩ := collects_entries h
        exact .inr ⟨entries, h_line, h_entries,
          ⟨h_collects.keys, h_collects.containers, h_collects.seen⟩, h_count⟩
      · cases h

/-- What the schema pass says of some lines: it has the keys of their records and their number. -/
theorem collects_lines {lines : List (List Char)} {s s' : SchemaPass}
    (h : lines.foldlM (SchemaPass.addLine env) s = .ok s') :
    ∃ records, IsRecords env.limits lines records ∧ Collects s records.flatten s' ∧
      s'.rowCount = s.rowCount + records.length := by
  refine foldlM_rule (R := fun s lines s' => ∃ records, IsRecords env.limits lines records ∧
    Collects s records.flatten s' ∧ s'.rowCount = s.rowCount + records.length) ?_ ?_ h
  · exact fun s => ⟨[], .nil, collects_nil s, rfl⟩
  · rintro s line s₁ lines s' h_step ⟨records, h_records, h_rest, h_count⟩
    rcases (addLine_ok h_step).2 with ⟨h_blank, h_first, h_same⟩ |
      ⟨entries, h_line, h_entries, h_first, h_next⟩
    · exact ⟨records, isRecords_cons_of_blank h_blank h_records, h_first.append h_rest, by
        rw [h_count, h_same]⟩
    · refine ⟨entries :: records, isRecords_cons h_line h_entries h_records, ?_, ?_⟩
      · rw [List.flatten_cons]
        exact h_first.append h_rest
      · rw [h_count, h_next, List.length_cons]
        omega

/-- A line has at most as many characters as bytes. -/
theorem length_le_lineBytes (line : List Char) : line.length ≤ lineBytes line := by
  rw [lineBytes, ← String.utf8Len_toList, String.toList_ofList]
  induction line with
  | nil => exact Nat.zero_le _
  | cons c cs ih =>
    have h_c := c.utf8Size_pos
    rw [String.utf8Len_cons, List.length_cons]
    omega

/-- The pieces of an accepted file are its lines. -/
theorem schemaPass_ok {text : List Char} {s : SchemaPass} (h : schemaPass env text = .ok s) :
    ∃ records, IsRecords env.limits (textLines text) records ∧
      Collects {} records.flatten s ∧ s.rowCount = records.length := by
  have h_bytes : ∀ line ∈ readlines (8 * 1024 * 1024 + 2) text, lineBytes line ≤ maxRecordBytes :=
    forall_of_foldlM_ok (P := fun line => lineBytes line ≤ maxRecordBytes)
      (fun _ _ _ h_step => (addLine_ok h_step).1) h
  have h_lines : readlines (8 * 1024 * 1024 + 2) text = textLines text := by
    refine readlines_eq (by norm_num) fun line h_line => ?_
    -- every character has a byte
    have h_length : line.length ≤ lineBytes line := length_le_lineBytes line
    have h_line' := h_bytes line h_line
    unfold maxRecordBytes at h_line'
    omega
  unfold schemaPass at h
  rw [h_lines] at h
  obtain ⟨records, h_records, h_collects, h_count⟩ := collects_lines h
  exact ⟨records, h_records, h_collects, h_count.trans (Nat.zero_add _)⟩

/-! ### JSONL: the write pass -/

/-- A line of the second pass is blank, or it adds the row of its record. -/
theorem Writes.jsonlLine {s : SchemaPass} {names : List String} {detectors : Detectors}
    {line : List Char} (h_line : jsonlLine env s names detectors w line = .ok w') :
    (stripLine line = "" ∧ w' = w) ∨
      ∃ entries, stripLine line ≠ "" ∧
        parseStructuredJson env.limits (stripLine line) = .ok (.obj entries) ∧
        ∀ {rows}, Writes w rows → Writes w' (rows ++ [jsonlRow s entries]) := by
  unfold DqScoring.jsonlLine at h_line
  simp only at h_line
  split at h_line
  · rename_i h_blank
    cases h_line
    exact .inl ⟨h_blank, rfl⟩
  · rename_i h_some
    split at h_line
    · cases h_line
    · cases h_line
    · rename_i entries h_entries
      obtain ⟨scanned, h_scan, h_line⟩ := ok_of_bind h_line
      obtain ⟨_, -, h_write⟩ := ok_of_bind h_line
      exact .inr ⟨entries, h_some, h_entries, fun h => (h.scan h_scan).write h_write⟩
    · cases h_line

/-- The rows of a JSONL file, one after the other. -/
theorem Writes.jsonlLoop {s : SchemaPass} {names : List String} {detectors : Detectors}
    {lines : List (List Char)}
    (h_loop : lines.foldlM (DqScoring.jsonlLine env s names detectors) w = .ok w') :
    ∃ records, IsRecords env.limits lines records ∧ ∀ {rows}, Writes w rows →
      Writes w' (rows ++ records.map (jsonlRow s)) := by
  refine foldlM_rule (R := fun w lines w' => ∃ records, IsRecords env.limits lines records ∧
    ∀ {rows}, Writes w rows → Writes w' (rows ++ records.map (jsonlRow s))) ?_ ?_ h_loop
  · refine fun w => ⟨[], .nil, fun {rows} h => ?_⟩
    rw [List.map_nil, List.append_nil]
    exact h
  · rintro w line w₁ lines w' h_line ⟨records, h_records, ih⟩
    rcases Writes.jsonlLine h_line with ⟨h_blank, rfl⟩ | ⟨entries, h_some, h_entries, h_step⟩
    · exact ⟨records, isRecords_cons_of_blank h_blank h_records, ih⟩
    · refine ⟨entries :: records, isRecords_cons h_some h_entries h_records, fun {rows} h => ?_⟩
      rw [List.map_cons, List.append_cons]
      exact ih (h_step h)

/-- The columns of a JSONL file are those of the keys. -/
theorem jsonlRow_eq {mapping : Option (List String)} {s : SchemaPass}
    (h : (finalNames mapping s.keysOrder).length = s.keysOrder.length)
    (entries : List (String × Json)) :
    jsonlRow s entries = (jsonlColumns mapping s).map fun c =>
      jsonlCell c.structuralEncoding.isSome (getKey entries c.originalName) := by
  have h_cell : ∀ e : (String × String) × ℕ,
      jsonlCell (jsonlColumn s e.1.1 e.1.2 e.2).structuralEncoding.isSome
        (getKey entries (jsonlColumn s e.1.1 e.1.2 e.2).originalName) =
      jsonlCell (decide (e.1.1 ∈ s.containerColumns)) (getKey entries e.1.1) := by
    intro e
    by_cases h_container : e.1.1 ∈ s.containerColumns <;> simp [jsonlColumn, h_container]
  have h_fst : ((s.keysOrder.zip (finalNames mapping s.keysOrder)).zipIdx.map Prod.fst).map
      Prod.fst = s.keysOrder := by
    rw [List.zipIdx_map_fst, List.map_fst_zip h.ge]
  rw [jsonlColumns, List.map_map, jsonlRow]
  conv_lhs => rw [← h_fst, List.map_map, List.map_map]
  exact List.map_congr_left fun e _ => (h_cell e).symm

/-- An accepted JSONL file. -/
theorem holdsRows_jsonl {mapping : Option (List String)} {raw : ByteArray}
    {accepted : AcceptedImport} (h : processJsonl env mapping raw = .ok accepted) :
    ∃ text records, decodeUtf8Sig raw = some text ∧
      IsRecords env.limits (textLines (translateNewlines text.toList)) records ∧
      (∀ entries ∈ records, ∀ e ∈ entries,
        e.1 ∈ accepted.inspection.columns.map (·.originalName)) ∧
      HoldsRows accepted (records.map fun entries => accepted.inspection.columns.map fun c =>
        jsonlCell c.structuralEncoding.isSome (getKey entries c.originalName)) := by
  unfold processJsonl at h
  split at h
  · cases h
  · rename_i chars h_chars
    obtain ⟨text, h_text, rfl⟩ := Option.map_eq_some_iff.mp h_chars
    obtain ⟨s, h_schema, h⟩ := ok_of_bind h
    obtain ⟨_, h_keys, h⟩ := ok_of_bind h
    obtain ⟨_, -, h⟩ := ok_of_bind h
    obtain ⟨w, h_loop, h⟩ := ok_of_bind h
    obtain ⟨_, -, h_mapping⟩ := ok_of_bind h_keys
    obtain ⟨h_length, -⟩ := not_or.mp (not_of_refuseIf h_mapping)
    rw [not_not] at h_length
    -- the first pass collects the names in their order
    obtain ⟨records, h_records, h_collects, h_count⟩ := schemaPass_ok h_schema
    obtain ⟨records', h_records', h_writes⟩ := Writes.jsonlLoop h_loop
    -- both passes have parsed the same lines
    obtain rfl := h_records.unique h_records'
    have h_rows := h_writes (writes_initial _ _)
    rw [List.nil_append] at h_rows
    -- each row has a cell for every name
    have h_each : ∀ row ∈ records.map (jsonlRow s),
        row.length = (jsonlColumns mapping s).length := by
      intro row h_row
      obtain ⟨entries, -, rfl⟩ := List.mem_map.mp h_row
      rw [jsonlRow_eq h_length, List.length_map]
    have h_total : s.rowCount = (records.map (jsonlRow s)).length := by
      rw [h_count, List.length_map]
    rw [h_total] at h
    obtain ⟨h_holds, h_same⟩ := h_rows.finish h_each h
    have h_columns : (jsonlColumns mapping s).map (·.originalName) = s.keysOrder :=
      map_zipIdx_zip h_length fun _ => rfl
    refine ⟨text, records, h_text, h_records, ?_, ?_⟩
    · -- every key of a record is one of the columns
      intro entries h_entries e h_e
      rw [h_same, h_columns]
      exact (h_collects.seen e (List.mem_flatten.mpr ⟨entries, h_entries, h_e⟩)).1
    · rw [h_same, ← List.map_congr_left fun entries _ => jsonlRow_eq h_length entries]
      exact h_holds

/-! ### The imports -/

/-- **Rows of an import.** The batches of the canonical file hold a row for each record, in their
order, and as many as are counted; in JSONL every key of a record has its column. -/
theorem importedRows (env : ImportEnv δ) :
    (∀ delimiter mapping raw accepted, processCsv env delimiter mapping raw = .ok accepted →
      ∃ text header records, decodeUtf8Sig raw = some text ∧
        csvReader delimiter csvFieldLimit text.toList = (header :: records, none) ∧
        accepted.inspection.columns.map (·.originalName) = header.map pyStrip ∧
        HoldsRows accepted (records.map (·.map cleanCell))) ∧
    ∀ mapping raw accepted, processJsonl env mapping raw = .ok accepted →
      ∃ text records, decodeUtf8Sig raw = some text ∧
        IsRecords env.limits (textLines (translateNewlines text.toList)) records ∧
        (∀ entries ∈ records, ∀ e ∈ entries,
          e.1 ∈ accepted.inspection.columns.map (·.originalName)) ∧
        HoldsRows accepted (records.map fun entries => accepted.inspection.columns.map fun c =>
          jsonlCell c.structuralEncoding.isSome (getKey entries c.originalName)) :=
  ⟨fun _ _ _ _ => holdsRows_csv, fun _ _ _ => holdsRows_jsonl⟩

/-- Python on ASCII texts without numbers. -/
def plainPython : Python ℚ where
  upper := id
  lower := id
  repr := fun _ => ""
  errorText := fun _ => ""
  parseInt := fun _ => none
  parseFloat := fun _ => none
  ofRat := .ok
  decimal := fun _ => none

/-- An import without rules, on a disk that has room. -/
def plainImport : ImportEnv ℚ where
  tables := asciiScanner
  python := plainPython
  reader := { casefold := id, isDecimal := Char.isDigit, strptime := fun _ _ => none }
  limits := ⟨4300, 1000⟩
  order := ascending
  privacyColumns := []
  privacyRules := none
  freeBytes := fun _ => 1024 * 1024 * 1024
  errorText := fun _ => ""
  failureText := fun _ => ""
  reprText := id

/-- A file with two rows, of which one is empty. -/
def cityFile : String := "city\nHue\n\"\"\n"

/-- Two records, with an empty line between them; the second has a key of its own. -/
def cityLines : String := "\x7b\"city\":\"Hue\"\x7d\n\n\x7b\"city\":null,\"tags\":[\"a\"]\x7d\n"

theorem importedRows_city :
    (∃ accepted, processCsv plainImport ',' none cityFile.toUTF8 = .ok accepted ∧
      HoldsRows accepted [[some "Hue"], [none]]) ∧
    ∃ accepted, processJsonl plainImport none cityLines.toUTF8 = .ok accepted ∧
      HoldsRows accepted [[some "Hue", none], [none, some "[\"a\"]"]] := by
  constructor
  · have h_accepted : (processCsv plainImport ',' none cityFile.toUTF8).toOption.isSome = true := by
      decide +kernel
    cases h : processCsv plainImport ',' none cityFile.toUTF8 with
    | error e =>
      rw [h] at h_accepted
      cases h_accepted
    | ok accepted =>
      obtain ⟨text, header, records, h_text, h_records, -, h_rows⟩ :=
        (importedRows plainImport).1 ',' none _ accepted h
      have h_decoded : decodeUtf8Sig cityFile.toUTF8 = some cityFile := by
        decide +kernel
      obtain rfl : cityFile = text := Option.some.inj (h_decoded.symm.trans h_text)
      have h_read : csvReader ',' csvFieldLimit cityFile.toList =
          ([["city"], ["Hue"], [""]], none) := by decide +kernel
      obtain ⟨h_all, -⟩ := Prod.mk.inj (h_read.symm.trans h_records)
      obtain ⟨-, rfl⟩ := List.cons.inj h_all
      exact ⟨accepted, rfl, h_rows⟩
  · have h_written : (processJsonl plainImport none cityLines.toUTF8).toOption.map
        (fun accepted => accepted.canonical.flatMap CanonicalBatch.rows) =
        some [[some "Hue", none], [none, some "[\"a\"]"]] := by
      decide +kernel
    cases h : processJsonl plainImport none cityLines.toUTF8 with
    | error e =>
      rw [h] at h_written
      cases h_written
    | ok accepted =>
      obtain ⟨_, records, -, -, -, h_rows⟩ := (importedRows plainImport).2 none _ accepted h
      rw [h] at h_written
      -- the rows that the theorem speaks of are those of the canonical file
      have h_same := h_rows.rows_eq.symm.trans (Option.some.inj h_written)
      exact ⟨accepted, rfl, h_same ▸ h_rows⟩

end DqScoring
