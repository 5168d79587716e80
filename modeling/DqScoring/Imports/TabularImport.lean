import DqScoring.Framework.Batches
import DqScoring.Imports.ColumnProfile
import DqScoring.Imports.ImportPreview

/-!
# Imports of tables

What `_process_csv` and `_process_jsonl` of `adapters/source/tabular_import.py` share: the columns
of the result, the rows with their sizes, the samples for preview and profile, and the batches
of `_write_parquet_batch`. The canonical file is the list of its record batches, column by column.
-/

namespace DqScoring

open Framework

variable {δ : Type}

/-! ### Failures -/

/-- A parameter that is reported as invalid. -/
structure InvalidColumn where
  name : String
  code : String
  index : Option ℕ := none
  indices : Option (List ℕ) := none
  deriving DecidableEq

/-- What an import raises. -/
inductive ImportError where
  /-- `ImportInspectionException`. -/
  | inspection (errorCode detail : String) (invalidParams : Option (List InvalidColumn) := none)
  | raised (error : PyError)
  deriving DecidableEq

/-- `if …: raise …`. -/
def refuseIf (p : Prop) [Decidable p] (error : ImportError) : Except ImportError Unit :=
  if p then .error error else .ok ()

/-- What an import is run with: the libraries, the rules of the privacy scanner, the free
space of the scratch disk when a batch is written, and the texts of foreign exceptions. -/
structure ImportEnv (δ : Type) where
  tables : ScannerTables
  python : Python δ
  reader : SampleReader
  limits : ParserLimits
  order : SetOrder
  privacyColumns : List String
  privacyRules : Option { rules : List PrivacyDetectorRule //
    (rules.map fun r => tables.ruleIdText r.ruleId).Nodup }
  /-- The free bytes of the disk when so many batches have been written. -/
  freeBytes : ℕ → ℕ
  errorText : PyError → String
  failureText : JsonFailure → String
  /-- `repr` of a text. -/
  reprText : String → String

/-- `bytes` of a file, decoded as `utf-8-sig`. A file that is not UTF-8 is refused, whatever is read
before its first invalid byte. -/
def decodeUtf8Sig (raw : ByteArray) : Option String :=
  (String.fromUTF8? raw).map fun text =>
    match text.toList with
    | c :: cs => if c.toNat = 0xfeff then String.ofList cs else text
    | [] => text

/-! ### Columns -/

/-- A column of the schema. -/
structure ImportColumn where
  index : ℕ
  originalName : String
  name : String
  type : String := "STRING"
  nullable : Bool := true
  structuralEncoding : Option String := none
  logicalTypes : Option (List String) := none
  deriving DecidableEq

/-- `json.dumps` of a list of texts. -/
def dumpsTexts (texts : List String) : String :=
  "[" ++ ", ".intercalate (texts.map quoteAscii) ++ "]"

/-- `json.dumps` of a column. -/
def ImportColumn.dumps (c : ImportColumn) : String :=
  "\x7b\"index\": " ++ toString c.index ++ ", \"original_name\": " ++ quoteAscii c.originalName ++
    ", \"name\": " ++ quoteAscii c.name ++ ", \"type\": " ++ quoteAscii c.type ++
    ", \"nullable\": " ++ (if c.nullable then "true" else "false") ++
    ((c.structuralEncoding.map fun e => ", \"structural_encoding\": " ++ quoteAscii e).getD "") ++
    ((c.logicalTypes.map fun ts => ", \"logical_types\": " ++ dumpsTexts ts).getD "") ++ "\x7d"

/-- The schema is not too large. -/
def checkSchema (columns : List ImportColumn) : Except ImportError Unit :=
  refuseIf
    (500 * 1024 < ("[" ++ ", ".intercalate (columns.map ImportColumn.dumps) ++ "]").utf8ByteSize)
    (.inspection "SCHEMA_TOO_LARGE" "Schema definition exceeds 500 KiB")

/-- `column_names_mapping if column_names_mapping else raw_names`. -/
def finalNames (mapping : Option (List String)) (rawNames : List String) : List String :=
  match mapping with
  | some (name :: names) => name :: names
  | _ => rawNames

/-! ### Rows -/

/-- The cells of a row. -/
abbrev TableRow := List (Option String)

/-- `sum(len(c.encode("utf-8")) for c in row if c is not None)`. -/
def rowBytes (row : TableRow) : ℕ := (row.map fun cell => (cell.map String.utf8ByteSize).getD 0).sum

/-- The limit of a record, 8 MiB. -/
def maxRecordBytes : ℕ := 8 * 1024 * 1024

/-- `{names[i]: values[i] for i in range(len(names))}`: a name that occurs again keeps its place and
takes the later value. -/
def rowDict {V : Type} (names : List String) (values : List V) : List (String × V) :=
  (names.zip values).foldl (fun dict e =>
    if dict.any (·.1 == e.1) then dict.map fun e' => if e'.1 = e.1 then e else e'
    else dict ++ [e]) []

/-- A record batch: its columns, each with its cells. -/
structure CanonicalBatch where
  numRows : ℕ
  columns : List (List (Option String))

/-- The batch of some rows, built column by column. -/
def CanonicalBatch.ofRows (width : ℕ) (rows : List TableRow) : CanonicalBatch where
  numRows := rows.length
  columns := (List.range width).map fun index => columnCells rows index

/-- The rows of a batch. -/
def CanonicalBatch.rows (batch : CanonicalBatch) : List TableRow :=
  (List.range batch.numRows).map fun r => batch.columns.map fun column => column[r]?.join

/-- `_write_parquet_batch` asks for the reserve of the scratch disk first. -/
def checkStorage (env : ImportEnv δ) (written : ℕ) : Except ImportError Unit :=
  refuseIf (env.freeBytes written < 256 * 1024 * 1024)
    (.inspection "IMPORT_STORAGE_FULL" "Scratch storage reserve reached.")

/-! ### The write pass -/

/-- The state of the loop that writes the canonical file. -/
structure WritePass where
  scanner : ScannerState
  batches : Batches TableRow := {}
  rowCount : ℕ := 0
  previewRows : List PreviewRow := []
  profileSample : List TableRow := []
  sampleBytes : ℕ := 0
  warnings : List String

/-- The first rows are kept for the preview and, as far as they fit, for the profile. -/
def WritePass.sample (names : List String) (row : TableRow) (recBytes : ℕ) (w : WritePass) :
    WritePass :=
  let rowCount := w.rowCount + 1
  -- the first 50 rows are shown
  let previewRows :=
    if rowCount ≤ 50 then w.previewRows ++ [rowDict names row] else w.previewRows
  let w := { w with rowCount, previewRows }
  -- the first 1000 rows are profiled, up to 16 MiB
  if rowCount ≤ 1000 ∧ w.sampleBytes + recBytes ≤ 16 * 1024 * 1024 then
    { w with profileSample := w.profileSample ++ [row], sampleBytes := w.sampleBytes + recBytes }
  -- beyond the size, a single warning says so
  else if rowCount ≤ 1000 ∧ "PROFILE_SAMPLE_LIMIT" ∉ w.warnings then
    { w with warnings := w.warnings ++ ["PROFILE_SAMPLE_LIMIT"] }
  else w

/-- The row is written with its batch. -/
def WritePass.write (env : ImportEnv δ) (row : TableRow) (w : WritePass) :
    Except ImportError WritePass :=
  (w.batches.take rowBytes 8192 (16 * 1024 * 1024) (checkStorage env) row).map fun batches =>
    { w with batches }

/-- `scanner.feed_row`, whose exceptions become those of the import. -/
def WritePass.scan (env : ImportEnv δ) (detectors : Detectors) (row : ScanRow) (w : WritePass) :
    Except ImportError WritePass :=
  match detectors.feedRow env.tables w.scanner row with
  -- the detectors see every row
  | .ok scanner => .ok { w with scanner }
  | .error .limitExceeded =>
    .error (.inspection "PRIVACY_SCAN_LIMIT_EXCEEDED"
      ("Distinct finding paths exceeded limit of " ++ toString maxDistinctPaths))
  | .error (.other e) =>
    .error (.inspection "PRIVACY_SCAN_FAILED" ("Privacy scan error: " ++ env.errorText e))

/-! ### The result -/

/-- The result of an import. -/
structure TableInspection where
  exactRowCount : ℕ
  columns : List ImportColumn
  previewRows : List PreviewRow
  profile : SampleProfile
  warnings : List String
  normalizationVersion : ℕ
  sensitiveScan : ScanReport

/-- An import that was accepted, with the record batches of its canonical file. -/
structure AcceptedImport where
  inspection : TableInspection
  canonical : List CanonicalBatch

/-- The scanner of an import. -/
def ImportEnv.scanner (env : ImportEnv δ) (names : List String) : ScannerConfig env.tables where
  columns := names
  extraColumns := env.privacyColumns
  rules := env.privacyRules

/-- What is left after the loop: the last batch, the report of the scanner, preview and profile. -/
def finishImport (env : ImportEnv δ) (columns : List ImportColumn) (containers : List String)
    (totalRows normalizationVersion : ℕ) (w : WritePass) : Except ImportError AcceptedImport := do
  let names := columns.map (·.name)
  -- the last batch is shorter
  let batches ← w.batches.finish (checkStorage env)
  let config := env.scanner names
  let report := config.detectors.finish env.tables config.extraColumns.toFinset w.scanner
    (env.order.list w.scanner.topLevelCols)
  -- the preview hides what the scan has found sensitive
  match buildPreview env.tables.toUnicodeTables env.limits report.sensitiveColumns
    w.previewRows with
  | .error e => .error (.raised e)
  | .ok previewRows =>
    return {
      inspection := {
        exactRowCount := totalRows
        columns
        previewRows
        profile := buildProfile env.python env.reader names w.profileSample totalRows containers
        warnings := w.warnings
        normalizationVersion
        sensitiveScan := report }
      canonical := batches.written.map (CanonicalBatch.ofRows names.length) }

end DqScoring
