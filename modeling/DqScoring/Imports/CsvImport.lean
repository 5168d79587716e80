import DqScoring.Framework.CsvReader
import DqScoring.Imports.TabularImport

/-!
# Imports of CSV files

`_process_csv` of `adapters/source/tabular_import.py`. The records after the header are the rows;
an empty cell is null. `holdsRows_csv` says that the batches of the canonical file are these rows,
in their order.
-/

namespace DqScoring

open Framework

variable {δ : Type}

/-! ### The header -/

/-- `csv.field_size_limit`. -/
def csvFieldLimit : ℕ := 8 * 1024 * 1024

/-- `str` of a list of indices. -/
def indicesText (indices : List ℕ) : String :=
  "[" ++ ", ".intercalate (indices.map toString) ++ "]"

/-- The indices at which a text stands. -/
def indicesOf (names : List String) (name : String) : List ℕ :=
  (names.zipIdx.filter fun e => e.1 = name).map Prod.snd

/-- The checks of the header, which give the names of the columns in the file. -/
def checkHeader (env : ImportEnv δ) (mapping : Option (List String)) (header : List String) :
    Except ImportError (List String) := do
  -- each check stops the import with the error of its kind
  refuseIf (header.all fun h => pyStrip h = "")
    (.inspection "EMPTY_DATASET" "CSV has no valid header row")
  let rawNames := header.map pyStrip
  refuseIf (1000 < rawNames.length)
    (.inspection "TOO_MANY_COLUMNS" ("CSV contains " ++ toString rawNames.length ++
      " columns; max 1000 allowed"))
  -- a mapping that was given may name the empty columns
  let emptyPositions := indicesOf rawNames ""
  refuseIf (emptyPositions ≠ [] ∧ mapping.getD [] = [])
    (.inspection "EMPTY_COLUMN_NAME"
      ("Empty column names detected at index(es): " ++ indicesText emptyPositions)
      (some (emptyPositions.map fun p =>
        { name := "col_" ++ toString p, code := "EMPTY_COLUMN_NAME", index := some p })))
  -- and tell apart those with the same name
  let dupCols := rawNames.eraseDups.filter fun name => 1 < rawNames.count name
  refuseIf (dupCols ≠ [] ∧ mapping.getD [] = [])
    (.inspection "DUPLICATE_COLUMN_NAME"
      ("Duplicate column names detected: [" ++ ", ".intercalate (dupCols.map env.reprText) ++ "]")
      (some (dupCols.map fun name =>
        { name, code := "DUPLICATE_COLUMN_NAME", indices := some (indicesOf rawNames name) })))
  -- a mapping has a name for every column
  refuseIf ((finalNames mapping rawNames).length ≠ rawNames.length)
    (.inspection "INVALID_COLUMN_MAPPING" "Mapped column count does not match original schema")
  return rawNames

/-- The columns of a CSV file. -/
def csvColumns (mapping : Option (List String)) (rawNames : List String) : List ImportColumn :=
  (rawNames.zip (finalNames mapping rawNames)).zipIdx.map fun e =>
    { index := e.2, originalName := e.1.1, name := e.1.2 }

/-! ### The rows -/

/-- `cell if cell != "" else None`. -/
def cleanCell (cell : String) : Option String := if cell = "" then none else some cell

/-- What the scanner is fed for a cell of text. -/
def scanCell : Option String → ScanValue
  | none => .none
  | some s => .str s

/-- The step of a row; the first row is on line 2. -/
def csvRow (env : ImportEnv δ) (names : List String) (detectors : Detectors) (w : WritePass)
    (row : List String) : Except ImportError WritePass := do
  -- line 1 is the header
  let lineIdx := w.rowCount + 2
  refuseIf (row.length ≠ names.length)
    (.inspection "MALFORMED_CSV" ("Row " ++ toString lineIdx ++ " has " ++ toString row.length ++
      " columns; expected " ++ toString names.length))
  let recBytes := (row.map String.utf8ByteSize).sum
  refuseIf (maxRecordBytes < recBytes)
    (.inspection "RECORD_TOO_LARGE" ("CSV row " ++ toString lineIdx ++
      " exceeds 8 MiB record limit"))
  let cleanedRow := row.map cleanCell
  -- the row is scanned before it is written
  let w ← w.scan env detectors (rowDict names (cleanedRow.map scanCell))
  (w.sample names cleanedRow recBytes).write env cleanedRow

/-- The loop over the rows and what follows it. -/
def csvRows (env : ImportEnv δ) (columns : List ImportColumn) (rows : List (List String))
    (error : Option CsvError) : Except ImportError AcceptedImport := do
  let names := columns.map (·.name)
  let config := env.scanner names
  -- the warning of a single column stands before those of the rows
  let w ← rows.foldlM (csvRow env names config.detectors)
    { scanner := config.initial
      warnings := if names.length = 1 then ["SINGLE_COLUMN_INPUT"] else [] }
  -- a syntax error is raised once the rows before it are read
  refuseIf error.isSome (.inspection "MALFORMED_CSV" "CSV syntax or UTF-8 is invalid.")
  refuseIf (w.rowCount = 0)
    (.inspection "EMPTY_DATASET" "Dataset contains a header but 0 data rows")
  finishImport env columns [] w.rowCount 1 w

/-- `_process_csv`. -/
def processCsv (env : ImportEnv δ) (delimiter : Char) (mapping : Option (List String))
    (raw : ByteArray) : Except ImportError AcceptedImport :=
  match decodeUtf8Sig raw with
  | none => .error (.inspection "MALFORMED_CSV" "CSV syntax or UTF-8 is invalid.")
  | some text =>
    match csvReader delimiter csvFieldLimit text.toList with
    | ([], some e) => .error (.inspection "MALFORMED_CSV" ("CSV parsing error: " ++ e.message))
    | ([], none) => .error (.inspection "EMPTY_DATASET" "CSV has no valid header row")
    | (header :: rows, error) => do
      let rawNames ← checkHeader env mapping header
      let columns := csvColumns mapping rawNames
      checkSchema columns
      csvRows env columns rows error

end DqScoring
