import DqScoring.Framework.LineReader
import DqScoring.Imports.TabularImport

/-!
# Imports of JSONL files

`_process_jsonl` of `adapters/source/tabular_import.py` reads the file twice. The first pass
collects the keys of the records and the kinds of their values; it reads with `readline`, so that
a line that is too long is refused before it is read to its end. The second pass iterates over the
lines and writes them.
-/

namespace DqScoring

open Framework

variable {δ : Type}

/-! ### Lines -/

/-- `line.strip()`. -/
def stripLine (line : List Char) : String := pyStrip (String.ofList line)

/-- The bytes of a line. -/
def lineBytes (line : List Char) : ℕ := (String.ofList line).utf8ByteSize

/-! ### The schema pass -/

/-- What the first pass has collected. -/
structure SchemaPass where
  lineNo : ℕ := 0
  rowCount : ℕ := 0
  keysOrder : List String := []
  logicalTypes : String → Finset JsonKind := fun _ => ∅
  containerColumns : Finset String := ∅

/-- A key with its value; a key that is new has the next column. -/
def SchemaPass.addKey (s : SchemaPass) (e : String × Json) : Except ImportError SchemaPass :=
  let isNew := e.1 ∉ s.keysOrder
  -- the union of the keys is limited
  if isNew ∧ 1000 < s.keysOrder.length + 1 then
    .error (.inspection "TOO_MANY_COLUMNS" "JSONL key union exceeds 1000 columns")
  else
    .ok { s with
      keysOrder := if isNew then s.keysOrder ++ [e.1] else s.keysOrder
      -- the kinds that a key was seen with
      logicalTypes := Function.update s.logicalTypes e.1 (insert e.2.kind (s.logicalTypes e.1))
      containerColumns :=
        if e.2.kind = .object ∨ e.2.kind = .array then insert e.1 s.containerColumns
        else s.containerColumns }

/-- The step of a line. -/
def SchemaPass.addLine (env : ImportEnv δ) (s : SchemaPass) (line : List Char) :
    Except ImportError SchemaPass :=
  -- the size counts the bytes of the line as it stands in the file
  if maxRecordBytes < lineBytes line then
    .error (.inspection "RECORD_TOO_LARGE" ("JSONL line " ++ toString (s.lineNo + 1) ++
      " exceeds 8 MiB record limit"))
  else
    -- blank lines count for the line numbers only
    let s := { s with lineNo := s.lineNo + 1 }
    let stripped := stripLine line
    let start := "Line " ++ toString s.lineNo
    if stripped = "" then .ok s
    else
      match parseStructuredJson env.limits stripped with
      | .error (.structured "NESTING_TOO_DEEP") =>
        .error (.inspection "NESTING_TOO_DEEP" (start ++ " nesting depth exceeds limit: " ++
          env.failureText (.structured "NESTING_TOO_DEEP")))
      | .error (.structured code) =>
        .error (.inspection "MALFORMED_JSONL" (start ++ " error: " ++
          env.failureText (.structured code)))
      | .error (.raised e) =>
        .error (.inspection "MALFORMED_JSONL" (start ++ " is not valid JSON: " ++ env.errorText e))
      | .ok (.obj entries) => entries.foldlM addKey { s with rowCount := s.rowCount + 1 }
      | .ok _ =>
        -- the root of every line is an object
        .error (.inspection "NESTED_DATA_UNSUPPORTED" (start ++ " root must be a JSON object"))

/-- The first pass. -/
def schemaPass (env : ImportEnv δ) (text : List Char) : Except ImportError SchemaPass :=
  (readlines (8 * 1024 * 1024 + 2) text).foldlM (SchemaPass.addLine env) {}

/-! ### Columns -/

/-- The name of a kind. -/
def JsonKind.text : JsonKind → String
  | .null => "NULL"
  | .boolean => "BOOLEAN"
  | .number => "NUMBER"
  | .string => "STRING"
  | .object => "OBJECT"
  | .array => "ARRAY"

/-- The column of a key; those of containers are encoded as JSON. -/
def jsonlColumn (s : SchemaPass) (originalName name : String) (index : ℕ) : ImportColumn where
  index
  originalName
  name
  structuralEncoding := if originalName ∈ s.containerColumns then some "JSON" else none
  logicalTypes :=
    if originalName ∈ s.containerColumns then
      some (sortedSet ((s.logicalTypes originalName).image JsonKind.text))
    else none

/-- The columns of a JSONL file. -/
def jsonlColumns (mapping : Option (List String)) (s : SchemaPass) : List ImportColumn :=
  (s.keysOrder.zip (finalNames mapping s.keysOrder)).zipIdx.map fun e =>
    jsonlColumn s e.1.1 e.1.2 e.2

/-- The checks between the passes. -/
def checkKeys (mapping : Option (List String)) (s : SchemaPass) : Except ImportError Unit := do
  refuseIf (s.rowCount = 0 ∨ s.keysOrder = [])
    (.inspection "EMPTY_DATASET" "JSONL file contains 0 valid data rows")
  let names := finalNames mapping s.keysOrder
  refuseIf (names.length ≠ s.keysOrder.length ∨ ¬names.Nodup ∨ "" ∈ names)
    (.inspection "INVALID_COLUMN_MAPPING" "Mapped columns must be nonempty and one-to-one")

/-- The warnings before the second pass. -/
def jsonlWarnings (s : SchemaPass) : List String :=
  (if s.keysOrder.length = 1 then ["SINGLE_COLUMN_INPUT"] else []) ++
    if s.keysOrder.any fun key => 1 < (s.logicalTypes key).card then ["MIXED_SCALAR_TYPES"] else []

/-! ### The write pass -/

mutual

/-- A parsed value as the scanner gets it. -/
def Json.toScanValue : Json → ScanValue
  | .null => .none
  | .str s => .str s
  | .bool b => .scalar (.ok (if b then "True" else "False"))
  | .int n => .scalar (.ok (toString n))
  | .decimal d => .scalar (.ok d.str)
  | .arr items => .list (Json.toScanItems items)
  | .obj entries => .dict (Json.toScanEntries entries)

/-- The items of an array. -/
def Json.toScanItems : List Json → List ScanValue
  | [] => []
  | v :: items => v.toScanValue :: Json.toScanItems items

/-- The entries of an object. -/
def Json.toScanEntries : List (String × Json) → List (String × ScanValue)
  | [] => []
  | (key, v) :: entries => (key, v.toScanValue) :: Json.toScanEntries entries

end

/-- The cell of a value that a record has for a key. -/
def jsonlCell (isContainer : Bool) : Json → Option String
  | .null => none
  | v =>
    if isContainer then some v.canonical
    else
      match v with
      | .bool b => some (if b then "true" else "false")
      | v => some v.text

/-- `obj.get(key)`. -/
def getKey (entries : List (String × Json)) (key : String) : Json := (entries.lookup key).getD .null

/-- The row of a record. -/
def jsonlRow (s : SchemaPass) (entries : List (String × Json)) : TableRow :=
  s.keysOrder.map fun key => jsonlCell (decide (key ∈ s.containerColumns)) (getKey entries key)

/-- The step of a line. -/
def jsonlLine (env : ImportEnv δ) (s : SchemaPass) (names : List String) (detectors : Detectors)
    (w : WritePass) (line : List Char) : Except ImportError WritePass :=
  let stripped := stripLine line
  if stripped = "" then .ok w
  else
    match parseStructuredJson env.limits stripped with
    | .error (.structured code) => .error (.raised (.valueError code))
    | .error (.raised e) => .error (.raised e)
    | .ok (.obj entries) => do
      let w ← w.scan env detectors
        (rowDict names (s.keysOrder.map fun key => (getKey entries key).toScanValue))
      let rowVals := jsonlRow s entries
      refuseIf (maxRecordBytes < rowBytes rowVals)
        (.inspection "RECORD_TOO_LARGE" "JSONL record exceeds the byte limit.")
      (w.sample names rowVals (rowBytes rowVals)).write env rowVals
    -- a value of another type has no `get`
    | .ok _ => .error (.raised (.attributeError "object has no attribute 'get'"))

/-- The names of the columns that hold containers. -/
def containerNames (columns : List ImportColumn) : List String :=
  (columns.filter fun c => c.structuralEncoding.isSome).map (·.name)

/-- `_process_jsonl`. -/
def processJsonl (env : ImportEnv δ) (mapping : Option (List String)) (raw : ByteArray) :
    Except ImportError AcceptedImport :=
  match (decodeUtf8Sig raw).map fun text => translateNewlines text.toList with
  | none => .error (.raised (.valueError "invalid start byte"))
  | some text => do
    let s ← schemaPass env text
    checkKeys mapping s
    let columns := jsonlColumns mapping s
    checkSchema columns
    let names := columns.map (·.name)
    let config := env.scanner names
    let w ← (textLines text).foldlM (jsonlLine env s names config.detectors)
      { scanner := config.initial, warnings := jsonlWarnings s }
    -- the rows are counted by the first pass
    finishImport env columns (containerNames columns) s.rowCount
      (if s.containerColumns.Nonempty then 2 else 1) w

end DqScoring
