import Mathlib.Data.List.Basic

/-!
# The reader of the module `csv`

`csv.reader(lines, delimiter, strict=True)` with the other parameters of the default dialect: the
quotation mark `"`, which is doubled within a quoted field. The reader takes a line at a time, one
character after the other and then its end, until a record is complete. It is the automaton of
the standard library, whose states keep their names.
-/

namespace Framework

/-- The lines of a text that is opened with `newline=""`: they end with `\r`, `\n` or both, which
stay as they are. -/
def rawLines : List Char → List (List Char)
  | [] => []
  -- a carriage return and a newline end one line
  | '\r' :: '\n' :: cs => ['\r', '\n'] :: rawLines cs
  | c :: cs =>
    if c = '\n' ∨ c = '\r' then [c] :: rawLines cs
    else
      match rawLines cs with
      | [] => [[c]]
      | line :: lines => (c :: line) :: lines

/-- The states of the reader. -/
inductive CsvMode where
  | startRecord | startField | inField | inQuotedField | quoteInQuotedField | eatCrnl
  deriving DecidableEq

/-- A reader within a record: its state, the characters of the field and the fields before it. -/
structure CsvState where
  mode : CsvMode := .startRecord
  field : List Char := []
  fields : List String := []

/-- `csv.Error`. -/
structure CsvError where
  message : String
  deriving DecidableEq

namespace CsvState

variable (delimiter : Char) (fieldLimit : ℕ)

/-- `parse_save_field`. -/
def saveField (mode : CsvMode) (st : CsvState) : CsvState :=
  { mode, field := [], fields := st.fields ++ [String.ofList st.field] }

/-- `parse_add_char`. -/
def addChar (mode : CsvMode) (c : Char) (st : CsvState) : Except CsvError CsvState :=
  if fieldLimit ≤ st.field.length then
    .error ⟨"field larger than field limit (" ++ toString fieldLimit ++ ")"⟩
  else .ok { st with mode, field := st.field ++ [c] }

/-- `parse_process_char` at the start of a field. -/
def processStart (c : Char) (st : CsvState) : Except CsvError CsvState :=
  if c = '\n' ∨ c = '\r' then .ok (st.saveField .eatCrnl)
  else if c = '"' then .ok { st with mode := .inQuotedField }
  else if c = delimiter then .ok (st.saveField .startField)
  else st.addChar fieldLimit .inField c

/-- `parse_process_char`. -/
def processChar (st : CsvState) (c : Char) : Except CsvError CsvState :=
  match st.mode with
  | .startRecord =>
    -- blank lines between the records are skipped
    if c = '\n' ∨ c = '\r' then .ok { st with mode := .eatCrnl }
    else st.processStart delimiter fieldLimit c
  | .startField => st.processStart delimiter fieldLimit c
  | .inField =>
    if c = '\n' ∨ c = '\r' then .ok (st.saveField .eatCrnl)
    else if c = delimiter then .ok (st.saveField .startField)
    else st.addChar fieldLimit .inField c
  | .inQuotedField =>
    if c = '"' then .ok { st with mode := .quoteInQuotedField }
    else st.addChar fieldLimit .inQuotedField c
  | .quoteInQuotedField =>
    -- two quotes in a quoted field are one, otherwise the field has ended
    if c = '"' then st.addChar fieldLimit .inQuotedField c
    else if c = delimiter then .ok (st.saveField .startField)
    else if c = '\n' ∨ c = '\r' then .ok (st.saveField .eatCrnl)
    else .error ⟨"'" ++ String.singleton delimiter ++ "' expected after '\"'"⟩
  | .eatCrnl =>
    -- after a line end, only line ends may follow on the same line
    if c = '\n' ∨ c = '\r' then .ok st
    else .error ⟨"new-line character seen in unquoted field - " ++
      "do you need to open the file with newline=''?"⟩

/-- `parse_process_char` at the end of a line. -/
def processEnd (st : CsvState) : CsvState :=
  match st.mode with
  | .startRecord => st
  | .startField | .inField | .quoteInQuotedField => st.saveField .startRecord
  | .inQuotedField => st
  | .eatCrnl => { st with mode := .startRecord }

/-- A whole line. -/
def processLine (st : CsvState) (line : List Char) : Except CsvError CsvState :=
  (line.foldlM (processChar delimiter fieldLimit) st).map processEnd

end CsvState

/-- The records that the reader yields, and the error that it raises in place of a next one. -/
def csvRecords (delimiter : Char) (fieldLimit : ℕ) :
    CsvState → List (List Char) → List (List String) × Option CsvError
  | st, [] =>
    -- the file ended inside a field
    if st.field ≠ [] ∨ st.mode = .inQuotedField then ([], some ⟨"unexpected end of data"⟩)
    else ([], none)
  | st, line :: lines =>
    match st.processLine delimiter fieldLimit line with
    | .error e => ([], some e)
    | .ok st' =>
      -- the record is complete
      if st'.mode = .startRecord then
        let rest := csvRecords delimiter fieldLimit {} lines
        (st'.fields :: rest.1, rest.2)
      -- the record goes on in the next line
      else csvRecords delimiter fieldLimit st' lines

/-- `csv.reader(file, delimiter=…, strict=True)`. -/
def csvReader (delimiter : Char) (fieldLimit : ℕ) (text : List Char) :
    List (List String) × Option CsvError :=
  csvRecords delimiter fieldLimit {} (rawLines text)

end Framework
