import DqScoring.Common.DeterministicHash
import DqScoring.Common.PrivacyScanner
import DqScoring.Framework.BudgetedPrefix
import DqScoring.Workspace.Tables
import Mathlib.Data.String.Lemmas

/-!
# The summary of a scan

`build_summary` of `workers/privacy_scan_worker.py`: what a scan job stores of its result. The
summary is measured by the text of `json.dumps` with compact separators, which escapes whatever
is not printable ASCII and keeps the keys in the order of the source. `_bounded` counts one
separator for each record and two brackets, so the list that it keeps is never larger than
what it counted.
-/

open Framework

namespace DqScoring

/-! ### The text of a summary -/

/-- `"\\u{0:04x}"`. -/
def unicodeEscape (n : ℕ) : String :=
  "\\u" ++ String.ofList [(n / 4096 % 16).digitChar, (n / 256 % 16).digitChar,
    (n / 16 % 16).digitChar, (n % 16).digitChar]

/-- A character in a text of printable ASCII, as two surrogates from 2 ^ 16 on. -/
def escapeCharAscii (c : Char) : String :=
  if c = '"' then "\\\""
  else if c = '\\' then "\\\\"
  else if c = '\n' then "\\n"
  else if c = '\r' then "\\r"
  else if c = '\t' then "\\t"
  else if c.toNat = 8 then "\\b"
  else if c.toNat = 12 then "\\f"
  else if 32 ≤ c.toNat ∧ c.toNat ≤ 126 then String.singleton c
  -- two surrogates beyond the basic plane
  else if c.toNat < 0x10000 then unicodeEscape c.toNat
  else
    let n := c.toNat - 0x10000
    unicodeEscape (0xd800 + n / 1024) ++ unicodeEscape (0xdc00 + n % 1024)

/-- `json.dumps(s)`. -/
def quoteAscii (s : String) : String :=
  "\"" ++ String.join (s.toList.map escapeCharAscii) ++ "\""

example : quoteAscii "é\n😀" = "\"\\u00e9\\n\\ud83d\\ude00\"" := by decide

namespace DumpValue

mutual

/-- `json.dumps(…, separators=(",", ":"))`. -/
def compact : DumpValue → String
  | null => "null"
  | bool b => if b then "true" else "false"
  | int n => toString n
  | float x => String.ofList x.val.text
  | str s => quoteAscii s
  | list items => "[" ++ ",".intercalate (compactItems items) ++ "]"
  -- the braces are written as escapes
  | dict entries => "\x7b" ++ ",".intercalate (compactEntries entries) ++ "\x7d"

/-- The texts of the items of a list. -/
def compactItems : List DumpValue → List String
  | [] => []
  | v :: items => compact v :: compactItems items

/-- The texts of the entries of a dictionary. -/
def compactEntries : List (String × DumpValue) → List String
  | [] => []
  | (k, v) :: entries => (quoteAscii k ++ ":" ++ compact v) :: compactEntries entries

end

/-- `_json_size`. -/
def jsonSize (v : DumpValue) : ℕ := (compact v).utf8ByteSize

theorem compactItems_eq_map (items : List DumpValue) :
    compactItems items = items.map compact := by
  induction items with
  | nil => rfl
  | cons v items ih => rw [compactItems, ih, List.map_cons]

end DumpValue

/-! ### Records -/

/-- The text of a category. -/
def SensitiveCategory.text : SensitiveCategory → String
  | basicPersonalData => "BASIC_PERSONAL_DATA"
  | sensitivePersonalData => "SENSITIVE_PERSONAL_DATA"
  | confidentialBusinessData => "CONFIDENTIAL_BUSINESS_DATA"

/-- The text of a method. -/
def DetectionMethod.text : DetectionMethod → String
  | valuePattern => "VALUE_PATTERN"
  | columnName => "COLUMN_NAME"
  | customPattern => "CUSTOM_PATTERN"
  | legacy => "LEGACY"

/-- An entry of `scope_missing_columns` as a value. -/
def ScopeMissing.dump (entry : ScopeMissing) : DumpValue :=
  .dict [("rule_id", .str entry.ruleId), ("rule_revision", .int entry.ruleRevision),
    ("detector_code", .str entry.detectorCode),
    ("missing_columns", .list (entry.missingColumns.map .str))]

/-- What a summary lists of a finding. -/
structure ListedFinding where
  columnName : String
  path : String
  category : SensitiveCategory
  detectorCode : String
  ruleId : Option String
  ruleRevision : Option ℕ
  method : DetectionMethod
  matchedCount : ℕ
  observedCount : ℕ
  deriving DecidableEq

/-- `{k: f[k] for k in keys}`. -/
def DetectedFinding.listed (f : DetectedFinding) : ListedFinding :=
  { columnName := f.columnName
    path := f.path
    category := f.category
    detectorCode := f.detectorCode
    ruleId := f.ruleId
    ruleRevision := f.ruleRevision
    method := f.method
    matchedCount := f.matchedCount
    observedCount := f.observedCount }

/-- A listed finding as a value. -/
def ListedFinding.dump (f : ListedFinding) : DumpValue :=
  .dict [("column_name", .str f.columnName), ("path", .str f.path),
    ("category", .str f.category.text), ("detector_code", .str f.detectorCode),
    ("rule_id", f.ruleId.elim .null .str),
    ("rule_revision", f.ruleRevision.elim .null fun n => .int n),
    ("method", .str f.method.text), ("matched_count", .int f.matchedCount),
    ("observed_count", .int f.observedCount)]

/-- The summary of a scan; only a preview lists findings. -/
structure ScanSummary where
  totalRows : ℕ
  findingCount : ℕ
  columnsWithFindings : ℕ
  truncated : Bool
  scopeMissingColumns : List ScopeMissing
  findings : Option (List ListedFinding) := none

/-- A summary as a value. -/
def ScanSummary.dump (s : ScanSummary) : DumpValue :=
  .dict ([("total_rows", .int s.totalRows), ("finding_count", .int s.findingCount),
    ("columns_with_findings", .int s.columnsWithFindings), ("truncated", .bool s.truncated),
    ("scope_missing_columns", .list (s.scopeMissingColumns.map ScopeMissing.dump))] ++
    s.findings.toList.map fun listed => ("findings", .list (listed.map ListedFinding.dump)))

/-! ### Building it -/

/-- `MAX_SUMMARY_BYTES`. -/
def maxSummaryBytes : ℕ := 500 * 1024

/-- `_bounded`, over records that `dump` writes. -/
def bounded {α : Type} (dump : α → DumpValue) (items : List α) (budget : ℕ) : List α × Bool :=
  budgetedPrefix (fun item => (dump item).jsonSize + 1) budget 2 items

/-- `build_summary`. -/
def buildSummary (result : ScanReport) (purpose : ScanPurpose) : ScanSummary :=
  -- the scope and the findings get half of the budget each
  let half := maxSummaryBytes / 2 - 1024
  let scope := bounded ScopeMissing.dump result.scopeMissingColumns half
  let summary : ScanSummary :=
    { totalRows := result.totalRows
      findingCount := result.findings.length
      columnsWithFindings := (result.findings.map (·.columnName)).toFinset.card
      truncated := false
      scopeMissingColumns := scope.1 }
  let summary :=
    -- only a preview lists its findings
    match purpose with
    | .preview =>
      let listed := bounded ListedFinding.dump (result.findings.map DetectedFinding.listed) half
      { summary with findings := some listed.1, truncated := listed.2 }
    | .apply => summary
  { summary with truncated := summary.truncated || scope.2 }

/-! ### Sizes -/

/-- A character takes at most four bytes. -/
theorem utf8ByteSize_le_length (s : String) : s.utf8ByteSize ≤ 4 * s.length := by
  rw [← String.utf8Len_toList, ← String.length_toList]
  generalize s.toList = cs
  induction cs with
  | nil => exact Nat.zero_le _
  | cons c cs ih =>
    have h_c := c.utf8Size_le_four
    rw [String.utf8Len_cons, List.length_cons]
    omega

/-- Joined texts take at most one separator each. -/
theorem utf8ByteSize_intercalate_le (texts : List String) :
    (",".intercalate texts).utf8ByteSize ≤ (texts.map fun s => s.utf8ByteSize + 1).sum := by
  induction texts with
  | nil => exact Nat.zero_le _
  | cons s texts ih =>
    cases texts with
    | nil =>
      rw [String.intercalate_singleton, List.map_cons, List.sum_cons]
      omega
    | cons t texts =>
      rw [String.intercalate_cons_cons, String.utf8ByteSize_append, String.utf8ByteSize_append,
        List.map_cons, List.sum_cons]
      have h_comma : ",".utf8ByteSize = 1 := rfl
      omega

namespace DumpValue

/-- The size of a list is bounded by those of its items. -/
theorem jsonSize_list_le (items : List DumpValue) :
    (list items).jsonSize ≤ 2 + (items.map fun v => v.jsonSize + 1).sum := by
  have h_joined := utf8ByteSize_intercalate_le (compactItems items)
  rw [compactItems_eq_map, List.map_map] at h_joined
  rw [jsonSize, compact, compactItems_eq_map, String.utf8ByteSize_append,
    String.utf8ByteSize_append]
  have h_open : "[".utf8ByteSize = 1 := rfl
  have h_close : "]".utf8ByteSize = 1 := rfl
  have h_items : (items.map ((fun s => s.utf8ByteSize + 1) ∘ compact)).sum =
      (items.map fun v => v.jsonSize + 1).sum := rfl
  omega

/-- The size of entries counts keys, values and separators. -/
theorem sum_compactEntries (entries : List (String × DumpValue)) :
    ((compactEntries entries).map fun s => s.utf8ByteSize + 1).sum =
      (entries.map fun e => (quoteAscii e.1).utf8ByteSize + e.2.jsonSize + 2).sum := by
  induction entries with
  | nil => rfl
  | cons e entries ih =>
    obtain ⟨k, v⟩ := e
    have h_colon : ":".utf8ByteSize = 1 := rfl
    rw [compactEntries, List.map_cons, List.map_cons, List.sum_cons, List.sum_cons, ih,
      String.utf8ByteSize_append, String.utf8ByteSize_append, h_colon]
    show _ = (quoteAscii k).utf8ByteSize + (compact v).utf8ByteSize + 2 + _
    omega

/-- The size of a dictionary is bounded by those of its entries. -/
theorem jsonSize_dict_le (entries : List (String × DumpValue)) :
    (dict entries).jsonSize ≤
      2 + (entries.map fun e => (quoteAscii e.1).utf8ByteSize + e.2.jsonSize + 2).sum := by
  have h_joined := utf8ByteSize_intercalate_le (compactEntries entries)
  rw [sum_compactEntries] at h_joined
  rw [jsonSize, compact, String.utf8ByteSize_append, String.utf8ByteSize_append]
  have h_open : "\x7b".utf8ByteSize = 1 := rfl
  have h_close : "\x7d".utf8ByteSize = 1 := rfl
  omega

theorem jsonSize_bool_le (b : Bool) : (bool b).jsonSize ≤ 5 := by
  cases b <;> decide

/-- A number below 2 ^ 63 has at most 19 digits. -/
theorem jsonSize_int_le {n : ℕ} (h : n < 2 ^ 63) : (int n).jsonSize ≤ 76 := by
  have h_length : (toString (n : ℤ)).length ≤ 19 := by
    show n.repr.length ≤ 19
    exact (Nat.length_repr_le_iff (by decide)).mpr (Nat.lt_trans h (by decide))
  have h_bytes := utf8ByteSize_le_length (toString (n : ℤ))
  rw [jsonSize, compact]
  omega

end DumpValue

section bounded

variable {α : Type} (dump : α → DumpValue) (items : List α) (budget : ℕ)

/-- What a budget keeps is a prefix. -/
theorem bounded_prefix : (bounded dump items budget).1 <+: items :=
  budgetedPrefix_prefix _ _ _ _

/-- A budget reports a cut exactly when it cuts. -/
theorem bounded_cut_iff :
    (bounded dump items budget).2 = true ↔ (bounded dump items budget).1 ≠ items :=
  budgetedPrefix_cut_iff _ _ _ _

/-- What `_bounded` keeps is written within the budget. -/
theorem jsonSize_bounded_le (h_budget : 2 ≤ budget) :
    (DumpValue.list ((bounded dump items budget).1.map dump)).jsonSize ≤ budget := by
  have h_list := DumpValue.jsonSize_list_le ((bounded dump items budget).1.map dump)
  have h_cost : 2 + ((bounded dump items budget).1.map fun item =>
      (dump item).jsonSize + 1).sum ≤ budget := cost_budgetedPrefix_le h_budget items
  rw [List.map_map] at h_list
  exact Nat.le_trans h_list h_cost

end bounded

/-! ### The summary -/

/-- The bytes for one of the two lists. -/
def halfBudget : ℕ := maxSummaryBytes / 2 - 1024

section fields

variable (result : ScanReport) (purpose : ScanPurpose)

/-- The missing columns get half of the budget. -/
theorem buildSummary_scopeMissingColumns : (buildSummary result purpose).scopeMissingColumns =
    (bounded ScopeMissing.dump result.scopeMissingColumns halfBudget).1 := by
  cases purpose <;> rfl

/-- The findings are listed for previews only, on the other half. -/
theorem buildSummary_findings : (buildSummary result purpose).findings =
    if purpose = .preview then
      some (bounded ListedFinding.dump (result.findings.map DetectedFinding.listed) halfBudget).1
    else none := by
  cases purpose <;> rfl

/-- The flag says whether either list was cut. -/
theorem buildSummary_truncated : (buildSummary result purpose).truncated =
    ((decide (purpose = .preview) &&
      (bounded ListedFinding.dump (result.findings.map DetectedFinding.listed) halfBudget).2) ||
      (bounded ScopeMissing.dump result.scopeMissingColumns halfBudget).2) := by
  cases purpose <;> rfl

end fields

/-- A bounded list of a summary takes at most half of the bytes, less a reserve. -/
theorem dump_jsonSize_le {s : ScanSummary} (h_rows : s.totalRows < 2 ^ 63)
    (h_count : s.findingCount < 2 ^ 63) (h_columns : s.columnsWithFindings < 2 ^ 63)
    {half : ℕ} (h_half : 2 * half + 1024 ≤ maxSummaryBytes)
    (h_scope : (DumpValue.list (s.scopeMissingColumns.map ScopeMissing.dump)).jsonSize ≤ half)
    (h_findings : ∀ listed ∈ s.findings,
      (DumpValue.list (listed.map ListedFinding.dump)).jsonSize ≤ half) :
    s.dump.jsonSize ≤ maxSummaryBytes := by
  have h_keys : (quoteAscii "total_rows").utf8ByteSize = 12 ∧
      (quoteAscii "finding_count").utf8ByteSize = 15 ∧
      (quoteAscii "columns_with_findings").utf8ByteSize = 23 ∧
      (quoteAscii "truncated").utf8ByteSize = 11 ∧
      (quoteAscii "scope_missing_columns").utf8ByteSize = 23 ∧
      (quoteAscii "findings").utf8ByteSize = 10 := by decide
  have h_dict := DumpValue.jsonSize_dict_le ([("total_rows", .int s.totalRows),
    ("finding_count", .int s.findingCount),
    ("columns_with_findings", .int s.columnsWithFindings), ("truncated", .bool s.truncated),
    ("scope_missing_columns", .list (s.scopeMissingColumns.map ScopeMissing.dump))] ++
    s.findings.toList.map fun listed => ("findings", .list (listed.map ListedFinding.dump)))
  have h_rows_size := DumpValue.jsonSize_int_le h_rows
  have h_count_size := DumpValue.jsonSize_int_le h_count
  have h_columns_size := DumpValue.jsonSize_int_le h_columns
  have h_flag_size := DumpValue.jsonSize_bool_le s.truncated
  -- the findings of a preview are one more entry
  have h_listed : ((s.findings.toList.map fun listed => ("findings", DumpValue.list
      (listed.map ListedFinding.dump))).map fun e =>
        (quoteAscii e.1).utf8ByteSize + e.2.jsonSize + 2).sum ≤ half + 12 := by
    cases h_some : s.findings with
    | none => exact Nat.zero_le _
    | some listed =>
      have h_size := h_findings listed h_some
      rw [Option.toList_some, List.map_singleton, List.map_singleton, List.sum_singleton]
      show (quoteAscii "findings").utf8ByteSize +
        (DumpValue.list (listed.map ListedFinding.dump)).jsonSize + 2 ≤ half + 12
      omega
  rw [List.map_append, List.sum_append] at h_dict
  simp only [List.map_cons, List.map_nil, List.sum_cons, List.sum_nil] at h_dict
  rw [ScanSummary.dump]
  omega

/-- Whatever a scan found, its summary fits, lists prefixes of what was found, and says
whether it left something out. Only a preview lists findings. A row count fits into 63 bits,
as the length of a list does. -/
theorem buildSummary_spec (result : ScanReport) (purpose : ScanPurpose)
    (h_rows : result.totalRows < 2 ^ 63) (h_findings : result.findings.length < 2 ^ 63) :
    (buildSummary result purpose).dump.jsonSize ≤ maxSummaryBytes ∧
      (buildSummary result purpose).scopeMissingColumns <+: result.scopeMissingColumns ∧
      ((buildSummary result purpose).findings.isSome = true ↔ purpose = .preview) ∧
      (∀ listed ∈ (buildSummary result purpose).findings,
        listed <+: result.findings.map DetectedFinding.listed) ∧
      ((buildSummary result purpose).truncated = true ↔
        (buildSummary result purpose).scopeMissingColumns ≠ result.scopeMissingColumns ∨
        ∃ listed ∈ (buildSummary result purpose).findings,
          listed ≠ result.findings.map DetectedFinding.listed) := by
  have h_columns : (result.findings.map (·.columnName)).toFinset.card < 2 ^ 63 := by
    have h_card := List.toFinset_card_le (result.findings.map (·.columnName))
    rw [List.length_map] at h_card
    exact Nat.lt_of_le_of_lt h_card h_findings
  -- half the budget is left for the listed findings
  have h_half : 2 * halfBudget + 1024 ≤ maxSummaryBytes := by decide
  have h_two : 2 ≤ halfBudget := by decide
  have h_scope := buildSummary_scopeMissingColumns result purpose
  have h_listed := buildSummary_findings result purpose
  -- the size, the scope, the findings, the prefixes and the flag
  refine ⟨?_, ?_, ?_, ?_, ?_⟩
  · -- the scope and the list take half the budget each
    apply dump_jsonSize_le ?_ ?_ ?_ h_half
    · rw [h_scope]
      exact jsonSize_bounded_le _ _ _ h_two
    · intro listed h_mem
      rw [h_listed] at h_mem
      split at h_mem
      · cases h_mem
        exact jsonSize_bounded_le _ _ _ h_two
      · cases h_mem
    · cases purpose <;> exact h_rows
    · cases purpose <;> exact h_findings
    · cases purpose <;> exact h_columns
  · rw [h_scope]
    exact bounded_prefix _ _ _
  · rw [h_listed]
    cases purpose <;> simp
  · intro listed h_mem
    rw [h_listed] at h_mem
    split at h_mem
    · cases h_mem
      exact bounded_prefix _ _ _
    · cases h_mem
  · -- truncated exactly where one of the two prefixes is cut
    rw [buildSummary_truncated, h_scope, h_listed, Bool.or_eq_true, or_comm, bounded_cut_iff]
    refine or_congr Iff.rfl ?_
    cases purpose with
    | apply => simp
    | preview => simp [bounded_cut_iff]

/-- A finding in a nested field. -/
def nestedEmail : DetectedFinding :=
  { columnName := "payload", path := "$.customer.contact.email"
    category := .basicPersonalData, detectorCode := "EMAIL", ruleId := none, ruleRevision := none
    matchedCount := 1, observedCount := 2, method := .valuePattern
    detectorRevision := builtinDetectorRevision, confidenceScore := 1 / 2 }

/-- As many of them as do not fit into half a summary. -/
def nestedReport : ScanReport :=
  { totalRows := 2, findings := List.replicate 1500 nestedEmail
    sensitiveColumns := ["payload"], scopeMissingColumns := [] }

/-- One of them takes at least 200 bytes. -/
theorem jsonSize_nestedEmail : 200 ≤ (ListedFinding.dump nestedEmail.listed).jsonSize := by
  decide +kernel

/-- The preview of the report fits, lists a proper prefix, and says so. -/
theorem buildSummary_spec_nestedReport : ∃ listed,
    (buildSummary nestedReport .preview).findings = some listed ∧
      listed <+: nestedReport.findings.map DetectedFinding.listed ∧
      listed ≠ nestedReport.findings.map DetectedFinding.listed ∧
      (buildSummary nestedReport .preview).dump.jsonSize ≤ maxSummaryBytes := by
  have h_length : nestedReport.findings.length = 1500 := List.length_replicate
  obtain ⟨h_size, -, -, h_listed, h_truncated⟩ :=
    buildSummary_spec nestedReport .preview (by decide) (by rw [h_length]; decide)
  have h_cut : (bounded ListedFinding.dump (nestedReport.findings.map DetectedFinding.listed)
      halfBudget).2 = true := by
    refine budgetedPrefix_cut_of_lt (by decide) ?_
    have h_sum : ((nestedReport.findings.map DetectedFinding.listed).map fun item =>
        (ListedFinding.dump item).jsonSize + 1).sum
        = 1500 * ((ListedFinding.dump nestedEmail.listed).jsonSize + 1) := by
      rw [nestedReport, List.map_replicate, List.map_replicate, List.sum_replicate_nat]
    rw [h_sum]
    have h_one := jsonSize_nestedEmail
    have h_budget : halfBudget = 254976 := by decide
    omega
  have h_says : (buildSummary nestedReport .preview).truncated = true := by
    rw [buildSummary_truncated, h_cut]
    rfl
  rcases h_truncated.mp h_says with h_scope | ⟨listed, h_some, h_ne⟩
  · exact absurd rfl h_scope
  · exact ⟨listed, h_some, h_listed listed h_some, h_ne, h_size⟩

end DqScoring
