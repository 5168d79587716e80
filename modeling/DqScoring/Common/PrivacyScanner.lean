import DqScoring.Common.PrivacyRules
import DqScoring.Common.RedactionUtils
import DqScoring.Framework.ListOrder
import Mathlib.Algebra.Order.Field.Rat
import Mathlib.Data.Finset.Card
import Mathlib.Data.Multiset.Count
import Mathlib.Data.Prod.Lex
import Mathlib.Data.Rat.Floor
import Mathlib.Data.String.Basic

/-!
# The privacy scanner

`common/privacy.py`: the detectors and the accumulator over the rows of a dataset. A
dictionary of counters is the multiset of what it has counted. The names and the order of the
functions are those of the source; the stack of a structured cell is the recursion `leaves`,
which takes the last child first.

`ScannerTables` holds what the scanner calls and no source text shows: RE2, the digits of
`str.isdigit` and `int`, the text of a rule identifier, and the rounding of floats.
-/

open Framework

namespace DqScoring

/-- What the scanner calls. -/
structure ScannerTables extends UnicodeTables where
  /-- `str.isdigit` of one character. -/
  isDigitText : Char → Bool
  /-- `int` of one character, absent where it raises. -/
  decimalValue : Char → Option ℕ
  /-- `CompiledPrivacyRule.matches`. -/
  matchesRule : PrivacyDetectorRule → String → Bool
  /-- `str(rule_id)`. -/
  ruleIdText : RuleId → String
  /-- The float nearest to a number. -/
  nearest : ℚ → ℚ
  nearest_mono : Monotone nearest
  nearest_zero : nearest 0 = 0
  nearest_one : nearest 1 = 1

/-! ### Markers -/

def nameMarkers : List String :=
  ["name", "fullname", "full_name", "firstname", "first_name", "lastname", "last_name",
    "customername", "customer_name", "hoten", "ho_ten", "ten", "hovaten", "ho_va_ten",
    "sendername", "sender_name", "recipientname", "recipient_name", "beneficiaryname",
    "beneficiary_name", "clientname", "client_name", "employeename", "employee_name"]

def addressMarkers : List String :=
  ["address", "street", "city", "postalcode", "postal_code", "zipcode", "zip_code",
    "diachi", "dia_chi", "billingaddress", "billing_address", "shippingaddress",
    "shipping_address"]

def bankMarkers : List String :=
  ["accountnumber", "account_number", "bankaccount", "bank_account", "sotaikhoan",
    "so_tai_khoan", "stk", "iban", "routingnumber", "routing_number", "swiftcode", "swift_code"]

def secretMarkers : List String :=
  ["password", "passwd", "token", "secret", "apikey", "api_key", "privatekey", "private_key",
    "matkhau", "mat_khau"]

def phoneColMarkers : List String :=
  ["phone", "tel", "mobile", "dienthoai", "dien_thoai", "sdt", "so_dien_thoai"]

def vnIdColMarkers : List String :=
  ["cccd", "citizen_id", "national_id", "socccd", "so_cccd", "cmnd", "so_cmnd"]

/-- `_VALUE_CODES`. -/
def valueCodes : List BuiltinCode := [.email, .phone, .card, .ssn, .vnId]

/-- `_NAME_MARKERS_BY_CODE`. -/
def nameMarkersByCode : List (BuiltinCode × List String) :=
  [(.personName, nameMarkers), (.address, addressMarkers), (.bankAccount, bankMarkers),
    (.secret, secretMarkers)]

/-- `MAX_DISTINCT_PATHS`. -/
def maxDistinctPaths : ℕ := 10000

/-- `BUILTIN_DETECTOR_REVISION`. -/
def builtinDetectorRevision : String := "builtin-v1"

/-- `re.sub("[…]", "", text)`. -/
def withoutChars (p : Char → Bool) (text : String) : String :=
  String.ofList (text.toList.filter (!p ·))

/-- `_escape_pointer_key` of a key that is a string. -/
def escapePointerKey (key : String) : String := (key.replace "~" "~0").replace "/" "~1"

namespace ScannerTables

variable (t : ScannerTables)

/-- `_normalize_identifier`. -/
def normalizeIdentifier (name : String) : String :=
  t.lower (withoutChars (fun c => c == '_' || c == '-' || isPySpace c) name)

/-- `_is_matching_marker`. -/
def isMatchingMarker (colName : String) (markers : List String) : Bool :=
  let norm := (t.normalizeIdentifier colName).toList
  markers.any fun m =>
    norm == m.toList || ('_' :: m.toList).isSuffixOf norm || m.toList.isSuffixOf norm

/-! ### Patterns -/

/-- The text is one match of the pattern. -/
def whole (r : Regex) (text : String) : Bool := r.fullMatches t.isWord text.toList

/-- `_EMAIL_RE` -/
def emailRe (text : String) : Bool :=
  t.whole (.chars UnicodeTables.isLocalChar 1 none ++ .one (· == '@')
    ++ .chars UnicodeTables.isDomainChar 1 none ++ .one (· == '.') ++ .chars Char.isAlpha 2 none)
    text

/-- `_SSN_RE`: its three parts are not all zeros, and the first one not 666 or from 900. -/
def ssnRe (text : String) : Bool :=
  let cs := text.toList
  t.whole (t.digits 3 ++ .one (· == '-') ++ t.digits 2 ++ .one (· == '-') ++ t.digits 4) text
    && cs.take 3 != "000".toList && cs.take 3 != "666".toList && cs.take 1 != "9".toList
    && (cs.drop 4).take 2 != "00".toList && (cs.drop 7).take 4 != "0000".toList

/-- `_VN_PHONE_RE` -/
def vnPhoneRe (text : String) : Bool :=
  ["+84", "0"].any fun start =>
    start.toList.isPrefixOf text.toList &&
      let rest := String.ofList (text.toList.drop start.length)
      t.whole (.one ("35789".toList.contains ·) ++ t.digits 8) rest
        || t.whole (.one (· == '2') ++ t.digits 9) rest

/-- `_E164_PHONE_RE` -/
def e164PhoneRe (text : String) : Bool :=
  t.whole (.one (· == '+') ++ .one ("123456789".toList.contains ·)
    ++ .chars t.isDigit 6 (some 14)) text

/-- `_VN_ID_RE` -/
def vnIdRe (text : String) : Bool := t.whole (t.digits 12) text

/-- `is_valid_luhn`. -/
def isValidLuhn (cardNumber : String) : Except PyError Bool :=
  let clean := (withoutChars (fun c => c == '-' || isPySpace c) cardNumber).toList
  -- card numbers have 13 to 19 digits
  if clean.isEmpty || !clean.all t.isDigitText || clean.length < 13 || 19 < clean.length then
    .ok false
  else do
    let digits : List ℕ ← clean.mapM fun c =>
      -- a digit without a decimal value makes `int` raise
      match t.decimalValue c with
      | some n => .ok n
      | none => .error (.valueError "invalid literal for int()")
    let checksum : ℕ := (digits.reverse.zipIdx.map fun (d, i) =>
      -- every second digit from the right is doubled
      if i % 2 = 1 then (if 9 < d * 2 then d * 2 - 9 else d * 2) else d).sum
    return decide (checksum % 10 = 0)

/-- The phone number test of `_scan_builtin_leaf`. -/
def isPhone (topCol sval : String) : Bool :=
  let cleanPhone := withoutChars (fun c => c == '.' || c == '-' || isPySpace c) sval
  (t.isMatchingMarker topCol phoneColMarkers || sval.toList.head? == some '+')
    && (t.vnPhoneRe cleanPhone || t.e164PhoneRe cleanPhone)

/-- The card number test of `_scan_builtin_leaf`. -/
def isCard (sval : String) : Except PyError Bool :=
  let cleanDigits := withoutChars (fun c => c == '-' || isPySpace c) sval
  if 13 ≤ cleanDigits.length ∧ cleanDigits.length ≤ 19 then t.isValidLuhn cleanDigits
  else .ok false

/-- The codes of `_scan_builtin_leaf`, given the card number test. -/
def matchingCodes (topCol sval : String) (card : Bool) (codes : List BuiltinCode) :
    List BuiltinCode :=
  codes.filter fun
    -- what a detector looks at: the cell, and the column for two of them
    | .email => t.emailRe sval
    | .phone => t.isPhone topCol sval
    | .card => card
    | .ssn => t.ssnRe sval
    | .vnId => t.isMatchingMarker topCol vnIdColMarkers && t.vnIdRe sval
    | _ => false

/-- `_scan_builtin_leaf`: the codes that match. -/
def scanBuiltinLeaf (topCol sval : String) (codes : List BuiltinCode) :
    Except PyError (List BuiltinCode) :=
  if sval = "" then .ok []
  else if codes.contains .card then
    (t.isCard sval).map fun card => t.matchingCodes topCol sval card codes
  else .ok (t.matchingCodes topCol sval false codes)

end ScannerTables

/-! ### Detectors -/

/-- `_builtin_method`. -/
def builtinMethod (code : BuiltinCode) : DetectionMethod :=
  if (nameMarkersByCode.map Prod.fst).contains code then .columnName else .valuePattern

/-- What the scanner knows of a registered detector. -/
structure DetectorMeta where
  rule : Option PrivacyDetectorRule
  category : SensitiveCategory
  method : DetectionMethod
  revision : String
  code : String

/-- The detectors of a scanner, each under its key: the text of the rule's identifier, or the
builtin code without rules. A dictionary lists its assignments, the latest first. -/
structure Detectors where
  registered : List (String × DetectorMeta)
  builtins : List (BuiltinCode × String × Option PrivacyDetectorRule)
  customValue : List (String × PrivacyDetectorRule)
  customName : List (String × PrivacyDetectorRule)
  scopedRules : List PrivacyDetectorRule

namespace Detectors

/-- The detectors without rules: the builtin ones. -/
def ofBuiltins : Detectors where
  registered := builtinRuleCategories.reverse.map fun (code, category) =>
    (code.text, ⟨none, category, builtinMethod code, builtinDetectorRevision, code.text⟩)
  builtins := builtinRuleCategories.reverse.map fun (code, _) => (code, code.text, none)
  customValue := []
  customName := []
  scopedRules := []

/-- What is registered for a rule. -/
def ruleMeta (rule : PrivacyDetectorRule) : DetectorMeta :=
  match rule.kind with
  | .builtin => ⟨some rule, rule.category, (rule.builtinCode.map builtinMethod).getD .valuePattern,
      builtinDetectorRevision, (rule.builtinCode.map BuiltinCode.text).getD ""⟩
  | .columnName =>
    ⟨some rule, rule.category, .columnName, "custom-v" ++ toString rule.revision, rule.code⟩
  | .valuePattern =>
    ⟨some rule, rule.category, .customPattern, "custom-v" ++ toString rule.revision, rule.code⟩

variable (t : ScannerTables)

/-- The rules of a kind, each with its key. -/
def keyed (kind : DetectorKind) (rules : List PrivacyDetectorRule) :
    List (String × PrivacyDetectorRule) :=
  (rules.filter fun r => decide (r.kind = kind)).map fun r => (t.ruleIdText r.ruleId, r)

/-- The detectors of a sequence of rules, of which the enabled ones count. -/
def ofRules (rules : List PrivacyDetectorRule) : Detectors :=
  let enabled := rules.filter PrivacyDetectorRule.enabled
  { registered := enabled.reverse.map fun r => (t.ruleIdText r.ruleId, ruleMeta r)
    builtins := (keyed t .builtin enabled).reverse.filterMap fun (key, r) =>
      r.builtinCode.map fun code => (code, key, some r)
    customValue := keyed t .valuePattern enabled
    customName := keyed t .columnName enabled
    scopedRules := enabled.filter fun r => !r.columns.isEmpty }

variable (d : Detectors)

/-- The codes of `_plan`: the builtin value detectors of a column. -/
def builtinCodes (col : String) : List BuiltinCode :=
  valueCodes.filter fun code =>
    (d.builtins.lookup code).any fun entry => entry.2.all (·.appliesTo col)

/-- The custom rules of `_plan`. -/
def customs (col : String) : List (String × PrivacyDetectorRule) :=
  d.customValue.filter fun entry => entry.2.appliesTo col

/-- The keys of the builtin codes. -/
def builtinKeys (codes : List BuiltinCode) : List String :=
  codes.filterMap fun code => (d.builtins.lookup code).map Prod.fst

/-- The keys that `finish` marks for a column. -/
def columnMatches (col : String) : List String :=
  (nameMarkersByCode.filterMap fun (code, markers) =>
    match d.builtins.lookup code with
    | some (key, rule) =>
      if rule.all (·.appliesTo col) && t.isMatchingMarker col markers then some key else none
    | none => none) ++
  ((d.customName.filter fun entry => entry.2.appliesTo col && t.matchesRule entry.2 col).map
    Prod.fst)

end Detectors

/-! ### Rows -/

/-- A value of a row. -/
inductive ScanValue where
  | none
  | str (s : String)
  /-- Any other scalar, with what `str` makes of it. -/
  | scalar (text : Except PyError String)
  | dict (entries : List (String × ScanValue))
  | list (items : List ScanValue)

/-- `dict[str, Any]`. -/
abbrev ScanRow := List (String × ScanValue)

namespace ScanValue

mutual

/-- The scalars of a value with their paths, in the order of the stack. -/
def leaves (path : String) : ScanValue → List (String × ScanValue)
  | none => []
  | str s => [(path, str s)]
  | scalar text => [(path, scalar text)]
  | dict entries => leavesEntries path entries
  | list items => leavesItems path items

/-- The entries of an object, the last one first. -/
def leavesEntries (path : String) : List (String × ScanValue) → List (String × ScanValue)
  | [] => []
  | (key, v) :: entries =>
    leavesEntries path entries ++ leaves (path ++ "/" ++ escapePointerKey key) v

/-- The items of an array, the last one first. -/
def leavesItems (path : String) : List ScanValue → List (String × ScanValue)
  | [] => []
  | v :: items => leavesItems path items ++ leaves (path ++ "/*") v

end

/-- `str(value)` of a leaf. -/
def text : ScanValue → Except PyError String
  | str s => .ok s
  | scalar text => text
  | _ => .ok ""

/-- The leaves of a row: column, path and value. -/
def rowLeaves (row : ScanRow) : List (String × String × ScanValue) :=
  row.flatMap fun (col, v) => (leaves "" v).map fun (path, leaf) => (col, path, leaf)

end ScanValue

/-! ### The accumulator -/

/-- The key of a counter of matches: column, path, detector; in their order. -/
abbrev MatchKey := String ×ₗ String ×ₗ String

/-- The counter of a detector at a path. -/
def matchKey (col path key : String) : MatchKey := toLex (col, toLex (path, key))

/-- What the scanner has seen. -/
structure ScannerState where
  seenPaths : Finset (String × String) := ∅
  observedCounts : Multiset (String × String) := 0
  matchedCounts : Multiset MatchKey := 0
  topLevelCols : Finset String := ∅
  totalRows : ℕ := 0

/-- What `feed_row` can raise. -/
inductive ScanError where
  /-- `PrivacyScanLimitExceededException`. -/
  | limitExceeded
  | other (e : PyError)
  deriving DecidableEq

namespace Detectors

variable (t : ScannerTables) (d : Detectors)

/-- The keys of the custom rules that match a leaf, which is a text. -/
def customHits (col : String) : ScanValue → List String
  | .str s => ((d.customs col).filter fun entry => t.matchesRule entry.2 s).map Prod.fst
  | _ => []

/-- The keys of the builtin detectors that match a leaf. -/
def builtinHits (col : String) (leaf : ScanValue) : Except PyError (List String) :=
  if (d.builtinCodes col).isEmpty then .ok []
  else do
    let sval ← leaf.text
    let codes ← t.scanBuiltinLeaf col (pyStrip sval) (d.builtinCodes col)
    return d.builtinKeys codes

/-- The keys of the detectors that match a leaf. -/
def leafHits (col : String) (leaf : ScanValue) : Except PyError (List String) :=
  (d.builtinHits t col leaf).map (d.customHits t col leaf ++ ·)

/-- The step of a leaf. -/
def feedLeaf (st : ScannerState) (leaf : String × String × ScanValue) :
    Except ScanError ScannerState :=
  let (col, path, value) := leaf
  -- a new path beyond the limit stops the scan
  if (col, path) ∉ st.seenPaths ∧ maxDistinctPaths ≤ st.seenPaths.card then
    .error .limitExceeded
  else
    match d.leafHits t col value with
    | .error e => .error (.other e)
    -- the counts are kept per path, and per detector of a path
    | .ok hits => .ok { st with
        seenPaths := insert (col, path) st.seenPaths
        observedCounts := (col, path) ::ₘ st.observedCounts
        matchedCounts := st.matchedCounts + hits.map (matchKey col path) }

/-- `feed_row`. -/
def feedRow (st : ScannerState) (row : ScanRow) : Except ScanError ScannerState :=
  (ScanValue.rowLeaves row).foldlM (d.feedLeaf t)
    { st with
      totalRows := st.totalRows + 1
      topLevelCols := st.topLevelCols ∪ (row.map Prod.fst).toFinset }

/-! ### The result -/

/-- `_mark_column_match`. -/
def markColumnMatch (st : ScannerState) (entry : String × String) : ScannerState :=
  let (col, key) := entry
  let obs := if st.observedCounts.count (col, "") = 0 then st.totalRows
    else st.observedCounts.count (col, "")
  { st with
    matchedCounts := st.matchedCounts.filter (· ≠ matchKey col "" key)
      + Multiset.replicate obs (matchKey col "" key)
    observedCounts := st.observedCounts.filter (· ≠ (col, "")) + Multiset.replicate obs (col, "") }

end Detectors

/-- A finding of a scan. -/
structure DetectedFinding where
  columnName : String
  path : String
  category : SensitiveCategory
  detectorCode : String
  ruleId : Option String
  ruleRevision : Option ℕ
  matchedCount : ℕ
  observedCount : ℕ
  method : DetectionMethod
  detectorRevision : String
  confidenceScore : ℚ
  deriving DecidableEq

/-- A scoped rule with columns that the rows do not have. -/
structure ScopeMissing where
  ruleId : String
  ruleRevision : ℕ
  detectorCode : String
  missingColumns : List String
  deriving DecidableEq

/-- The result of a scan, a dictionary in the source. -/
structure ScanReport where
  status : String := "COMPLETE"
  detectorRevision : String := builtinDetectorRevision
  totalRows : ℕ
  findings : List DetectedFinding
  sensitiveColumns : List String
  scopeMissingColumns : List ScopeMissing
  deriving DecidableEq

/-- The integer nearest to a number, the even one of two. -/
def roundHalfEven (x : ℚ) : ℤ :=
  if x - ⌊x⌋ < 1 / 2 then ⌊x⌋
  else if 1 / 2 < x - ⌊x⌋ then ⌊x⌋ + 1
  else if ⌊x⌋ % 2 = 0 then ⌊x⌋
  else ⌊x⌋ + 1

/-- `round(min(1.0, matched / max(1, observed)), 4)`. -/
def ScannerTables.ratioConfidence (t : ScannerTables) (matched observed : ℕ) : ℚ :=
  let quotient := min 1 (t.nearest (matched / (max 1 observed : ℕ)))
  t.nearest (roundHalfEven (quotient * 10000) / 10000)

namespace Detectors

variable (t : ScannerTables) (d : Detectors)

/-- The finding of a counter. -/
def finding (st : ScannerState) (k : MatchKey) : Option DetectedFinding :=
  let col := (ofLex k).1
  let path := (ofLex (ofLex k).2).1
  let key := (ofLex (ofLex k).2).2
  let matched := st.matchedCounts.count k
  -- a path that was not counted has its matches as the total
  let observed := if st.observedCounts.count (col, path) = 0 then matched
    else st.observedCounts.count (col, path)
  (d.registered.lookup key).map fun m =>
    { columnName := col
      path := path
      category := m.category
      detectorCode := m.code
      ruleId := m.rule.map fun r => t.ruleIdText r.ruleId
      ruleRevision := m.rule.map (·.revision)
      matchedCount := matched
      observedCount := observed
      method := m.method
      detectorRevision := m.revision
      -- a name alone is certain, a content match has its ratio
      confidenceScore := if m.method = .columnName then 1 else t.ratioConfidence matched observed }

/-- `_scope_missing`. -/
def scopeMissing (topLevelCols : Finset String) : List ScopeMissing :=
  sortByKey (fun m => toLex (m.detectorCode, m.ruleId)) (d.scopedRules.filterMap fun rule =>
    -- the columns of the rule that the dataset does not have
    let missing := sortedSet (rule.columns.toFinset \ topLevelCols)
    if missing.isEmpty then none
    else some
      { ruleId := t.ruleIdText rule.ruleId
        ruleRevision := rule.revision
        detectorCode := ((d.registered.lookup (t.ruleIdText rule.ruleId)).map
          DetectorMeta.code).getD ""
        missingColumns := missing })

/-- `finish`, with the columns in the order in which the set is iterated. -/
def finish (extraColumns : Finset String) (st : ScannerState) (cols : List String) : ScanReport :=
  let st := (cols.flatMap fun col => (d.columnMatches t col).map (col, ·)).foldl markColumnMatch st
  let keys := sortedSet st.matchedCounts.toFinset
  { totalRows := st.totalRows
    findings := keys.filterMap (d.finding t st)
    sensitiveColumns := sortedSet (extraColumns ∪ (keys.map fun k => (ofLex k).1).toFinset)
    scopeMissingColumns := d.scopeMissing t st.topLevelCols }

end Detectors

/-! ### The scanner -/

/-- The arguments of a scanner. The rules of a pin are the latest revisions of different
rules. -/
structure ScannerConfig (t : ScannerTables) where
  /-- The names of `columns`. -/
  columns : List String := []
  extraColumns : List String := []
  rules : Option
    { rules : List PrivacyDetectorRule // (rules.map fun r => t.ruleIdText r.ruleId).Nodup } := none

/-- The order in which a set is iterated. -/
structure SetOrder where
  list : Finset String → List String
  mem_list : ∀ (s : Finset String) (x : String), x ∈ list s ↔ x ∈ s

namespace ScannerConfig

variable {t : ScannerTables} (config : ScannerConfig t)

/-- The detectors of the scanner. -/
def detectors : Detectors :=
  match config.rules with
  | none => .ofBuiltins
  | some rules => .ofRules t rules.val

/-- The new scanner. -/
def initial : ScannerState := { topLevelCols := (config.columns.filter (· ≠ "")).toFinset }

/-- `feed_row` for each row. -/
def feedRows (rows : List ScanRow) : Except ScanError ScannerState :=
  rows.foldlM (config.detectors.feedRow t) config.initial

/-- `feed_row` for each row, then `finish`. -/
def scan (order : SetOrder) (rows : List ScanRow) : Except ScanError ScanReport :=
  (config.feedRows rows).map fun st =>
    config.detectors.finish t config.extraColumns.toFinset st (order.list st.topLevelCols)

end ScannerConfig

end DqScoring
