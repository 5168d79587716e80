import DqScoring.Common.Uuid
import Mathlib.Data.List.MinMax

/-!
# Privacy detector rules

`common/privacy_rules.py` without its request schemas: one revision of a detector rule,
the builtin detectors, and pins. The `rule_id` of a builtin rule is a version-5 UUID made
of the tenant and the builtin code, any other is drawn by `uuid4()`; `RuleId` keeps what
it is made of. A pin lists its rules in the order of the table: the source sorts them by
identifier, and nothing that reads a pin depends on the order. Its digest is not modelled.
-/

namespace DqScoring

/-- The categories of sensitive data. -/
inductive SensitiveCategory where
  | basicPersonalData | sensitivePersonalData | confidentialBusinessData
  deriving DecidableEq, Repr

/-- The builtin detectors. -/
inductive BuiltinCode where
  | email | phone | card | ssn | vnId | personName | address | bankAccount | secret
  deriving DecidableEq, Repr

/-- The text of a builtin code. -/
def BuiltinCode.text : BuiltinCode → String
  | email => "EMAIL"
  | phone => "PHONE"
  | card => "CARD"
  | ssn => "SSN"
  | vnId => "VN_ID"
  | personName => "PERSON_NAME"
  | address => "ADDRESS"
  | bankAccount => "BANK_ACCOUNT"
  | secret => "SECRET"

/-- `BUILTIN_RULE_CATEGORIES`. -/
def builtinRuleCategories : List (BuiltinCode × SensitiveCategory) :=
  [(.email, .basicPersonalData), (.phone, .basicPersonalData), (.card, .confidentialBusinessData),
    (.ssn, .sensitivePersonalData), (.vnId, .sensitivePersonalData),
    (.personName, .basicPersonalData), (.address, .basicPersonalData),
    (.bankAccount, .confidentialBusinessData), (.secret, .confidentialBusinessData)]

/-- `detection_method`: how a finding was detected. -/
inductive DetectionMethod where
  | valuePattern | columnName | customPattern | legacy
  deriving DecidableEq, Repr

/-- `MAX_ENABLED_RULES`. -/
def maxEnabledRules : ℕ := 100

/-- What a rule looks at. -/
inductive DetectorKind where
  | builtin | columnName | valuePattern
  deriving DecidableEq, Repr

/-- How a pattern has to match. -/
inductive MatchMode where
  | full | search
  deriving DecidableEq, Repr

/-- The identifier of a rule. -/
inductive RuleId where
  /-- `uuid5` of the tenant and the code. -/
  | builtin (code : BuiltinCode)
  | drawn (id : Uuid)
  deriving DecidableEq

/-- One revision of a detector rule. -/
structure PrivacyDetectorRule where
  ruleId : RuleId
  revision : ℕ
  code : String
  kind : DetectorKind
  category : SensitiveCategory
  enabled : Bool
  builtinCode : Option BuiltinCode := none
  pattern : Option String := none
  matchMode : MatchMode := .full
  caseSensitive : Bool := true
  columns : List String := []
  deriving DecidableEq

/-- The rule applies to a column; an empty scope means every column. -/
def PrivacyDetectorRule.appliesTo (rule : PrivacyDetectorRule) (columnName : String) : Bool :=
  rule.columns.isEmpty || decide (columnName ∈ rule.columns)

/-- The rules in force at one configuration version. -/
structure PinnedPrivacyRules where
  rules : List PrivacyDetectorRule
  configVersion : ℕ
  deriving DecidableEq

/-! ### Revisions -/

/-- The latest revision of a rule: `ORDER BY revision DESC LIMIT 1`. -/
def latestRevision (rules : List PrivacyDetectorRule) (ruleId : RuleId) :
    Option PrivacyDetectorRule :=
  (rules.filter fun r => decide (r.ruleId = ruleId)).argmax PrivacyDetectorRule.revision

/-- The latest revision of every rule: `SELECT DISTINCT ON (rule_id) …`. -/
def latestRules (rules : List PrivacyDetectorRule) : List PrivacyDetectorRule :=
  rules.filter fun r => decide (latestRevision rules r.ruleId = some r)

/-- `_enabled_count`. -/
def enabledCount (rules : List PrivacyDetectorRule) : ℕ :=
  (latestRules rules).countP PrivacyDetectorRule.enabled

/-- `privacy_detector_rules` accepts a row: its shape is that of its kind. -/
def PrivacyDetectorRule.wellShaped (r : PrivacyDetectorRule) : Bool :=
  if r.kind = .builtin then r.builtinCode.isSome && r.pattern.isNone
  else r.builtinCode.isNone && r.pattern.isSome

/-- The trigger `enforce_privacy_rule_revision` accepts a row. -/
def enforcePrivacyRuleRevision (rules : List PrivacyDetectorRule) (r : PrivacyDetectorRule) :
    Bool :=
  if rules.any fun r' => decide (r'.code = r.code) && decide (r'.ruleId ≠ r.ruleId) then false
  else
    match latestRevision rules r.ruleId with
    | none => decide (r.revision = 1)
    | some prev => decide (r.revision = prev.revision + 1 ∧ r.code = prev.code ∧ r.kind = prev.kind
        ∧ r.builtinCode = prev.builtinCode)

/-- `INSERT INTO privacy_detector_rules`. -/
def insertRule (rules : List PrivacyDetectorRule) (r : PrivacyDetectorRule) :
    Option (List PrivacyDetectorRule) :=
  if r.wellShaped && enforcePrivacyRuleRevision rules r then some (rules ++ [r]) else none

/-- The first revision of a builtin rule. -/
def builtinRule (code : BuiltinCode) (category : SensitiveCategory) : PrivacyDetectorRule where
  ruleId := .builtin code
  revision := 1
  code := code.text
  kind := .builtin
  category := category
  enabled := true
  builtinCode := some code

/-- The rules that a tenant starts with. -/
def builtinRules : List PrivacyDetectorRule :=
  builtinRuleCategories.map fun (code, category) => builtinRule code category

/-- The rules of a tenant are append-only, so those at a configuration version are the first ones:
the builtin rules make version 1 and each later version adds one revision. -/
def rulesAt (rules : List PrivacyDetectorRule) (configVersion : ℕ) : List PrivacyDetectorRule :=
  rules.take (configVersion + 8)

/-- The rules that a pin of some revisions has. -/
def pinnedRules (rules : List PrivacyDetectorRule) : List PrivacyDetectorRule :=
  (latestRules rules).filter PrivacyDetectorRule.enabled

end DqScoring
