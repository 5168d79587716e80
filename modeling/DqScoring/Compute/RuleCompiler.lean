import DqScoring.Compute.TextRuleCompiler

/-!
# Compilation of a rule

`compile_rule`: the compiler of the rule's type, found by name, applied to the rule's
target column.
-/

namespace DqScoring

variable {α δ : Type}

/-- The rule types. -/
inductive RuleKind where
  | nonNull | typeParse | domainRange | crossField | uniqueness
  | textQuality | jsonField | jsonArray | spelling
  deriving DecidableEq, Repr

/-- The names that the compiler understands (`_COMPILERS`). -/
def compilers : List (String × RuleKind) := [
  ("NON_NULL", .nonNull), ("NOT_NULL", .nonNull), ("COMPLETENESS", .nonNull),
  ("TYPE_PARSE", .typeParse), ("TYPE", .typeParse), ("PARSER", .typeParse),
  ("DOMAIN_RANGE", .domainRange), ("RANGE", .domainRange), ("DOMAIN", .domainRange),
  ("ALLOWED_VALUES", .domainRange), ("REGEX", .domainRange),
  ("CROSS_FIELD", .crossField), ("CONSISTENCY", .crossField),
  ("COLUMN_COMPARISON", .crossField),
  ("UNIQUENESS", .uniqueness), ("UNIQUE", .uniqueness), ("DISTINCT", .uniqueness),
  ("TEXT_QUALITY", .textQuality), ("JSON_FIELD", .jsonField), ("JSON_ARRAY", .jsonArray),
  ("SPELLING", .spelling)]

/-- The type of a rule. -/
def ruleKind (python : Python δ) (rule : QualityRule α) : Option RuleKind :=
  compilers.lookup (python.upper rule.ruleType)

/-- `rule_target_column`: a rule has no such attribute, so its parameters decide. -/
def ruleTargetColumn (rule : QualityRule α) : PyValue :=
  (rule.parameters.get "target_column").orElse (rule.parameters.get "column")

/-- The compiler of a type. -/
def RuleKind.compile [LinearOrder δ] (rt : Runtime δ) (kind : RuleKind) (rule : QualityRule α)
    (target : PyValue) : Except PyError CompiledRule :=
  match kind with
  | nonNull => compileNonNull rule target
  | typeParse => compileTypeParse rt rule target
  | domainRange => compileDomainRange rt rule target
  | crossField => compileCrossField rt rule target
  | uniqueness => compileUniqueness rule target
  | textQuality => compileTextQuality rt rule target
  | jsonField => compileJsonField rt rule target
  | jsonArray => compileJsonArray rt rule target
  | spelling => compileSpelling rt rule target

/-- `compile_rule`. -/
def compileRule [LinearOrder δ] (rt : Runtime δ) (rule : QualityRule α) :
    Except PyError CompiledRule :=
  let target := ruleTargetColumn rule
  -- the target is tested before the type of the rule is
  if target.truthy = false then
    .error (.valueError ("Rule " ++ rule.ruleCode ++ " has no target column defined"))
  else
    match ruleKind rt.python rule with
    | none => .error (.valueError
        ("Rule " ++ rule.ruleCode ++ " has unsupported rule type '" ++ rule.ruleType ++ "'"))
    | some kind => kind.compile rt rule target

end DqScoring
