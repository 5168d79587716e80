import DqScoring.Common.DeterministicHash
import DqScoring.Framework.Table
import DqScoring.Framework.Transaction
import DqScoring.Presentation.Requests

/-!
# Template packs

`services/template_pack_service.py` with the models of
`presentation/api/schemas/template_pack_schemas.py` that it stores: `import_pack` inserts every
template of a pack as a draft revision, or nothing.

`INSERT … ON CONFLICT DO NOTHING` looks for a row with the same primary key or the same revision
key. Where another transaction is about to commit one, it waits for that transaction to end, which
the locks of `insertTemplate` stand for. A column of type JSONB keeps a value without the order of
its keys (`jsonb`).
-/

namespace DqScoring

open Framework

/-! ### Packs -/

/-- The domains of templates. -/
inductive TemplateDomain where
  | finance | retail | healthcare | transportation | general
  deriving DecidableEq

def TemplateDomain.value : TemplateDomain → String
  | finance => "FINANCE"
  | retail => "RETAIL"
  | healthcare => "HEALTHCARE"
  | transportation => "TRANSPORTATION"
  | general => "GENERAL"

/-- The kinds of data that templates are for. -/
inductive TemplateDataType where
  | transactionEvent | masterData | dimensionTable | timeseries
  deriving DecidableEq

def TemplateDataType.value : TemplateDataType → String
  | transactionEvent => "TRANSACTION_EVENT"
  | masterData => "MASTER_DATA"
  | dimensionTable => "DIMENSION_TABLE"
  | timeseries => "TIMESERIES"

/-- Where a template comes from. -/
inductive ProvenanceKind where
  | publicStandard | organizationSpec | engineeringConvention
  deriving DecidableEq

def ProvenanceKind.value : ProvenanceKind → String
  | publicStandard => "PUBLIC_STANDARD"
  | organizationSpec => "ORGANIZATION_SPEC"
  | engineeringConvention => "ENGINEERING_CONVENTION"

/-- `Provenance`. -/
structure Provenance where
  kind : ProvenanceKind
  sourceUri : String
  sourceTitle : String
  sourceVersion : String
  sourceSection : String
  /-- The text of the time in JSON. -/
  retrievedAt : String
  license : String
  applicability : String

/-- The types of placeholders. -/
inductive PlaceholderType where
  | column | string | stringArray
  deriving DecidableEq

def PlaceholderType.value : PlaceholderType → String
  | column => "COLUMN"
  | string => "STRING"
  | stringArray => "STRING_ARRAY"

/-- What an example binds to a placeholder. -/
inductive BindingValue where
  | text (value : String)
  | texts (items : List String)

/-- What an example expects of a rule. -/
inductive ExampleOutcome where
  | passed | failed | missing | miscast | notApplicable
  deriving DecidableEq

def ExampleOutcome.value : ExampleOutcome → String
  | passed => "passed"
  | failed => "failed"
  | missing => "missing"
  | miscast => "miscast"
  | notApplicable => "not_applicable"

/-- `Example`. -/
structure TemplateExample where
  input : List (String × DumpValue)
  bindings : List (String × BindingValue)
  expected : List (String × ExampleOutcome)

/-- `PackTemplate`. -/
structure PackTemplate where
  templateCode : String
  name : String
  domain : TemplateDomain
  dataType : TemplateDataType
  targetUseCase : String
  description : String
  rulesPayload : List (List (String × DumpValue))
  provenance : Provenance
  examples : List TemplateExample
  placeholderSchema : List (String × PlaceholderType)

/-- `TemplatePack`, of which `validate_pack` wants distinct template codes. -/
structure TemplatePack where
  packCode : String
  revision : ℕ
  templates : List PackTemplate
  revision_mem : 1 ≤ revision ∧ revision ≤ 2147483647
  templates_mem : 1 ≤ templates.length ∧ templates.length ≤ 100
  codes_nodup : (templates.map PackTemplate.templateCode).Nodup

/-! ### Dumps -/

/-- `model_dump` of a provenance. -/
def Provenance.dump (p : Provenance) : DumpValue :=
  .dict [
    ("kind", .str p.kind.value),
    ("source_uri", .str p.sourceUri),
    ("source_title", .str p.sourceTitle),
    ("source_version", .str p.sourceVersion),
    ("source_section", .str p.sourceSection),
    ("retrieved_at", .str p.retrievedAt),
    ("license", .str p.license),
    ("applicability", .str p.applicability)]

/-- `model_dump` of a placeholder, which is always required. -/
def PlaceholderType.dump (p : PlaceholderType) : DumpValue :=
  .dict [("type", .str p.value), ("required", .bool true)]

def BindingValue.dump : BindingValue → DumpValue
  | text value => .str value
  | texts items => .list (items.map .str)

/-- `model_dump` of an example. -/
def TemplateExample.dump (e : TemplateExample) : DumpValue :=
  .dict [
    ("input", .dict e.input),
    ("bindings", .dict (e.bindings.map fun b => (b.1, b.2.dump))),
    ("expected", .dict (e.expected.map fun x => (x.1, .str x.2.value)))]

namespace PackTemplate

def rulesDump (t : PackTemplate) : DumpValue := .list (t.rulesPayload.map .dict)

def examplesDump (t : PackTemplate) : DumpValue := .list (t.examples.map TemplateExample.dump)

def placeholdersDump (t : PackTemplate) : DumpValue :=
  .dict (t.placeholderSchema.map fun p => (p.1, p.2.dump))

/-- The entries of `template.model_dump(mode="json")`. -/
def dump (t : PackTemplate) : List (String × DumpValue) := [
  ("template_code", .str t.templateCode),
  ("name", .str t.name),
  ("domain", .str t.domain.value),
  ("data_type", .str t.dataType.value),
  ("target_use_case", .str t.targetUseCase),
  ("description", .str t.description),
  ("rules_payload", t.rulesDump),
  ("provenance", t.provenance.dump),
  ("examples", t.examplesDump),
  ("placeholder_schema", t.placeholdersDump)]

/-- What the digest of a template is taken of. -/
def digested (t : PackTemplate) (revision : ℕ) : DumpValue :=
  .dict (("revision", .int revision) :: t.dump)

end PackTemplate

/-- `template_digest`. -/
def templateDigest (sha256 : ByteArray → String) (template : PackTemplate) (revision : ℕ) :
    String :=
  computeDeterministicHash sha256 (template.digested revision)

/-! ### The table -/

/-- A JSONB column keeps a value without the order of its keys. Numbers that it identifies, such as
`1` and `1.0`, are kept apart here, as the digest of a template does. -/
def jsonb (v : DumpValue) : DumpValue := v.sorted

/-- The statuses of a template. -/
inductive TemplateStatus where
  | draft | pendingApproval | active | deprecated
  deriving DecidableEq

/-- The columns with what a revision says. -/
structure TemplateContent where
  name : String
  domain : TemplateDomain
  dataType : TemplateDataType
  targetUseCase : String
  description : Option String
  rulesPayload : DumpValue
  provenance : DumpValue
  examples : DumpValue
  placeholderSchema : DumpValue

/-- A row of `ruleset_templates`. -/
structure RulesetTemplate where
  templateId : Uuid
  /-- Absent for the templates of the system. -/
  tenantId : Option Uuid
  templateCode : String
  revision : ℕ
  content : TemplateContent
  isSystemTemplate : Bool
  payloadSha256 : Option String
  status : TemplateStatus
  createdBy : Option Uuid

/-- The key of `uq_ruleset_template_revision_scope`. -/
def RulesetTemplate.revisionKey (row : RulesetTemplate) : Uuid × String × ℕ :=
  (row.tenantId.getD (Uuid.repeated 0), row.templateCode, row.revision)

/-- The table `ruleset_templates`. The index of active templates has no draft in it. -/
structure TemplateDb where
  rows : Table RulesetTemplate.templateId
  unique : rows.HasUniqueIndex fun row => some row.revisionKey

namespace TemplateDb

/-- Insert a row; refused if its keys are taken. -/
def insert (row : RulesetTemplate) (db : TemplateDb) : Option TemplateDb :=
  match db.rows.insert row with
  | none => none
  | some rows =>
    if h : rows.HasUniqueIndex fun row => some row.revisionKey then some ⟨rows, h⟩ else none

/-- There is a row with the same primary key, or the same revision key. -/
def conflicts (row : RulesetTemplate) (db : TemplateDb) : Bool :=
  db.rows.rows.any fun r => r.templateId = row.templateId || r.revisionKey = row.revisionKey

/-- The row of a revision of a tenant. -/
def findRevision (tenantId : Uuid) (templateCode : String) (revision : ℕ) (db : TemplateDb) :
    Option RulesetTemplate :=
  db.rows.rows.find? fun r =>
    r.tenantId = some tenantId && r.templateCode = templateCode && r.revision = revision

/-- The row of a template that a tenant may read. -/
def findVisible (templateId tenantId : Uuid) (db : TemplateDb) : Option RulesetTemplate :=
  (db.rows.find? templateId).filter fun r => r.tenantId = none || r.tenantId = some tenantId

end TemplateDb

/-! ### Loading -/

/-- The `validation_status` of a template. -/
inductive ValidationStatus where
  | legacyUnverified | structuralOnly
  deriving DecidableEq

/-- A template as `load_template` gives it. -/
structure TemplateItem where
  templateId : Uuid
  templateCode : String
  content : TemplateContent
  isSystemTemplate : Bool
  revision : ℕ
  status : TemplateStatus
  validationStatus : ValidationStatus

/-- The rules of a payload, which may be wrapped in an object. -/
def unwrapRules : DumpValue → DumpValue
  | .dict entries => (entries.lookup "rules").getD (.list [])
  | v => v

def RulesetTemplate.item (row : RulesetTemplate) : TemplateItem where
  templateId := row.templateId
  templateCode := row.templateCode
  -- the rules are stored under a key of their own
  content := { row.content with rulesPayload := unwrapRules row.content.rulesPayload }
  isSystemTemplate := row.isSystemTemplate
  revision := row.revision
  status := row.status
  -- a template of before the packs has no digest
  validationStatus := if row.payloadSha256.isNone then .legacyUnverified else .structuralOnly

/-- What an import locks: the keys of a row that it inserts. -/
inductive TemplateLock where
  | template (templateId : Uuid)
  | revision (key : Uuid × String × ℕ)
  deriving DecidableEq

/-- Transactions on the templates. -/
abbrev TemplateTxn := Txn TemplateDb TemplateLock HttpError

/-- `load_template`. -/
def loadTemplate (templateId tenantId : Uuid) : TemplateTxn TemplateItem := do
  let row ← Txn.select (TemplateDb.findVisible templateId tenantId)
  match row with
  | none => .raise ⟨404, "RESOURCE_NOT_FOUND"⟩
  | some row => return row.item

/-! ### Importing -/

/-- A request to import a pack. -/
structure ImportPackRequest where
  pack : TemplatePack
  tenantId : Uuid
  userId : Uuid
  /-- What `uuid4()` gives for each template. -/
  templateIds : ℕ → Uuid

/-- The answer of an import. -/
structure ImportPackAnswer where
  items : List TemplateItem
  created : ℕ
  existing : ℤ

/-- `INSERT … ON CONFLICT DO NOTHING RETURNING template_id`: whether the row was inserted. -/
def insertTemplate (row : RulesetTemplate) : TemplateTxn Bool := do
  let taken ← Txn.select (TemplateDb.conflicts row)
  if taken then return false
  else
    -- wait for a transaction that has inserted a row with one of the keys
    Txn.forUpdate (.template row.templateId)
    Txn.forUpdate (.revision row.revisionKey)
    let takenNow ← Txn.select (TemplateDb.conflicts row)
    if takenNow then return false
    else
      Txn.exec (TemplateDb.insert row)
      return true

/-- The content of a row that an import inserts. -/
def PackTemplate.content (t : PackTemplate) : TemplateContent where
  name := t.name
  domain := t.domain
  dataType := t.dataType
  targetUseCase := t.targetUseCase
  description := some t.description
  rulesPayload := jsonb (.dict [("rules", t.rulesDump)])
  provenance := jsonb t.provenance.dump
  examples := jsonb t.examplesDump
  placeholderSchema := jsonb t.placeholdersDump

section Import

variable (sha256 : ByteArray → String) (req : ImportPackRequest)

/-- The row that an import inserts for its `n`-th template. -/
def newTemplate (template : PackTemplate) (n : ℕ) : RulesetTemplate where
  templateId := req.templateIds n
  tenantId := some req.tenantId
  templateCode := template.templateCode
  revision := req.pack.revision
  content := template.content
  isSystemTemplate := false
  -- the digest covers the revision, not the ids
  payloadSha256 := some (templateDigest sha256 template req.pack.revision)
  status := .draft
  createdBy := some req.userId

/-- The error of a pack whose template is stored with another content. -/
def templateRevisionConflict : HttpError := ⟨409, "TEMPLATE_REVISION_CONFLICT"⟩

/-- One round of the loop of `import_pack`: the item, and whether it was created. -/
def importTemplate (template : PackTemplate) (n : ℕ) : TemplateTxn (TemplateItem × Bool) := do
  let inserted ← insertTemplate (newTemplate sha256 req template n)
  -- inserted, or the revision is there already
  if inserted then
    let item ← loadTemplate (req.templateIds n) req.tenantId
    return (item, true)
  else
    let row ← Txn.select
      (TemplateDb.findRevision req.tenantId template.templateCode req.pack.revision)
    match row with
    | none => .raise templateRevisionConflict
    | some row =>
      -- the same content is answered with the row that is there
      if row.payloadSha256 = some (templateDigest sha256 template req.pack.revision) then
        let item ← loadTemplate row.templateId req.tenantId
        return (item, false)
      else .raise templateRevisionConflict

/-- The loop of `import_pack`. -/
def importTemplates : List (PackTemplate × ℕ) → List TemplateItem → ℕ →
    TemplateTxn (List TemplateItem × ℕ)
  | [], items, created => return (items, created)
  | (template, n) :: rest, items, created => do
    let (item, isNew) ← importTemplate sha256 req template n
    importTemplates rest (items ++ [item]) (if isNew then created + 1 else created)

/-- `import_pack`. -/
def importPack : TemplateTxn ImportPackAnswer := do
  let (items, created) ← importTemplates sha256 req req.pack.templates.zipIdx [] 0
  return { items, created, existing := items.length - created }

end Import

/-- Imports in any interleaving. -/
def templateSystem (sha256 : ByteArray → String) :
    TxnSystem ℕ ImportPackRequest TemplateDb TemplateLock HttpError ImportPackAnswer where
  program := importPack sha256
  allowed := fun _ _ => True

end DqScoring
