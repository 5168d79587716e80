import DqScoring.Services.TemplatePacks

/-!
# Revisions of templates

What imports of template packs do to the stored revisions, in any interleaving of their
statements. A revision is never stored twice and never changes (`Grows`), and what a transaction
commits is known from what each of its templates found (`Imported`): a row that it inserted itself,
or a stored row with the digest of the template.

The digest stands for the content: the text that is hashed determines the template
(`digested_eq_iff`), and what SHA-256 has to do with it is one hypothesis, that it gives two texts
no common digest (`NoCollision`).
-/

namespace DqScoring

open Framework Relation

/-! ### The content that a digest is taken of -/

theorem DumpValue.sorted_singleton (key : String) (v : DumpValue) :
    (DumpValue.dict [(key, v)]).sorted = .dict [(key, v.sorted)] := by
  rw [DumpValue.sorted_dict, Json.sortedEntries, List.mergeSort_singleton]
  rfl

/-- Dictionaries that are equal as values have equal values. -/
theorem DumpValue.sorted_of_lookup {entries entries' : List (String × DumpValue)}
    (h_keys : (entries'.map (·.1)).Nodup)
    (h : (DumpValue.dict entries).sorted = (DumpValue.dict entries').sorted) {key : String}
    {v v' : DumpValue} (h_v : entries.lookup key = some v) (h_v' : entries'.lookup key = some v') :
    v.sorted = v'.sorted := by
  have h_perm : ∀ es : List (String × DumpValue), (Json.sortedEntries es).Perm es :=
    fun es => List.mergeSort_perm ..
  rw [DumpValue.sorted_dict, DumpValue.sorted_dict] at h
  have h_entries := DumpValue.dict.inj h
  have h_mem : (key, v) ∈ entries := by
    obtain ⟨before, after, rfl, -⟩ := List.lookup_eq_some_iff.mp h_v
    exact List.mem_append_right before List.mem_cons_self
  have h_sorted : (key, v.sorted) ∈ (Json.sortedEntries entries).map fun e => (e.1, e.2.sorted) :=
    List.mem_map.mpr ⟨(key, v), (h_perm entries).mem_iff.mpr h_mem, rfl⟩
  rw [h_entries] at h_sorted
  obtain ⟨e, h_e, h_eq⟩ := List.mem_map.mp h_sorted
  obtain ⟨rfl, h_value⟩ := Prod.mk.inj h_eq
  have h_lookup := lookup_of_mem h_keys ((h_perm entries').mem_iff.mp h_e)
  rw [h_v'] at h_lookup
  rw [Option.some.inj h_lookup, h_value]

/-- The values of the domains tell them apart. -/
theorem TemplateDomain.value_injective : Function.Injective TemplateDomain.value := by
  intro a b h
  cases a <;> cases b <;> first | rfl | exact absurd h (by decide)

/-- The values of the data types tell them apart. -/
theorem TemplateDataType.value_injective : Function.Injective TemplateDataType.value := by
  intro a b h
  cases a <;> cases b <;> first | rfl | exact absurd h (by decide)

namespace PackTemplate

variable {t t' : PackTemplate} {revision : ℕ}

/-- The keys that the digest covers are distinct, so sorting them loses none. -/
theorem keys_digested (t : PackTemplate) (revision : ℕ) :
    ((("revision", DumpValue.int revision) :: t.dump).map (·.1)).Nodup := by
  show ["revision", "template_code", "name", "domain", "data_type", "target_use_case",
    "description", "rules_payload", "provenance", "examples", "placeholder_schema"].Nodup
  decide

/-- Two templates of one revision have one digested value exactly if their codes and contents
agree. -/
theorem digested_eq_iff : (t.digested revision).sorted = (t'.digested revision).sorted ↔
    t.templateCode = t'.templateCode ∧ t.content = t'.content := by
  constructor
  · -- equal digests have equal values under every key
    intro h
    have h_value : ∀ (key : String) {v v' : DumpValue},
        (("revision", DumpValue.int revision) :: t.dump).lookup key = some v →
        (("revision", DumpValue.int revision) :: t'.dump).lookup key = some v' →
          v.sorted = v'.sorted :=
      fun _ _ _ h_v h_v' => DumpValue.sorted_of_lookup (keys_digested t' revision) h h_v h_v'
    have h_text : ∀ {s s' : String}, (DumpValue.str s).sorted = (DumpValue.str s').sorted →
        s = s' := fun h_s => DumpValue.str.inj h_s
    have h_code := h_text (h_value "template_code" rfl rfl)
    have h_name := h_text (h_value "name" rfl rfl)
    have h_domain := TemplateDomain.value_injective (h_text (h_value "domain" rfl rfl))
    have h_type := TemplateDataType.value_injective (h_text (h_value "data_type" rfl rfl))
    have h_use := h_text (h_value "target_use_case" rfl rfl)
    have h_description := h_text (h_value "description" rfl rfl)
    have h_rules : t.rulesDump.sorted = t'.rulesDump.sorted :=
      h_value "rules_payload" rfl rfl
    have h_provenance : t.provenance.dump.sorted = t'.provenance.dump.sorted :=
      h_value "provenance" rfl rfl
    have h_examples : t.examplesDump.sorted = t'.examplesDump.sorted :=
      h_value "examples" rfl rfl
    have h_placeholders : t.placeholdersDump.sorted = t'.placeholdersDump.sorted :=
      h_value "placeholder_schema" rfl rfl
    refine ⟨h_code, ?_⟩
    unfold content jsonb
    rw [DumpValue.sorted_singleton, DumpValue.sorted_singleton, h_name, h_domain, h_type, h_use,
      h_description, h_rules, h_provenance, h_examples, h_placeholders]
  · -- and the content under each key gives the sorted entries
    rintro ⟨h_code, h_content⟩
    unfold content jsonb at h_content
    obtain ⟨h_name, h_domain, h_type, h_use, h_description, h_wrapped, h_provenance, h_examples,
      h_placeholders⟩ := TemplateContent.mk.inj h_content
    rw [DumpValue.sorted_singleton, DumpValue.sorted_singleton] at h_wrapped
    have h_rules : t.rulesDump.sorted = t'.rulesDump.sorted := by
      obtain ⟨h_entry, -⟩ := List.cons.inj (DumpValue.dict.inj h_wrapped)
      exact (Prod.mk.inj h_entry).2
    -- the entries are sorted one by one
    have h_values : DumpValue.sortedValues (("revision", DumpValue.int revision) :: t.dump) =
        DumpValue.sortedValues (("revision", DumpValue.int revision) :: t'.dump) := by
      simp only [dump, DumpValue.sortedValues, h_code, h_name, h_domain, h_type, h_use,
        Option.some.inj h_description, h_rules, h_provenance, h_examples, h_placeholders]
    unfold digested
    rw [DumpValue.sorted, DumpValue.sorted, h_values]

end PackTemplate

/-! ### What the table holds -/

/-- The provenance of rows that were there before packs. -/
def legacyProvenance : DumpValue := .dict [("kind", .str "LEGACY_UNVERIFIED")]

/-- The row has no digest, or the one of its content. -/
def RulesetTemplate.Sound (sha256 : ByteArray → String) (row : RulesetTemplate) : Prop :=
  (row.payloadSha256 = none ∧ row.content.provenance = legacyProvenance) ∨
    ∃ t : PackTemplate, row.templateCode = t.templateCode ∧ row.content = t.content ∧
      row.payloadSha256 = some (templateDigest sha256 t row.revision)

/-- SHA-256 gives two texts no common digest, unless they are one text. -/
def NoCollision (sha256 : ByteArray → String) (a b : ByteArray) : Prop :=
  sha256 a = sha256 b → a = b

/-- Every row of the table is sound. -/
def TemplateDb.Sound (sha256 : ByteArray → String) (db : TemplateDb) : Prop :=
  ∀ row ∈ db.rows.rows, row.Sound sha256

/-- The provenance of a pack has more to say than a legacy row. -/
theorem provenance_ne_legacy (p : Provenance) : jsonb p.dump ≠ legacyProvenance := by
  intro h
  unfold jsonb Provenance.dump legacyProvenance at h
  rw [DumpValue.sorted_dict] at h
  have h_length := congrArg List.length (DumpValue.dict.inj h)
  rw [List.length_map, Json.sortedEntries, List.length_mergeSort] at h_length
  cases h_length

section Rows

variable {sha256 : ByteArray → String} {row : RulesetTemplate} {t : PackTemplate}

/-- A stored row with the content of a template has its digest. -/
theorem payloadSha256_of_content (h : row.Sound sha256) (h_code : row.templateCode = t.templateCode)
    (h_content : row.content = t.content) :
    row.payloadSha256 = some (templateDigest sha256 t row.revision) := by
  rcases h with ⟨-, h_legacy⟩ | ⟨t', h_code', h_content', h_digest⟩
  · rw [h_content] at h_legacy
    exact absurd h_legacy (provenance_ne_legacy t.provenance)
  · have h_same : (t'.digested row.revision).sorted = (t.digested row.revision).sorted :=
      PackTemplate.digested_eq_iff.mpr ⟨h_code'.symm.trans h_code, h_content'.symm.trans h_content⟩
    rw [h_digest, templateDigest, templateDigest, computeDeterministicHash,
      computeDeterministicHash, hashedBytes_eq_iff.mpr h_same]

/-- What a row was imported from does not collide with a template. -/
def RulesetTemplate.Distinguished (sha256 : ByteArray → String) (row : RulesetTemplate)
    (t : PackTemplate) : Prop :=
  ∀ t' : PackTemplate, row.content = t'.content →
    NoCollision sha256 (hashedBytes (t'.digested row.revision))
      (hashedBytes (t.digested row.revision))

/-- Without a collision, a stored row with the digest of a template has its content. -/
theorem content_of_payloadSha256 (h : row.Sound sha256) (h_collision : row.Distinguished sha256 t)
    (h_digest : row.payloadSha256 = some (templateDigest sha256 t row.revision)) :
    row.content = t.content := by
  rcases h with ⟨h_none, -⟩ | ⟨t', -, h_content, h_digest'⟩
  · rw [h_none] at h_digest
    cases h_digest
  · rw [h_digest'] at h_digest
    have h_bytes := h_collision t' h_content (Option.some.inj h_digest)
    rw [h_content, (PackTemplate.digested_eq_iff.mp (hashedBytes_eq_iff.mp h_bytes)).2]

/-- A row that `import_pack` builds carries the digest of its own content. -/
theorem sound_newTemplate (sha256 : ByteArray → String) (req : ImportPackRequest) (t : PackTemplate)
    (n : ℕ) : (newTemplate sha256 req t n).Sound sha256 :=
  .inr ⟨t, rfl, rfl, rfl⟩

end Rows

/-- Rows are added and never changed, and soundness is kept. -/
structure TemplateDb.Grows (sha256 : ByteArray → String) (db db' : TemplateDb) : Prop where
  rows : ∀ row ∈ db.rows.rows, row ∈ db'.rows.rows
  sound : db.Sound sha256 → db'.Sound sha256

namespace TemplateDb

variable {sha256 : ByteArray → String} {db db₁ db₂ db₃ : TemplateDb} {row row' : RulesetTemplate}

theorem Grows.refl (db : TemplateDb) : Grows sha256 db db := ⟨fun _ h => h, id⟩

/-- Rows are only ever added, so growth composes. -/
theorem Grows.trans (h : Grows sha256 db₁ db₂) (h' : Grows sha256 db₂ db₃) :
    Grows sha256 db₁ db₃ :=
  ⟨fun r h_r => h'.rows r (h.rows r h_r), fun h_sound => h'.sound (h.sound h_sound)⟩

/-- An insert adds its row at the end. -/
theorem rows_of_insert (h : db.insert row = some db₁) :
    db₁.rows.rows = db.rows.rows ++ [row] := by
  unfold insert at h
  cases h_rows : db.rows.insert row with
  | none =>
    rw [h_rows] at h
    cases h
  | some rows =>
    simp only [h_rows] at h
    split at h
    · cases h
      exact Table.rows_of_insert h_rows
    · cases h

/-- The unique key of the table: one row per tenant, id and revision. -/
theorem eq_of_revisionKey (h : row ∈ db.rows.rows) (h' : row' ∈ db.rows.rows)
    (h_key : row.revisionKey = row'.revisionKey) : row = row' :=
  db.unique.eq_of_mem h h' rfl (congrArg some h_key.symm)

end TemplateDb

/-! ### How an import ends -/

/-- The writes add these rows. -/
def Adds (new : List RulesetTemplate) (writes : TemplateDb → Option TemplateDb) : Prop :=
  ∀ db view, writes db = some view → view.rows.rows = db.rows.rows ++ new

theorem adds_nil : Adds [] some := by
  intro db view h
  rw [← Option.some.inj h, List.append_nil]

/-- The row is the one of a template of the request. -/
structure RulesetTemplate.StoredAs (row : RulesetTemplate) (req : ImportPackRequest)
    (t : PackTemplate) : Prop where
  tenantId : row.tenantId = some req.tenantId
  templateCode : row.templateCode = t.templateCode
  revision : row.revision = req.pack.revision

/-- Rows stored for one template of one request have one key. -/
theorem RulesetTemplate.StoredAs.revisionKey {row row' : RulesetTemplate} {req : ImportPackRequest}
    {t : PackTemplate} (h : row.StoredAs req t) (h' : row'.StoredAs req t) :
    row.revisionKey = row'.revisionKey := by
  unfold RulesetTemplate.revisionKey
  rw [h.tenantId, h.templateCode, h.revision, h'.tenantId, h'.templateCode, h'.revision]

/-- The row built for a template is stored as that template. -/
theorem storedAs_newTemplate (sha256 : ByteArray → String) (req : ImportPackRequest)
    (t : PackTemplate) (n : ℕ) : (newTemplate sha256 req t n).StoredAs req t := ⟨rfl, rfl, rfl⟩

section Ends

variable {sha256 : ByteArray → String} {req : ImportPackRequest} {new : List RulesetTemplate}
  {writes : TemplateDb → Option TemplateDb} {db : TemplateDb}

/-- One more insert adds one more row. -/
theorem Adds.insert (h : Adds new writes) (row : RulesetTemplate) :
    Adds (new ++ [row]) fun db => (writes db).bind (TemplateDb.insert row) := by
  intro db view h_view
  obtain ⟨before, h_before, h_insert⟩ := Option.bind_eq_some_iff.mp h_view
  rw [TemplateDb.rows_of_insert h_insert, h db before h_before, List.append_assoc]

/-- The transaction sees the committed rows and its own. -/
theorem Adds.mem_view (h : Adds new writes) {view : TemplateDb} (h_view : writes db = some view)
    {row : RulesetTemplate} : row ∈ view.rows.rows ↔ row ∈ db.rows.rows ∨ row ∈ new := by
  rw [h db view h_view, List.mem_append]

/-- An insert either finds its key taken, or adds its row to the transaction. -/
theorem ends_insertTemplate {row : RulesetTemplate}
    {K : Except HttpError Bool → (TemplateDb → Option TemplateDb) → TemplateDb → Prop}
    (h_adds : Adds new writes)
    (h_taken : ∀ db', db.Grows sha256 db' → K (.ok false) writes db')
    (h_new : ∀ writes' db', db.Grows sha256 db' → Adds (new ++ [row]) writes' →
      K (.ok true) writes' db') :
    (insertTemplate row).Ends (TemplateDb.Grows sha256) K writes db := by
  rw [insertTemplate, Txn.ends_bind, Txn.ends_select]
  intro db₁ h₁ view _
  show Txn.Ends _ (ite _ _ _) _ _ _
  split
  · exact h_taken db₁ h₁
  rw [Txn.ends_bind, Txn.ends_forUpdate]
  show Txn.Ends _ (_ >>= _) _ _ _
  rw [Txn.ends_bind, Txn.ends_forUpdate]
  show Txn.Ends _ (_ >>= _) _ _ _
  rw [Txn.ends_bind, Txn.ends_select]
  intro db₂ h₂ view' _
  show Txn.Ends _ (ite _ _ _) _ _ _
  split
  · exact h_taken db₂ (h₁.trans h₂)
  · exact h_new _ db₂ (h₁.trans h₂) (h_adds.insert row)

/-- Loading a row that is there ends in the row's item, as rows never go. -/
theorem ends_loadTemplate {row : RulesetTemplate} {tenantId : Uuid}
    {K : Except HttpError TemplateItem → (TemplateDb → Option TemplateDb) → TemplateDb → Prop}
    (h_adds : Adds new writes) (h_row : row ∈ db.rows.rows ∨ row ∈ new)
    (h_tenant : row.tenantId = some tenantId)
    (h_item : ∀ db', db.Grows sha256 db' → K (.ok row.item) writes db') :
    (loadTemplate row.templateId tenantId).Ends (TemplateDb.Grows sha256) K writes db := by
  rw [loadTemplate, Txn.ends_bind, Txn.ends_select]
  intro db' h_db' view h_view
  have h_mem : row ∈ view.rows.rows :=
    (h_adds.mem_view h_view).mpr (h_row.imp_left (h_db'.rows row))
  have h_find : view.rows.find? row.templateId = some row :=
    Table.find?_eq_some_iff.mpr ⟨h_mem, rfl⟩
  have h_visible : TemplateDb.findVisible row.templateId tenantId view = some row := by
    rw [TemplateDb.findVisible, h_find]
    simp [Option.filter, h_tenant]
  rw [h_visible]
  exact h_item db' h_db'

/-- What a template finds: its row is inserted, or one has its digest, or there is none. -/
theorem ends_importTemplate (t : PackTemplate) (n : ℕ) {K : Except HttpError (TemplateItem × Bool) →
      (TemplateDb → Option TemplateDb) → TemplateDb → Prop} (h_adds : Adds new writes)
    (h_created : ∀ writes' db', db.Grows sha256 db' →
      Adds (new ++ [newTemplate sha256 req t n]) writes' →
        K (.ok ((newTemplate sha256 req t n).item, true)) writes' db')
    (h_existing : ∀ row db', db.Grows sha256 db' → (row ∈ db'.rows.rows ∨ row ∈ new) →
      row.StoredAs req t → row.payloadSha256 = some (templateDigest sha256 t req.pack.revision) →
        K (.ok (row.item, false)) writes db')
    (h_conflict : ∀ db', db.Grows sha256 db' →
      (∀ row, row ∈ db'.rows.rows ∨ row ∈ new → row.StoredAs req t →
        row.payloadSha256 ≠ some (templateDigest sha256 t req.pack.revision)) →
        K (.error templateRevisionConflict) writes db') :
    (importTemplate sha256 req t n).Ends (TemplateDb.Grows sha256) K writes db := by
  rw [importTemplate, Txn.ends_bind]
  refine ends_insertTemplate h_adds (fun db₁ h₁ => ?_) (fun writes' db₁ h₁ h_adds' => ?_)
  · -- the insert conflicts with the row of the same revision
    show Txn.Ends _ (_ >>= _) _ _ _
    rw [Txn.ends_bind, Txn.ends_select]
    intro db₂ h₂ view h_view
    -- the row of the revision, if there is one, is the only one
    have h_storedAs : ∀ row, row ∈ view.rows.rows → row.StoredAs req t →
        TemplateDb.findRevision req.tenantId t.templateCode req.pack.revision view = some row := by
      intro row h_row h_stored
      have h_selected : (decide (row.tenantId = some req.tenantId) &&
          decide (row.templateCode = t.templateCode) &&
            decide (row.revision = req.pack.revision)) = true := by
        simp [h_stored.tenantId, h_stored.templateCode, h_stored.revision]
      have h_some : (TemplateDb.findRevision req.tenantId t.templateCode req.pack.revision
          view).isSome := by
        rw [TemplateDb.findRevision, List.find?_isSome]
        exact ⟨row, h_row, h_selected⟩
      obtain ⟨row', h_find⟩ := Option.isSome_iff_exists.mp h_some
      have h_row' := List.find?_some h_find
      simp only [Bool.and_eq_true, decide_eq_true_eq] at h_row'
      rw [h_find, TemplateDb.eq_of_revisionKey h_row (List.mem_of_find?_eq_some h_find)
        (h_stored.revisionKey ⟨h_row'.1.1, h_row'.1.2, h_row'.2⟩)]
    have h_absent : ∀ {found : Option RulesetTemplate},
        TemplateDb.findRevision req.tenantId t.templateCode req.pack.revision view = found →
        (∀ row ∈ found, row.payloadSha256 ≠ some (templateDigest sha256 t req.pack.revision)) →
        ∀ row, row ∈ db₂.rows.rows ∨ row ∈ new → row.StoredAs req t →
          row.payloadSha256 ≠ some (templateDigest sha256 t req.pack.revision) := by
      intro found h_found h_digest row h_row h_stored
      have h_find := h_storedAs row ((h_adds.mem_view h_view).mpr h_row) h_stored
      rw [h_found] at h_find
      exact h_digest row h_find
    -- only a row of this revision with the same content is answered
    cases h_find : TemplateDb.findRevision req.tenantId t.templateCode req.pack.revision view with
    | none =>
      exact h_conflict db₂ (h₁.trans h₂) (h_absent h_find fun row h_row => nomatch h_row)
    | some row =>
      show Txn.Ends _ (ite _ _ _) _ _ _
      split
      · rename_i h_digest
        have h_selected := List.find?_some h_find
        simp only [Bool.and_eq_true, decide_eq_true_eq] at h_selected
        have h_mem := (h_adds.mem_view h_view).mp (List.mem_of_find?_eq_some h_find)
        rw [Txn.ends_bind]
        refine ends_loadTemplate h_adds h_mem h_selected.1.1 fun db₃ h₃ => ?_
        exact h_existing row db₃ (h₁.trans (h₂.trans h₃)) (h_mem.imp_left (h₃.rows row))
          ⟨h_selected.1.1, h_selected.1.2, h_selected.2⟩ h_digest
      · -- the same revision with another content is refused
        rename_i h_digest
        refine h_conflict db₂ (h₁.trans h₂) (h_absent h_find fun row' h_row' => ?_)
        rw [← Option.some.inj h_row']
        exact h_digest
  · -- inserted: the new row is read back
    show Txn.Ends _ (_ >>= _) _ _ _
    rw [Txn.ends_bind]
    have h_own : newTemplate sha256 req t n ∈ db₁.rows.rows ∨
        newTemplate sha256 req t n ∈ new ++ [newTemplate sha256 req t n] :=
      .inr (List.mem_append_right new (List.mem_singleton_self _))
    exact ends_loadTemplate h_adds' h_own rfl fun db₂ h₂ =>
      h_created writes' db₂ (h₁.trans h₂) h_adds'

/-- What a template of a committed import has found. -/
def Imported (sha256 : ByteArray → String) (req : ImportPackRequest) (rows : List RulesetTemplate)
    (t : PackTemplate) (item : TemplateItem) : Prop :=
  ∃ row ∈ rows, row.StoredAs req t ∧
    row.payloadSha256 = some (templateDigest sha256 t req.pack.revision) ∧ item = row.item

/-- The end of the loop over some templates: all are found in the end, or one conflicts. -/
def LoopEnd (sha256 : ByteArray → String) (req : ImportPackRequest)
    (templates : List PackTemplate) :
    Except HttpError (List TemplateItem × ℕ) → (TemplateDb → Option TemplateDb) → TemplateDb → Prop
  -- the rows that were inserted, and an item for each template
  | .ok (items, created) => fun writes db => ∃ new, Adds new writes ∧ created = new.length ∧
      (∀ row ∈ new, ∃ t ∈ templates, row.StoredAs req t) ∧
      List.Forall₂ (Imported sha256 req (db.rows.rows ++ new)) templates items
  -- a template is there with another content
  | .error e => fun _ db => e = templateRevisionConflict ∧ ∃ t ∈ templates,
      ∀ row ∈ db.rows.rows, row.StoredAs req t →
        row.payloadSha256 ≠ some (templateDigest sha256 t req.pack.revision)

/-- A template stays imported while rows are added. -/
theorem Imported.mono {rows rows' : List RulesetTemplate} {t : PackTemplate} {item : TemplateItem}
    (h : Imported sha256 req rows t item) (h_rows : ∀ row ∈ rows, row ∈ rows') :
    Imported sha256 req rows' t item := by
  obtain ⟨row, h_row, h_stored⟩ := h
  exact ⟨row, h_rows row h_row, h_stored⟩

/-- Later rounds keep what earlier ones have found. -/
theorem ends_importTemplates (rest : List (PackTemplate × ℕ)) :
    ∀ {done : List PackTemplate} {items : List TemplateItem} {new : List RulesetTemplate}
      {writes : TemplateDb → Option TemplateDb} {db : TemplateDb}, Adds new writes →
      (∀ row ∈ new, ∃ t ∈ done ++ rest.map (·.1), row.StoredAs req t) →
      List.Forall₂ (Imported sha256 req (db.rows.rows ++ new)) done items →
      (importTemplates sha256 req rest items new.length).Ends (TemplateDb.Grows sha256)
        (LoopEnd sha256 req (done ++ rest.map (·.1))) writes db := by
  -- on the templates that are left, with the rows so far
  induction rest with
  | nil =>
    intro done items new writes db h_adds h_new h_items
    rw [List.map_nil, List.append_nil] at h_new ⊢
    exact ⟨new, h_adds, rfl, h_new, h_items⟩
  | cons x rest ih =>
    obtain ⟨t, n⟩ := x
    intro done items new writes db h_adds h_new h_items
    have h_split : done ++ ((t, n) :: rest).map (·.1) = (done ++ [t]) ++ rest.map (·.1) := by
      rw [List.map_cons, List.append_assoc, List.singleton_append]
    have h_t : t ∈ (done ++ [t]) ++ rest.map (·.1) :=
      List.mem_append_left _ (List.mem_append_right done (List.mem_singleton_self t))
    rw [h_split] at h_new ⊢
    rw [importTemplates, Txn.ends_bind]
    refine ends_importTemplate t n h_adds (fun writes' db' h_grows h_adds' => ?_)
      (fun row db' h_grows h_row h_stored h_digest => ?_) (fun db' h_grows h_absent => ?_)
    · -- inserted: one row more
      have h_length : new.length + 1 = (new ++ [newTemplate sha256 req t n]).length := by
        rw [List.length_append, List.length_singleton]
      show (importTemplates sha256 req rest (items ++ [_]) (new.length + 1)).Ends _ _ _ _
      rw [h_length]
      refine ih h_adds' (fun row h_row => ?_) (List.rel_append ?_ (.cons ?_ .nil))
      · rcases List.mem_append.mp h_row with h_old | h_own
        · exact h_new row h_old
        · rw [List.mem_singleton.mp h_own]
          exact ⟨t, h_t, storedAs_newTemplate sha256 req t n⟩
      · refine h_items.imp fun _ _ h_imported => h_imported.mono fun row h_row => ?_
        rw [List.mem_append] at h_row
        rw [List.mem_append, List.mem_append]
        exact h_row.imp (h_grows.rows row) .inl
      · refine ⟨newTemplate sha256 req t n, ?_, storedAs_newTemplate sha256 req t n, rfl, rfl⟩
        exact List.mem_append_right _ (List.mem_append_right _ (List.mem_singleton_self _))
    · -- found: the rows as before
      show (importTemplates sha256 req rest (items ++ [_]) new.length).Ends _ _ _ _
      refine ih h_adds h_new (List.rel_append ?_ (.cons ?_ .nil))
      · refine h_items.imp fun _ _ h_imported => h_imported.mono fun row' h_row' => ?_
        rw [List.mem_append] at h_row' ⊢
        exact h_row'.imp_left (h_grows.rows row')
      · exact ⟨row, List.mem_append.mpr h_row, h_stored, h_digest, rfl⟩
    · exact ⟨rfl, t, h_t, fun row h_row h_stored => h_absent row (.inl h_row) h_stored⟩

/-- The end of an import. -/
def ImportEnd (sha256 : ByteArray → String) (req : ImportPackRequest) :
    Except HttpError ImportPackAnswer → (TemplateDb → Option TemplateDb) → TemplateDb → Prop
  | .ok answer => fun writes db =>
      LoopEnd sha256 req req.pack.templates (.ok (answer.items, answer.created)) writes db ∧
        answer.existing = answer.items.length - answer.created
  | .error e => LoopEnd sha256 req req.pack.templates (.error e)

/-- The loop over the templates imports each one, or ends in the first conflict. -/
theorem ends_importPack (sha256 : ByteArray → String) (req : ImportPackRequest) (db : TemplateDb) :
    (importPack sha256 req).Ends (TemplateDb.Grows sha256) (ImportEnd sha256 req) some db := by
  have h_loop : (importTemplates sha256 req req.pack.templates.zipIdx [] 0).Ends
      (TemplateDb.Grows sha256)
      (LoopEnd sha256 req ([] ++ req.pack.templates.zipIdx.map (·.1))) some db :=
    ends_importTemplates req.pack.templates.zipIdx adds_nil (List.forall_mem_nil _) .nil
  rw [List.nil_append, List.zipIdx_map_fst] at h_loop
  rw [importPack, Txn.ends_bind]
  refine h_loop.mono fun x writes db' h_end => ?_
  cases x with
  | ok result => exact ⟨h_end, rfl⟩
  | error e => exact h_end

end Ends

/-! ### Imports in any interleaving -/

/-- Whatever an insert commits, the table only grows. -/
theorem writes_insertTemplate {sha256 : ByteArray → String} {row : RulesetTemplate}
    (h : row.Sound sha256) : (insertTemplate row).Writes (TemplateDb.Grows sha256) := by
  have h_insert : ∀ db db', TemplateDb.insert row db = some db' → db.Grows sha256 db' := by
    intro db db' h_db'
    have h_rows := TemplateDb.rows_of_insert h_db'
    refine ⟨fun r h_r => ?_, fun h_sound r h_r => ?_⟩
    · rw [h_rows]
      exact List.mem_append_left _ h_r
    · rw [h_rows, List.mem_append, List.mem_singleton] at h_r
      rcases h_r with h_old | rfl
      · exact h_sound r h_old
      · exact h
  intro db
  show Txn.Writes _ (ite _ _ _)
  split
  · trivial
  intro db'
  show Txn.Writes _ (ite _ _ _)
  split
  · trivial
  · exact ⟨h_insert, trivial⟩

/-- Loading a template commits nothing. -/
theorem writes_loadTemplate (sha256 : ByteArray → String) (templateId tenantId : Uuid) :
    (loadTemplate templateId tenantId).Writes (TemplateDb.Grows sha256) := by
  refine Txn.Writes.bind (fun _ => trivial) fun row => ?_
  cases row with
  | none => exact trivial
  | some row => exact trivial

/-- A whole import only ever lets the table grow. -/
theorem writes_importPack (sha256 : ByteArray → String) (req : ImportPackRequest) :
    (importPack sha256 req).Writes (TemplateDb.Grows sha256) := by
  have h_template : ∀ t n, (importTemplate sha256 req t n).Writes (TemplateDb.Grows sha256) := by
    intro t n
    refine (writes_insertTemplate (sound_newTemplate sha256 req t n)).bind fun inserted => ?_
    cases inserted with
    | true => exact (writes_loadTemplate sha256 _ _).bind fun _ => trivial
    | false =>
      refine Txn.Writes.bind (fun _ => trivial) fun row => ?_
      cases row with
      | none => exact trivial
      | some row =>
        show Txn.Writes _ (ite _ _ _)
        split
        · exact (writes_loadTemplate sha256 _ _).bind fun _ => trivial
        · trivial
  have h_loop : ∀ rest items created,
      (importTemplates sha256 req rest items created).Writes (TemplateDb.Grows sha256) := by
    intro rest
    induction rest with
    | nil => exact fun _ _ => trivial
    | cons x rest ih => exact fun items created => (h_template x.1 x.2).bind fun _ => ih _ _
  exact (h_loop _ _ _).bind fun _ => trivial

/-- The states of imports in any interleaving. -/
abbrev TemplateState :=
  TxnState ℕ ImportPackRequest TemplateDb TemplateLock HttpError ImportPackAnswer

/-- The states that are reached from a table with sound rows. -/
def TemplatesReachable (sha256 : ByteArray → String) (s : TemplateState) : Prop :=
  Reachable (TxnSystem.Initial (TemplateDb.Sound sha256)) (TxnSystem.Step (templateSystem sha256)) s

/-- All templates of a request are stored with the content that they have. -/
def AllStored (db : TemplateDb) (req : ImportPackRequest) : Prop :=
  ∀ t ∈ req.pack.templates, ∃ row ∈ db.rows.rows, row.StoredAs req t ∧ row.content = t.content

/-- How the step from `s₁` to `s₂` ends a request that has begun after `s`. -/
structure ImportSince (sha256 : ByteArray → String) (i : ℕ) (req : ImportPackRequest)
    (s s₁ s₂ : TemplateState) : Prop where
  counted : ∀ answer, s₂.log = .committed i req answer :: s₁.log →
    answer.created + answer.existing = req.pack.templates.length
  /-- A pack that is stored is not stored again: the answer has the rows there are. -/
  replayed : AllStored s.db req →
    (∀ answer, s₂.log = .committed i req answer :: s₁.log → answer.created = 0 ∧ s₂.db = s₁.db ∧
      List.Forall₂ (fun t item => ∃ row ∈ s.db.rows.rows, row.StoredAs req t ∧ item = row.item)
        req.pack.templates answer.items) ∧
    ∀ e, s₂.log ≠ .rolledBack i req (some e) :: s₁.log
  /-- A pack with a template that is stored with another content is refused. -/
  conflicting : ∀ t ∈ req.pack.templates, ∀ row ∈ s.db.rows.rows, row.StoredAs req t →
    row.content ≠ t.content → row.Distinguished sha256 t →
    (∀ answer, s₂.log ≠ .committed i req answer :: s₁.log) ∧
    ∀ e, s₂.log = .rolledBack i req (some e) :: s₁.log → e = templateRevisionConflict
  /-- Only what is committed changes the table: a request that is rolled back leaves nothing. -/
  uncommitted : (∀ j r answer, s₂.log ≠ .committed j r answer :: s₁.log) → s₂.db = s₁.db

section Run

variable {sha256 : ByteArray → String} {s s₁ s₂ : TemplateState}

/-- Along every run of the system the table only grows. -/
theorem grows_of_run (h : TemplatesReachable sha256 s)
    (h_run : ReflTransGen (TxnSystem.Step (templateSystem sha256)) s s₁) :
    s.db.Grows sha256 s₁.db :=
  TxnSystem.rel_of_writes TemplateDb.Grows.refl
    (fun _ _ _ h_first h_second => h_first.trans h_second) (writes_importPack sha256) h h_run

/-- In every reachable state each row carries the digest of its own content. -/
theorem sound_of_reachable (h : TemplatesReachable sha256 s) : s.db.Sound sha256 := by
  obtain ⟨s₀, h₀, h_run⟩ := h
  exact (grows_of_run (.of_initial h₀) h_run).sound h₀.1

/-- A committed import, seen from the state that it commits. -/
theorem committed_import {i : ℕ} {req : ImportPackRequest} (h : TemplatesReachable sha256 s)
    (h_closed : s.opened i = none)
    (h_run : ReflTransGen (TxnSystem.Step (templateSystem sha256)) s s₁)
    (h_step : TxnSystem.Step (templateSystem sha256) s₁ s₂) {answer : ImportPackAnswer}
    (h_log : s₂.log = .committed i req answer :: s₁.log) :
    ∃ new, s₂.db.rows.rows = s₁.db.rows.rows ++ new ∧ answer.created = new.length ∧
      (∀ row ∈ new, ∃ t ∈ req.pack.templates, row.StoredAs req t) ∧
      List.Forall₂ (Imported sha256 req s₂.db.rows.rows) req.pack.templates answer.items ∧
      answer.existing = answer.items.length - answer.created := by
  have h_ends := TxnSystem.ends_of_run (ends_importPack sha256 req s.db)
    (fun u u' h_u h_after => grows_of_run (h.run h_u) h_after) h_closed h_run h_step
  obtain ⟨writes, db, ⟨⟨new, h_adds, h_created, h_new, h_items⟩, h_existing⟩, h_grows, h_writes⟩ :=
    h_ends.1 answer h_log
  have h_rows := h_adds s₁.db s₂.db h_writes
  refine ⟨new, h_rows, h_created, h_new, h_items.imp fun _ _ h_imported => ?_, h_existing⟩
  refine h_imported.mono fun row h_row => ?_
  rw [List.mem_append] at h_row
  rw [h_rows, List.mem_append]
  exact h_row.imp_left (h_grows.rows row)

/-- An import that ends in an error, which has found no row with the digest of some template. -/
theorem refused_import {i : ℕ} {req : ImportPackRequest} (h : TemplatesReachable sha256 s)
    (h_closed : s.opened i = none)
    (h_run : ReflTransGen (TxnSystem.Step (templateSystem sha256)) s s₁)
    (h_step : TxnSystem.Step (templateSystem sha256) s₁ s₂) {e : HttpError}
    (h_log : s₂.log = .rolledBack i req (some e) :: s₁.log) :
    e = templateRevisionConflict ∧ ∃ t ∈ req.pack.templates, ∀ row ∈ s.db.rows.rows,
      row.StoredAs req t →
        row.payloadSha256 ≠ some (templateDigest sha256 t req.pack.revision) := by
  have h_ends := TxnSystem.ends_of_run (ends_importPack sha256 req s.db)
    (fun u u' h_u h_after => grows_of_run (h.run h_u) h_after) h_closed h_run h_step
  obtain ⟨writes, db, ⟨h_conflict, t, h_t, h_absent⟩, h_grows⟩ := h_ends.2 e h_log
  exact ⟨h_conflict, t, h_t, fun row h_row => h_absent row (h_grows.rows row h_row)⟩

/-- The rows are all there is to the table. -/
theorem db_eq_of_rows {db db' : TemplateDb} (h : db.rows.rows = db'.rows.rows) : db = db' := by
  obtain ⟨⟨rows, _⟩, _⟩ := db
  obtain ⟨⟨rows', _⟩, _⟩ := db'
  obtain rfl : rows = rows' := h
  rfl

/-- Rows that are added have keys that were not there. -/
theorem new_eq_nil {db db' : TemplateDb} {req : ImportPackRequest} {new : List RulesetTemplate}
    (h_rows : db'.rows.rows = db.rows.rows ++ new)
    (h_new : ∀ row ∈ new, ∃ t ∈ req.pack.templates, row.StoredAs req t)
    (h_stored : ∀ t ∈ req.pack.templates, ∃ row ∈ db.rows.rows, row.StoredAs req t) : new = [] := by
  refine List.eq_nil_iff_forall_not_mem.mpr fun row h_row => ?_
  obtain ⟨t, h_t, h_as⟩ := h_new row h_row
  obtain ⟨row', h_row', h_as'⟩ := h_stored t h_t
  have h_mem : ∀ r, r ∈ db'.rows.rows ↔ r ∈ db.rows.rows ∨ r ∈ new := fun r => by
    rw [h_rows, List.mem_append]
  -- the row would be there twice
  obtain rfl := TemplateDb.eq_of_revisionKey ((h_mem row).mpr (.inr h_row))
    ((h_mem row').mpr (.inl h_row')) (h_as.revisionKey h_as')
  have h_nodup := db'.rows.nodup_keys
  rw [h_rows, List.map_append, List.nodup_append] at h_nodup
  exact h_nodup.2.2 _ (List.mem_map_of_mem h_row') _ (List.mem_map_of_mem h_row) rfl

/-- What one import has seen and added since it started, whatever the others did meanwhile.
-/
theorem importSince {i : ℕ} {req : ImportPackRequest} (h : TemplatesReachable sha256 s)
    (h_closed : s.opened i = none)
    (h_run : ReflTransGen (TxnSystem.Step (templateSystem sha256)) s s₁)
    (h_step : TxnSystem.Step (templateSystem sha256) s₁ s₂) :
    ImportSince sha256 i req s s₁ s₂ := by
  have h_grows := grows_of_run h h_run
  have h_grows' := grows_of_run h (h_run.tail h_step)
  have h_sound := sound_of_reachable h
  -- what committed before, now and never
  refine ⟨fun answer h_log => ?_, fun h_all => ⟨fun answer h_log => ?_, fun e h_log => ?_⟩,
    fun t h_t row h_row h_stored h_content h_distinguished => ⟨fun answer h_log => ?_,
      fun e h_log => ?_⟩, TxnSystem.db_of_uncommitted h_step⟩
  · -- the import finds its own rows
    obtain ⟨-, -, -, -, h_items, h_existing⟩ := committed_import h h_closed h_run h_step h_log
    rw [h_existing, h_items.length_eq]
    omega
  · -- all rows are there: nothing is created
    obtain ⟨new, h_rows, h_created, h_new, h_items, -⟩ :=
      committed_import h h_closed h_run h_step h_log
    have h_nil : new = [] := by
      refine new_eq_nil h_rows h_new fun t h_t => ?_
      obtain ⟨row, h_row, h_as, -⟩ := h_all t h_t
      exact ⟨row, h_grows.rows row h_row, h_as⟩
    subst h_nil
    rw [List.append_nil] at h_rows
    refine ⟨h_created, db_eq_of_rows h_rows, ?_⟩
    have h_each : ∀ t item, t ∈ req.pack.templates → Imported sha256 req s₂.db.rows.rows t item →
        ∃ row ∈ s.db.rows.rows, row.StoredAs req t ∧ item = row.item := by
      rintro t item h_t ⟨row, h_row, h_as, -, rfl⟩
      obtain ⟨row', h_row', h_as', -⟩ := h_all t h_t
      have h_same := TemplateDb.eq_of_revisionKey h_row (h_grows'.rows row' h_row')
        (h_as.revisionKey h_as')
      exact ⟨row', h_row', h_as', congrArg RulesetTemplate.item h_same⟩
    exact List.forall₂_iff_get.mpr ⟨h_items.length_eq, fun n h_n h_n' =>
      h_each _ _ (List.getElem_mem h_n) (h_items.get h_n h_n')⟩
  · -- so it is not refused either
    obtain ⟨-, t, h_t, h_absent⟩ := refused_import h h_closed h_run h_step h_log
    obtain ⟨row, h_row, h_as, h_content⟩ := h_all t h_t
    refine h_absent row h_row h_as ?_
    rw [← h_as.revision]
    exact payloadSha256_of_content (h_sound row h_row) h_as.templateCode h_content
  · -- one of them has another content: the import does not commit
    obtain ⟨-, -, -, -, h_items, -⟩ := committed_import h h_closed h_run h_step h_log
    obtain ⟨item, -, row', h_row', h_as', h_digest, -⟩ := exists_right_of_mem h_items h_t
    -- the row that was found is the one with the other content
    obtain rfl := TemplateDb.eq_of_revisionKey h_row' (h_grows'.rows row h_row)
      (h_as'.revisionKey h_stored)
    rw [← h_as'.revision] at h_digest
    exact h_content (content_of_payloadSha256 (h_sound _ h_row) h_distinguished h_digest)
  · exact (refused_import h h_closed h_run h_step h_log).1

/-- **Revisions of templates.** In every interleaving of imports a revision of a tenant keeps the
row that it was stored as, and imports end as `ImportSince` says: the counts add up, a stored pack
is answered with its rows, a pack with another content is refused, and what is refused leaves
nothing behind. -/
theorem template_revisions (h : TemplatesReachable sha256 s) :
    (∀ s', ReflTransGen (TxnSystem.Step (templateSystem sha256)) s s' →
      ∀ row ∈ s.db.rows.rows, ∀ row' ∈ s'.db.rows.rows, row'.revisionKey = row.revisionKey →
        row' = row) ∧
    ∀ s₁ s₂, ReflTransGen (TxnSystem.Step (templateSystem sha256)) s s₁ →
      TxnSystem.Step (templateSystem sha256) s₁ s₂ → ∀ i req, s.opened i = none →
        ImportSince sha256 i req s s₁ s₂ := by
  refine ⟨fun s' h_run row h_row row' h_row' h_key => ?_, fun s₁ s₂ h_run h_step i req h_closed =>
    importSince h h_closed h_run h_step⟩
  exact TemplateDb.eq_of_revisionKey h_row' ((grows_of_run h h_run).rows row h_row) h_key

end Run

/-! ### A pack that is imported twice -/

/-- A template with one rule. -/
def emailTemplate : PackTemplate where
  templateCode := "CUSTOMER_MASTER"
  name := "Customer master"
  domain := .retail
  dataType := .masterData
  targetUseCase := "Onboarding"
  description := "Customers have an email address"
  rulesPayload := [[("rule_code", .str "EMAIL_PRESENT"), ("dimension", .str "COMPLETENESS"),
    ("rule_type", .str "NON_NULL"), ("parameters", .dict [("column", .str "$email")])]]
  provenance :=
    { kind := .engineeringConvention, sourceUri := "urn:pack", sourceTitle := "Conventions"
      sourceVersion := "1", sourceSection := "2", retrievedAt := "2026-01-01T00:00:00Z"
      license := "CC0", applicability := "Customers" }
  examples := [
    { input := [("email", .str "a@b.vn")], bindings := [("$email", .text "email")]
      expected := [("EMAIL_PRESENT", .passed)] },
    { input := [("email", .null)], bindings := [("$email", .text "email")]
      expected := [("EMAIL_PRESENT", .missing)] }]
  placeholderSchema := [("$email", .column)]

theorem revision_one_mem : 1 ≤ 1 ∧ 1 ≤ 2147483647 := by decide

theorem one_template_mem : 1 ≤ [emailTemplate].length ∧ [emailTemplate].length ≤ 100 := by decide

/-- The import of a pack with that template. -/
def emailImport : ImportPackRequest where
  pack := ⟨"CUSTOMERS", 1, [emailTemplate], revision_one_mem, one_template_mem,
    List.nodup_singleton _⟩
  tenantId := Uuid.repeated 1
  userId := Uuid.repeated 2
  templateIds := fun _ => Uuid.repeated 3

/-- The digest of the one text that the import hashes. -/
def emailSha256 : ByteArray → String := fun _ =>
  "c4ede2bd1b8a0b5494e68fc910748ee4214ed070b50228aaca84f650512bf5c7"

/-- The table without rows. -/
def noTemplates : TemplateDb := ⟨Table.empty, List.nodup_nil⟩

/-- Once the pack is committed, it is stored, and imports end as they should. -/
theorem template_revisions_imported : ∃ s : TemplateState,
    AllStored s.db emailImport ∧ ∀ s₁ s₂,
      ReflTransGen (TxnSystem.Step (templateSystem emailSha256)) s s₁ →
      TxnSystem.Step (templateSystem emailSha256) s₁ s₂ → ∀ i req, s.opened i = none →
        ImportSince emailSha256 i req s s₁ s₂ := by
  have h_rows : ((templateSystem emailSha256).serial [(0, emailImport)] noTemplates []).map
      (fun x => x.1.rows.rows) = some [newTemplate emailSha256 emailImport emailTemplate 0] := rfl
  obtain ⟨⟨db, log⟩, h_serial, h_db⟩ := Option.map_eq_some_iff.mp h_rows
  have h_allowed : (templateSystem emailSha256).SerialAllowed [(0, emailImport)] noTemplates [] :=
    TxnSystem.serialAllowed_of_forall (fun _ _ _ => trivial) _ _
  have h_run := TxnSystem.run_serial h_allowed h_serial
  have h_initial : TxnSystem.Initial (TemplateDb.Sound emailSha256)
      (⟨noTemplates, fun _ => none, []⟩ : TemplateState) :=
    ⟨List.forall_mem_nil _, fun _ => rfl, rfl⟩
  refine ⟨⟨db, fun _ => none, log⟩, fun t h_t => ?_,
    (template_revisions (.run (.of_initial h_initial) h_run)).2⟩
  obtain rfl := List.mem_singleton.mp h_t
  refine ⟨newTemplate emailSha256 emailImport emailTemplate 0, ?_,
    storedAs_newTemplate _ _ _ _, rfl⟩
  rw [show db.rows.rows = _ from h_db]
  exact List.mem_singleton_self _

end DqScoring
